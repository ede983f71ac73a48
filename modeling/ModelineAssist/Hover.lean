import ModelineAssist.Modeline.Cursor
import ModelineAssist.Position
import ModelineAssist.Registry.Builtin
import ModelineAssist.Settings.Basic
import ModelineAssist.Text.Lines

/-!
Hovering over an option name in a modeline shows what the option does.
-/
namespace ModelineAssist
open Text Modeline Registry

/-- The description of an option, and the name that it belongs to. -/
structure Description where
  entry : Entry
  range : Range
  deriving DecidableEq, Repr

/-- The description as Markdown: the name in bold, what it does, and a note if it is deprecated. -/
def Description.markdown (d : Description) : String :=
  s!"**{d.entry.name}**\n\n{d.entry.description}" ++
    if d.entry.deprecated then "\n\n*Deprecated*" else ""

/-- The description of the option name at a place in a document. -/
def hover (text : List Char) (place : Position) (settings : Settings) : Option Description :=
  if settings.hover then
    (line? text place.line.toNat).bind fun line =>
      (nameAt line place.character.toNat).bind fun span =>
        (builtin.get? (String.ofList span.name)).map fun entry =>
          ⟨entry, Range.onLine place.line span.start span.stop⟩
  else none

end ModelineAssist
