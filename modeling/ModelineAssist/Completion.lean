import ModelineAssist.Modeline.Cursor
import ModelineAssist.Position
import ModelineAssist.Registry.Builtin
import ModelineAssist.Settings.Basic
import ModelineAssist.Text.Lines

/-!
Completion of option names. Where a name is being typed in a modeline, every option is offered that
the policy accepts for the part left of the cursor. Taking an offer replaces the whole stretch
around the cursor by the name and a `=`, behind which the value goes.
-/
namespace ModelineAssist
open Text Modeline Registry

/-- An option offered at a place in a document. -/
structure Offer where
  candidate : Candidate
  /-- The stretch that taking the offer replaces. -/
  range : Range
  deriving DecidableEq, Repr

/-- What taking the offer writes. -/
def Offer.newText (o : Offer) : String := o.candidate.label ++ "="

/-- What clients that filter by themselves compare with. -/
def Offer.filterText (o : Offer) : String := o.candidate.label

/-- The offers at a place in a document; `none` where no option name is being typed. -/
def completion (text : List Char) (place : Position) (settings : Settings) :
    Option (List Offer) :=
  if settings.completions then
    (line? text place.line.toNat).bind fun line =>
      (typedNameAt line place.character.toNat).map fun typed =>
        (builtin.candidatesFor settings.policy (String.ofList typed.text)).map fun candidate =>
          ⟨candidate, Range.onLine place.line typed.start typed.stop⟩
  else none

end ModelineAssist
