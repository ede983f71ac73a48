import ModelineAssist.Modeline.Cursor

/-!
What a cursor points at, found by offsets. The column is turned into an offset first, the parts
around the cursor are cut out of the line, and where a name starts and stops is computed from the
lengths of the parts and turned back into columns. A step that goes wrong ends the search.
-/
namespace ModelineAssist.Modeline
open Text

/-- A stretch of solid characters in a text, and what stands in front of it. -/
structure Stretch where
  front : List Char
  text : List Char
  deriving DecidableEq, Repr

/-- The same stretch in a text with one more character at its start. -/
def Stretch.shift (c : Char) (s : Stretch) : Stretch := ⟨c :: s.front, s.text⟩

/-- The name of an option: the stretch up to its first `=`. -/
def Stretch.name (s : Stretch) : List Char := s.text.takeWhile (· != '=')

/-- The offset at which a stretch starts in a text that itself starts at an offset. -/
def Stretch.start (s : Stretch) (offset : Nat) : Nat := offset + byteLength s.front

/-- Whether a cursor lies on a stretch or just past it. -/
def Stretch.touches (s : Stretch) (offset cursor : Nat) : Bool :=
  s.start offset ≤ cursor && cursor ≤ s.start offset + byteLength s.text

/-- Puts a solid character in front of stretches: it belongs to the first of them if nothing stands
in front of that one, and is a stretch of its own if not. -/
def prependSolid (c : Char) : List Stretch → List Stretch
  | [] => [⟨[], [c]⟩]
  | s :: ss =>
    if s.front = [] then ⟨[], c :: s.text⟩ :: ss.map (.shift c)
    else ⟨[], [c]⟩ :: (s :: ss).map (.shift c)

/-- The longest stretches of solid characters in a text. -/
def stretches : List Char → List Stretch
  | [] => []
  | c :: cs =>
    let behind := stretches cs
    if isSolid c then prependSolid c behind else behind.map (.shift c)

/-- The option name being typed at a column. -/
def typedNameByOffset (line : List Char) (column : Nat) :
    Except Misplaced (Option TypedName) := do
  let cursor ← offsetOfColumn line column
  match markerStop? line with
  | none => return none
  | some marker =>
    if cursor < marker then return none
    else
      let left ← slice line marker cursor
      let right ← slice line cursor (byteLength line)
      let before := solidEnd left
      let after := right.takeWhile isSolid
      if before.contains '=' || after.contains '=' then return none
      else
        let start ← goBack cursor (byteLength before)
        let startColumn ← columnOfOffset line start
        let stopColumn ← columnOfOffset line (cursor + byteLength after)
        return some ⟨before, startColumn, stopColumn⟩

/-- The option name that a column lies on or just behind. -/
def nameByOffset (line : List Char) (column : Nat) : Except Misplaced (Option NameSpan) :=
  match markerStop? line with
  | none => return none
  | some marker => do
    let cursor ← offsetOfColumn line column
    if cursor < marker then return none
    else
      let options ← slice line marker (byteLength line)
      match (stretches options).find? (·.touches marker cursor) with
      | none => return none
      | some s =>
        let stop := s.start marker + byteLength s.name
        if s.name = [] || stop < cursor then return none
        else
          let startColumn ← columnOfOffset line (s.start marker)
          let stopColumn ← columnOfOffset line stop
          return some ⟨s.name, startColumn, stopColumn⟩

end ModelineAssist.Modeline
