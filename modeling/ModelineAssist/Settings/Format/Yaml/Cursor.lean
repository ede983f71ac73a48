import ModelineAssist.Settings.Format.Yaml.Scalar

/-!
Going through a YAML file character by character. The column at which something stands counts, as
does what is just before it on its line. Blanks, comments and line ends separate the parts of a
file.
-/
namespace ModelineAssist.Settings.Yaml

/-- A place in a file: what is still to be read, the column, whether a blank or the start of a line
is just before it, whether there are only blanks before it on its line, and the nodes that have been
given names. -/
structure Cursor where
  rest : List Char
  column : Nat
  spaced : Bool
  leading : Bool
  anchors : List (String × Node)

/-- A reader of parts of a file. -/
abbrev Scan := StateT Cursor Option

/-- Reads nothing, in vain. -/
def stuck {α : Type} : Scan α := fun _ => none

/-- Goes on only under a condition. -/
def need (b : Bool) : Scan Unit := if b then pure () else stuck

/-- Reads something, or nothing if that fails. -/
def attempt {α : Type} (r : Scan α) : Scan (Option α) := fun c =>
  match r c with
  | some (a, c) => some (some a, c)
  | none => some (none, c)

/-- The character at a distance. -/
def look (n : Nat) : Scan (Option Char) := fun c => some (c.rest[n]?, c)

/-- Passes over a character. -/
def step : Scan Unit := fun c =>
  match c.rest with
  | [] => none
  | '\n' :: cs => some ((), { c with rest := cs, column := 0, spaced := true, leading := true })
  | x :: cs =>
    let blank := x == ' ' || x == '\t'
    some ((), { c with
      rest := cs, column := c.column + 1, spaced := blank, leading := c.leading && blank })

/-- The current column. -/
def column : Scan Nat := fun c => some (c.column, c)

/-- Whether only blanks stand before the current place on its line. -/
def leading : Scan Bool := fun c => some (c.leading, c)

/-- How many characters are left. -/
def left : Scan Nat := fun c => some (c.rest.length, c)

/-- Blanks within a line. -/
def isBlankChar (c : Char) : Bool := c == ' ' || c == '\t'

/-- What may follow an indicator: a blank, a line end or the end of the file. -/
def separates (c : Option Char) : Bool :=
  match c with
  | none => true
  | some c => isBlankChar c || c == '\n'

/-- The brackets and commas of flow style. -/
def isFlowMark (c : Char) : Bool :=
  c == ',' || c == '[' || c == ']' || c == '\x7b' || c == '\x7d'

/-- Whether an indicator is next. -/
def indicatorNext (mark : Char) : Scan Bool := do
  return (← look 0) == some mark && separates (← look 1)

/-- Whether a line of three equal marks is next. -/
def markerNext (mark : Char) : Scan Bool := do
  return (← column) == 0 && (← look 0) == some mark && (← look 1) == some mark &&
    (← look 2) == some mark && separates (← look 3)

/-- Whether the document ends here. -/
def documentEnds : Scan Bool := do
  return (← look 0).isNone || (← markerNext '-') || (← markerNext '.')

/-- Passes over characters as long as they are as asked. -/
def skipWhile (p : Char → Bool) : Scan (List Char) := fun c =>
  let taken := c.rest.takeWhile p
  let spaced := match taken.getLast? with
    | some x => isBlankChar x
    | none => c.spaced
  some (taken, { c with
    rest := c.rest.drop taken.length, column := c.column + taken.length, spaced := spaced
    leading := c.leading && taken.all isBlankChar })

/-- Passes over blanks, comments and line ends. Tells whether a line end was among them and whether
the line that was reached is indented with tabs. -/
def skipSpace : Nat → Bool → Scan (Bool × Bool)
  | 0, _ => stuck
  | fuel + 1, crossed => do
    let blanks ← skipWhile isBlankChar
    if (← look 0) == some '#' then
      need (← fun c => some (c.spaced, c))
      let _ ← skipWhile (· != '\n')
    if (← look 0) == some '\n' then
      step
      skipSpace fuel true
    else return (crossed, crossed && blanks.any (· == '\t'))

/-- Passes over blanks, comments and line ends in block style, where tabs do not indent. Tells
whether a line end was among them. -/
def skipToContent : Scan Bool := do
  let (crossed, tabbed) ← skipSpace ((← left) + 1) false
  if tabbed && (← look 0).isSome then need ((← look 0).any isFlowMark)
  return crossed

/-- Passes over blanks, comments and line ends in flow style. -/
def skipInFlow : Scan Unit := do
  let _ ← skipSpace ((← left) + 1) false

/-- Line ends within a scalar: one alone reads as a blank, of more than one the first is left out.
-/
def folded (lineEnds : Nat) : List Char :=
  if lineEnds = 1 then [' '] else List.replicate (lineEnds - 1) '\n'

/-- Passes over the line ends within a scalar and the blanks around them; counts the line ends. -/
def foldLines : Nat → Nat → Scan Nat
  | 0, _ => stuck
  | fuel + 1, n => do
    let _ ← skipWhile isBlankChar
    if (← look 0) == some '\n' then
      step
      foldLines fuel (n + 1)
    else return n

end ModelineAssist.Settings.Yaml
