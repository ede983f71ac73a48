import ModelineAssist.Settings.Format.Yaml.Cursor

/-!
YAML scalars written as a block of indented lines, either as they stand or folded.
-/
namespace ModelineAssist.Settings.Yaml

/-- How the line ends behind a block scalar are kept. -/
inductive Chomping
  | strip | clip | keep
  deriving DecidableEq

/-- The marks behind the sign of a block scalar: how line ends are kept, and the indentation. -/
def blockMarks : Nat → Chomping × Option Nat → Scan (Chomping × Option Nat)
  | 0, marks => pure marks
  | fuel + 1, marks => do
    match ← look 0 with
    | some '-' => do step; blockMarks fuel (.strip, marks.2)
    | some '+' => do step; blockMarks fuel (.keep, marks.2)
    | some c =>
      if '1' ≤ c && c ≤ '9' then
        step
        blockMarks fuel (marks.1, some (c.toNat - 48))
      else pure marks
    | none => pure marks

/-- The lines of a block scalar without their indentation; an empty line is `[]`. The indentation is
that of the first line that is not empty, unless it was given. -/
def blockLines (indent : Int) : Nat → Option Nat → Scan (List (List Char))
  | 0, _ => stuck
  | fuel + 1, given => do
    if ← documentEnds then return []
    let spaces ← fun c => some ((c.rest.takeWhile (· == ' ')).length, c)
    let line ← fun c => some (c.rest.takeWhile (· != '\n'), c)
    let next := do
      let _ ← skipWhile (· != '\n')
      if (← look 0) == some '\n' then step
    if line.length == spaces && given.all (line.length ≤ ·) then
      next
      return [] :: (← blockLines indent fuel given)
    let width := given.getD spaces
    if spaces < width || (width : Int) ≤ indent then return []
    next
    return line.drop width :: (← blockLines indent fuel (some width))

/-- Whether a line of a folded block keeps the line ends around it. -/
def keepsEnds (line : List Char) : Bool := line.head?.any isBlankChar

/-- The lines of a folded block behind a line of it, after `empties` empty lines; `kept` tells
whether that line keeps its line ends. A single line end between two plain lines is a blank, and of
several the first one is dropped. -/
def foldBehind (empties : Nat) (kept : Bool) : List (List Char) → List Char
  | [] => []
  | line :: rest =>
    if line.isEmpty then foldBehind (empties + 1) kept rest
    else
      let ends := if kept || keepsEnds line then empties + 1 else empties
      let between := if ends = 0 then [' '] else List.replicate ends '\n'
      between ++ line ++ foldBehind 0 (keepsEnds line) rest

/-- The lines of a folded block as one text. The empty lines in front of it all stay. -/
def foldBlock : List (List Char) → List Char
  | [] => []
  | line :: rest =>
    if line.isEmpty then '\n' :: foldBlock rest
    else line ++ foldBehind 0 (keepsEnds line) rest

/-- Lines with line ends between them. -/
def joinLines : List (List Char) → List Char
  | [] => []
  | [line] => line
  | line :: lines => line ++ '\n' :: joinLines lines

/-- A block scalar. -/
def blockScalar (indent : Int) : Scan Node := do
  let isFolded := (← look 0) == some '>'
  step
  let (chomping, given) ← blockMarks 2 (.clip, none)
  let blanks ← skipWhile isBlankChar
  if !blanks.isEmpty && (← look 0) == some '#' then let _ ← skipWhile (· != '\n')
  need ((← look 0).all (· == '\n'))
  if (← look 0).isSome then step
  let lines ← blockLines indent ((← left) + 1) (given.map fun d => indent.toNat + d)
  let content := (lines.reverse.dropWhile (·.isEmpty)).reverse
  let text := if isFolded then foldBlock content else joinLines content
  let ends := match chomping with
    | .strip => 0
    | .clip => if content.isEmpty then 0 else 1
    | .keep => lines.length - content.length + if content.isEmpty then 0 else 1
  return .scalar .text (String.ofList (text ++ List.replicate ends '\n'))

end ModelineAssist.Settings.Yaml
