import ModelineAssist.Settings.Format.Yaml.BlockScalar
import ModelineAssist.Settings.Format.Yaml.Flow

/-!
YAML documents. In block style the column at which a line starts tells what it belongs to: the parts
of a node stand right of the node that holds it. A file holds one document at most.
-/
namespace ModelineAssist.Settings.Yaml

/-- A key on one line with the colon behind it. -/
def implicitKey : Scan Node := do
  let p := (← property ⟨none, none⟩).getD ⟨none, none⟩
  let _ ← skipWhile isBlankChar
  let p := (← property p).getD p
  let _ ← skipWhile isBlankChar
  let n ← left
  let node ← match ← look 0 with
    | some '*' => anchored
    | some '"' | some '\x27' => quotedScalar false
    | some '[' | some '\x7b' => (·.1) <$> flowContent (4 * n + 4) false
    | _ => plainScalar false false (-1)
  let _ ← skipWhile isBlankChar
  need (← indicatorNext ':')
  step
  settle p node

mutual

/-- The node behind an indicator. `indent` is the column of its holder; a sequence that belongs to a
mapping may stand at the column of the mapping; `inLine` tells whether a block may start on the line
of the indicator. -/
def nodeBehind : Nat → Int → Bool → Bool → Scan Node
  | 0, _, _, _ => stuck
  | fuel + 1, indent, level, inLine => do
    let crossed ← skipToContent
    if ← documentEnds then return .empty
    if crossed then
      let c : Int := ← column
      if c ≤ indent && !(level && c == indent && (← indicatorNext '-')) then return .empty
    content fuel indent level (crossed || inLine)

/-- A node at its first character. -/
def content : Nat → Int → Bool → Bool → Scan Node
  | 0, _, _, _ => stuck
  | fuel + 1, indent, level, block => do
    let c ← column
    if block && (← indicatorNext '-') then return ← blockItems fuel c
    if block && (← indicatorNext '?') then return ← blockEntries fuel c []
    if block && (← canRead implicitKey) then return ← blockEntries fuel c []
    match ← look 0 with
    | some '|' | some '>' => blockScalar indent
    | some '&' | some '!' =>
      match ← property ⟨none, none⟩ with
      | none => stuck
      | some p =>
        let _ ← skipWhile isBlankChar
        let p := (← property p).getD p
        settle p (← nodeBehind fuel indent level false)
    | some '*' => anchored
    | some '"' | some '\x27' => quotedScalar true
    | some '[' | some '\x7b' => return (← flowContent (4 * (← left) + 4) true).1
    | _ => plainScalar false true indent

/-- The items of a sequence whose dashes stand at a column. -/
def blockItems : Nat → Nat → Scan Node
  | 0, _ => stuck
  | fuel + 1, c => do
    step
    let _ ← nodeBehind fuel c false true
    let _ ← skipToContent
    if ← documentEnds then return .sequence
    need (← leading)
    if (← column) == c && (← indicatorNext '-') then blockItems fuel c
    else
      need ((← column) ≤ c)
      return .sequence

/-- The entries of a mapping whose keys stand at a column, after those already read. -/
def blockEntries : Nat → Nat → List (String × Node) → Scan Node
  | 0, _, _ => stuck
  | fuel + 1, c, before => do
    let (key, value) ←
      if ← indicatorNext '?' then do
        step
        let key ← nodeBehind fuel c true true
        let _ ← skipToContent
        if (← leading) && (← column) == c && (← indicatorNext ':') then
          step
          pure (key, ← nodeBehind fuel c true true)
        else pure (key, Node.empty)
      else do
        let key ← implicitKey
        pure (key, ← nodeBehind fuel c true false)
    let entries ← addEntry key value before
    let _ ← skipToContent
    if ← documentEnds then return .mapping entries
    need (← fun cur => some (cur.spaced, cur))
    if (← column) == c then blockEntries fuel c entries
    else
      need ((← column) < c)
      return .mapping entries

/-- Whether something can be read here; nothing is taken. -/
def canRead (r : Scan Node) : Scan Bool := fun c => some ((r c).isSome, c)

end

/-- The lines of directives before a document. -/
def directives : Nat → Bool → Scan Bool
  | 0, _ => stuck
  | fuel + 1, found => do
    let _ ← skipToContent
    if (← column) == 0 && (← look 0) == some '%' then
      let _ ← skipWhile (· != '\n')
      directives fuel true
    else return found

/-- The documents of a file. -/
def documents : Nat → Bool → Scan (List Node)
  | 0, _ => stuck
  | fuel + 1, closed => do
    let directed ← if closed then directives ((← left) + 1) false else do
      let _ ← skipToContent
      pure false
    if (← look 0).isNone then
      need !directed
      return []
    if ← markerNext '.' then
      need !directed
      step
      step
      step
      let _ ← skipWhile isBlankChar
      need ((← look 0).all fun c => c == '\n' || c == '#')
      return ← documents fuel true
    let marked ← markerNext '-'
    need (marked || (closed && !directed))
    if marked then
      step
      step
      step
    let n ← left
    let node ← nodeBehind (4 * n + 4) (-1) false !marked
    let _ ← skipToContent
    need (← documentEnds)
    return node :: (← documents fuel false)

/-- A text in which all lines end with a line feed. -/
def normalize : List Char → List Char
  | [] => []
  | '\r' :: '\n' :: cs => '\n' :: normalize cs
  | '\r' :: cs => '\n' :: normalize cs
  | c :: cs => c :: normalize cs

end ModelineAssist.Settings.Yaml

namespace ModelineAssist.Settings

/-- The entries of a YAML file, which is one mapping or nothing at all. -/
def parseYaml? (text : List Char) : Option (List (String × Value)) :=
  let text := if text.head? = some '\uFEFF' then text.drop 1 else text
  let text := Yaml.normalize text
  match Yaml.documents (text.length + 2) true ⟨text, 0, true, true, []⟩ with
  | some ([], _) => some []
  | some ([.mapping entries], _) => Yaml.values? entries
  | _ => none

end ModelineAssist.Settings
