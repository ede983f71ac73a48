import ModelineAssist.Settings.Format.Toml.Scalar

/-!
TOML documents: lines that set keys or open tables. A table is opened once at most; keys with points
make the tables they pass through, and may come back to these but not to tables opened otherwise.
-/
namespace ModelineAssist.Settings.Toml
open Text Reader

/-- How a table came to be. -/
inductive TableKind
  /-- Opened by a header, or written in braces. -/
  | opened
  /-- Passed through by the header of a table within it. -/
  | passed
  /-- Made by a key with points. -/
  | pointed
  deriving DecidableEq, Repr

/-- What a key stands for while a document is being read. -/
inductive Node
  | value (v : Value)
  | table (kind : TableKind) (entries : List (String × Node))
  /-- An array of tables, of which only the last one can still grow. -/
  | tables (last : List (String × Node))
  deriving Inhabited

/-- A table while a document is being read. -/
structure OpenTable where
  kind : TableKind
  entries : List (String × Node)

/-- Changes the table that a path leads to. The path of a header passes through all tables, that of
a key with points only through tables that were not opened by a header. -/
def changeAt (byKey : Bool) (change : OpenTable → Option OpenTable) :
    List String → OpenTable → Option OpenTable
  | [], t => change t
  | key :: path, t =>
    match member? key t.entries with
    | none =>
      let made : OpenTable := ⟨if byKey then .pointed else .passed, []⟩
      (changeAt byKey change path made).map fun inner =>
        ⟨t.kind, putMember key (.table inner.kind inner.entries) t.entries⟩
    | some (.value _) => none
    | some (.tables last) =>
      (changeAt byKey change path ⟨.opened, last⟩).map fun inner =>
        ⟨t.kind, putMember key (.tables inner.entries) t.entries⟩
    | some (.table kind entries) =>
      if byKey && kind == .opened then none
      else (changeAt byKey change path ⟨kind, entries⟩).map fun inner =>
        ⟨t.kind, putMember key (.table inner.kind inner.entries) t.entries⟩

/-- Sets a key that is not set yet. With points before it the table has to be one that keys with
points made; without, one that was opened. -/
def setKey (path : List String) (key : String) (v : Value) : OpenTable → Option OpenTable :=
  changeAt true (fun t =>
    if (t.kind == .pointed) == path.isEmpty || (member? key t.entries).isSome then none
    else some ⟨t.kind, putMember key (.value v) t.entries⟩) path

/-- Opens a table under a key. -/
def openTable (key : String) (t : OpenTable) : Option OpenTable :=
  match member? key t.entries with
  | none => some ⟨t.kind, putMember key (.table .opened []) t.entries⟩
  | some (.table .passed entries) =>
    some ⟨t.kind, putMember key (.table .opened entries) t.entries⟩
  | some _ => none

/-- Adds a table to the array of tables under a key. -/
def addTable (key : String) (t : OpenTable) : Option OpenTable :=
  match member? key t.entries with
  | none | some (.tables _) => some ⟨t.kind, putMember key (.tables []) t.entries⟩
  | some _ => none

mutual

/-- The value of a node once the document has been read. -/
def Node.close : Node → Value
  | .value v => v
  | .table _ entries => .table (closeAll entries)
  | .tables _ => .plain .array

/-- The values of some entries. -/
def closeAll : List (String × Node) → List (String × Value)
  | [] => []
  | (key, node) :: es => (key, node.close) :: closeAll es

end

/-- A part of a key. -/
def keyPart : Reader String := do
  let text ← or basicString (or literalString
    (takeSome fun c => c.isAlphanum || c == '_' || c == '-'))
  return String.ofList text

/-- A key: parts with points between them, the last one apart. -/
def dottedKey : Reader (List String × String) := do
  let first ← keyPart
  let n := (← remaining).length
  let more ← many (do blanks; char '.'; blanks; keyPart) n
  let parts := first :: more
  return (parts.dropLast, parts.getLastD first)

/-- A comment up to the end of the line. -/
def comment : Reader Unit := do
  char '#'
  let _ ← takeWhile isPlainChar

/-- What may stand at the end of a line. -/
def lineEnd : Reader Unit := do
  blanks
  let _ ← maybe comment
  if !(← atEnd) then newline

/-- Blanks, comments and line ends. -/
def spaces : Reader Unit := do
  let n := (← remaining).length
  let _ ← many (or (do let _ ← takeSome fun c => c == ' ' || c == '\t') (or newline comment)) n

mutual

/-- A value. -/
def value : Nat → Reader Value
  | 0 => fail
  | fuel + 1 => do
    match ← peek? with
    | some '[' =>
      char '['
      items fuel
    | some '\x7b' =>
      char '\x7b'
      blanks
      if ← tryChar '\x7d' then return .table []
      fields fuel ⟨.opened, []⟩
    | _ => scalar

/-- The items of an array up to its closing bracket. -/
def items : Nat → Reader Value
  | 0 => fail
  | fuel + 1 => do
    spaces
    if ← tryChar ']' then return .plain .array
    let _ ← value fuel
    spaces
    if ← tryChar ',' then items fuel
    else
      char ']'
      return .plain .array

/-- The fields of a table in braces up to its closing brace. -/
def fields : Nat → OpenTable → Reader Value
  | 0, _ => fail
  | fuel + 1, before => do
    blanks
    let (path, key) ← dottedKey
    blanks
    char '='
    blanks
    let v ← value fuel
    blanks
    match setKey path key v before with
    | none => fail
    | some table =>
      if ← tryChar ',' then fields fuel table
      else
        char '\x7d'
        return .table (closeAll table.entries)

end

/-- A document in reading: what has been set so far, and the path of the table opened last. -/
structure Document where
  root : OpenTable
  current : List String

/-- Reads a line that sets a key. -/
def keyLine (d : Document) : Reader Document := do
  let (path, key) ← dottedKey
  blanks
  char '='
  blanks
  let v ← value (2 * (← remaining).length + 2)
  lineEnd
  match changeAt false (setKey path key v) d.current d.root with
  | some root => return ⟨root, d.current⟩
  | none => fail

/-- Reads a line that opens a table. -/
def headerLine (d : Document) : Reader Document := do
  char '['
  let many ← tryChar '['
  blanks
  let (path, key) ← dottedKey
  blanks
  if many then word "]]" else char ']'
  lineEnd
  match changeAt false (if many then addTable key else openTable key) path d.root with
  | some root => return ⟨root, path ++ [key]⟩
  | none => fail

/-- Reads the lines of a document. -/
def documentLines : Nat → Document → Reader Document
  | 0, d => pure d
  | fuel + 1, d => do
    blanks
    if ← atEnd then return d
    match ← peek? with
    | some '#' | some '\n' | some '\r' =>
      lineEnd
      documentLines fuel d
    | some '[' => documentLines fuel (← headerLine d)
    | _ => documentLines fuel (← keyLine d)

end Toml

/-- The entries of a TOML file. -/
def parseToml? (text : List Char) : Option (List (String × Value)) :=
  let text := if text.head? = some '\uFEFF' then text.drop 1 else text
  let start : Toml.Document := ⟨⟨.opened, []⟩, []⟩
  (Text.Reader.whole? (Toml.documentLines (text.length + 1) start) text).map fun d =>
    Toml.closeAll d.root.entries

end ModelineAssist.Settings
