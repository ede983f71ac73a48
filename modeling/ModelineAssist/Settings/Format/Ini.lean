import ModelineAssist.Decimal
import ModelineAssist.Settings.Value
import ModelineAssist.Text.Reader
import ModelineAssist.Text.WhiteSpace

/-!
Settings in INI: keys with texts, before the first header at the top, behind a header in a table of
its name. Comments have lines of their own. A key reaches up to the next `=` or `:`, over line ends
if need be; a value ends with its line and may be quoted in part. A backslash escapes everywhere.
-/
namespace ModelineAssist.Settings.Ini
open Text Reader

/-- A character by four hexadecimal digits. -/
def hexChar : Reader Char := fun cs =>
  let ds := cs.take 4
  let n := ofDigits 16 ds
  if ds.length = 4 ∧ ds.all (isDigitOf 16) ∧ (n < 0xD800 ∨ 0xE000 ≤ n) then
    some (Char.ofNat n, cs.drop 4)
  else none

/-- The character of an escape whose backslash has been read; the end of a line escapes nothing and
is passed over. -/
def escape : Reader (List Char) := do
  match ← satisfying fun _ => true with
  | '0' => return ['\x00']
  | 'a' => return ['\x07']
  | 'b' => return ['\x08']
  | 't' => return ['\t']
  | 'r' => return ['\r']
  | 'n' => return ['\n']
  | '\n' => return []
  | 'x' => return [← hexChar]
  | c => return [c]

/-- The text up to a character that ends it. Whether the end of the file ends it too is said. -/
def textUntil (stop : Char → Bool) (fileEnds : Bool) : Nat → Reader (List Char)
  | 0 => fail
  | fuel + 1 => do
    match ← peek? with
    | none => if fileEnds then return [] else fail
    | some c =>
      if stop c then return []
      let _ ← satisfying fun _ => true
      if c == '\\' then
        let escaped ← escape
        return escaped ++ (← textUntil stop fileEnds fuel)
      return c :: (← textUntil stop fileEnds fuel)

/-- The text up to a character that ends it. -/
def upTo (stop : Char → Bool) (fileEnds : Bool) : Reader (List Char) := do
  textUntil stop fileEnds ((← remaining).length + 1)

/-- A text without the white space at its end. -/
def trimEnd (cs : List Char) : List Char := (cs.reverse.dropWhile isWhiteSpace).reverse

/-- A text without the white space around it. -/
def trim (cs : List Char) : List Char := trimEnd (cs.dropWhile isWhiteSpace)

/-- Whether a character ends a line. -/
def endsLine (c : Char) : Bool := c == '\n' || c == '\r'

/-- A value, of quoted parts and a rest. White space around it is not part of it. -/
def valueParts (first : Bool) : Nat → Reader (List Char)
  | 0 => fail
  | fuel + 1 => do
    match ← peek? with
    | none => return []
    | some c =>
      if c == '"' || c == '\x27' then
        let _ ← satisfying fun _ => true
        let part ← upTo (· == c) false
        let _ ← satisfying fun _ => true
        return part ++ (← valueParts false fuel)
      let rest ← upTo endsLine true
      return if first then trim rest else trimEnd rest

/-- A value behind the mark that separates it from its key. -/
def value : Reader (List Char) := do
  let _ ← takeWhile fun c => c == '\t' || (isWhiteSpace c && !endsLine c)
  valueParts true ((← remaining).length + 1)

/-- A file in reading: the entries at the top, the tables, and the name of the open table. -/
structure File where
  top : List (String × Value)
  tables : List (String × List (String × Value))
  current : Option String

/-- Sets a key in the open table. -/
def File.set (f : File) (key : String) (v : Value) : File :=
  match f.current with
  | none => { f with top := putMember key v f.top }
  | some name =>
    { f with tables := putMember name (putMember key v ((member? name f.tables).getD [])) f.tables }

/-- Opens the table of a name; if there was one, it starts anew. -/
def File.open (f : File) (name : String) : File :=
  { f with tables := putMember name [] f.tables, current := some name }

/-- Reads what stands at the start of a line or, with a key, behind it. -/
def lines (key : Option (List Char)) (lineStart : Bool) : Nat → File → Reader File
  | 0, _ => fail
  | fuel + 1, f => do
    let passed ← takeWhile isWhiteSpace
    let lineStart := match passed.getLast? with
      | none => lineStart
      | some c => c == '\n'
    match ← peek? with
    | none => return f
    | some c =>
      if c == ';' || c == '#' then
        check lineStart
        let _ ← takeWhile (· != '\n')
        lines key true fuel f
      else if c == '[' then
        let _ ← satisfying fun _ => true
        let name ← upTo (· == ']') false
        char ']'
        lines key false fuel (f.open (String.ofList (trim name)))
      else if c == '=' || c == ':' then
        let _ ← satisfying fun _ => true
        match key with
        | none | some [] => fail
        | some k =>
          let v ← value
          lines none false fuel (f.set (String.ofList k) (.plain (.text (String.ofList v))))
      else
        let k ← upTo (fun c => c == '=' || c == ':') false
        lines (some (trim k)) false fuel f

end Ini

/-- The entries of an INI file. -/
def parseIni? (text : List Char) : Option (List (String × Value)) :=
  (Text.Reader.whole? (Ini.lines none true (text.length + 1) ⟨[], [], none⟩) text).map fun f =>
    f.tables.foldl (fun entries t => putMember t.1 (.table t.2) entries) f.top

end ModelineAssist.Settings
