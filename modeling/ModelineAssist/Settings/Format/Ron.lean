import ModelineAssist.Decimal
import ModelineAssist.Settings.Value
import ModelineAssist.Text.Reader

/-!
Settings in RON, a notation of records: a record or a map at the top. A record may carry a name,
which does not matter; a name by itself, as the empty record, stands for nothing, and so does
`None`.
-/
namespace ModelineAssist.Settings.Ron
open Text Reader

/-- The characters that may stand between parts. -/
def isSpace (c : Char) : Bool :=
  let n := c.toNat
  (9 ≤ n && n ≤ 13) || n == 0x20 || n == 0x85 || n == 0x200E || n == 0x200F || n == 0x2028 ||
    n == 0x2029

/-- What follows a block comment that is open so many levels deep. -/
def afterBlock? : Nat → List Char → Option (List Char)
  | 0, cs => some cs
  | _ + 1, [] => none
  | n + 1, '*' :: '/' :: cs => afterBlock? n cs
  | n + 1, '/' :: '*' :: cs => afterBlock? (n + 2) cs
  | n + 1, _ :: cs => afterBlock? (n + 1) cs

/-- A comment. -/
def comment : Reader Unit := do
  if ← tryWord "//" then
    let _ ← takeWhile (· != '\n')
  else
    word "/*"
    fun cs => (afterBlock? 1 cs).map fun cs => ((), cs)

/-- Spaces and comments. -/
def spaces : Reader Unit := do
  let n := (← remaining).length
  let _ ← many (or (do let _ ← takeSome isSpace) comment) n

/-- Characters that identifiers consist of. -/
def inIdentifier (c : Char) : Bool := c.isAlphanum || c == '_'

/-- An identifier. -/
def identifier : Reader String := do
  let raw ← or (do
      word "r#"
      check (← nextIs inIdentifier)
      return true)
    (pure false)
  if raw then
    return String.ofList (← takeSome fun c => inIdentifier c || c == '.' || c == '+' || c == '-')
  let first ← satisfying fun c => c.isAlpha || c == '_'
  check (!(first == 'r' && (← nextIs fun c => c == '"' || c == '#')))
  return String.ofList (first :: (← takeWhile inIdentifier))

/-- A character by two hexadecimal digits. -/
def hexChar : Reader Char := fun cs =>
  let ds := cs.take 2
  if ds.length = 2 ∧ ds.all (isDigitOf 16) then some (Char.ofNat (ofDigits 16 ds), cs.drop 2)
  else none

/-- The character of an escape whose backslash has been read. -/
def escape : Reader Char := do
  match ← satisfying fun _ => true with
  | '\x27' => return '\x27'
  | '"' => return '"'
  | '\\' => return '\\'
  | 'n' => return '\n'
  | 'r' => return '\r'
  | 't' => return '\t'
  | '0' => return '\x00'
  | 'x' => hexChar
  | 'u' => do
    char '\x7b'
    let ds ← takeSome (isDigitOf 16)
    char '\x7d'
    let n := ofDigits 16 ds
    check (ds.length ≤ 6 && (n < 0xD800 || (0xE000 ≤ n && n < 0x110000)))
    return Char.ofNat n
  | _ => fail

/-- The rest of a string behind its opening quote. -/
def stringRest : Nat → Reader (List Char)
  | 0 => fail
  | fuel + 1 => do
    match ← satisfying fun _ => true with
    | '"' => return []
    | '\\' =>
      let c ← escape
      return c :: (← stringRest fuel)
    | c => return c :: (← stringRest fuel)

/-- The text up to a closing mark. -/
def upToMark? (mark : List Char) : List Char → Option (List Char × List Char)
  | [] => none
  | c :: cs =>
    if mark.isPrefixOf (c :: cs) then some ([], (c :: cs).drop mark.length)
    else (upToMark? mark cs).map fun (text, rest) => (c :: text, rest)

/-- A string, plain or raw. -/
def string : Reader String := do
  if ← tryChar 'r' then
    let hashes ← takeWhile (· == '#')
    char '"'
    fun cs => (upToMark? ('"' :: hashes) cs).map fun (text, rest) => (String.ofList text, rest)
  else
    char '"'
    return String.ofList (← stringRest ((← remaining).length + 1))

/-- A character in apostrophes. -/
def character : Reader String := do
  char '\x27'
  let c ← satisfying (· != '\x27')
  let c ← if c == '\\' then escape else pure c
  char '\x27'
  return String.singleton c

/-- Digits in a base without the underscores among them. -/
def digits (base : Nat) : Reader (List Char) := do
  let first ← satisfying (isDigitOf base)
  let more ← takeWhile fun c => isDigitOf base c || c == '_'
  return (first :: more).filter (· != '_')

/-- A number. -/
def number : Reader Value := do
  let minus ← tryChar '-'
  if !minus then let _ ← tryChar '+'
  let based := fun (mark : String) (base : Nat) => (do
    word mark
    let n := ofDigits base (← digits base)
    return Value.plain (.number (n != 0)) : Reader Value)
  or (based "0x" 16) (or (based "0b" 2) (or (based "0o" 8) (or
    (do word "inf"; return .plain (.number true)) (or
    (do word "NaN"; return .plain (.number true))
    (do
      let whole ← or (digits 10) (pure [])
      let point ← tryChar '.'
      let places ← if point then or (digits 10) (pure []) else pure []
      check (!whole.isEmpty || !places.isEmpty)
      let power ← maybe (do
        let _ ← satisfying fun c => c == 'e' || c == 'E'
        let minus ← tryChar '-'
        if !minus then let _ ← tryChar '+'
        let n : Int := ofDigits 10 (← digits 10)
        return if minus then -n else n)
      let d : Decimal := ⟨ofDigits 10 (whole ++ places), power.getD 0 - places.length⟩
      return .plain (.number !d.roundsToZero))))))

/-- A word that is not the start of a longer identifier. -/
def ident (w : String) : Reader Unit := do
  word w
  check !(← nextIs inIdentifier)

/-- The text of a key in a map. -/
def keyText : Value → Reader String
  | .leaf _ (.text s) => pure s
  | _ => fail

/-- Whether a field of a record is next: an identifier and a colon. -/
def fieldNext : Reader Bool := fun cs =>
  match (do let _ ← identifier; spaces; char ':' : Reader Unit) cs with
  | some _ => some (true, cs)
  | none => some (false, cs)

mutual

/-- A value. -/
def value : Nat → Reader Value
  | 0 => fail
  | fuel + 1 => do
    match ← maybe (ident "true") with
    | some _ => return .plain (.bool true)
    | none =>
    match ← maybe (ident "false") with
    | some _ => return .plain (.bool false)
    | none =>
    match ← maybe (ident "None") with
    | some _ => return .plain .null
    | none =>
    match ← maybe (ident "Some") with
    | some _ =>
      spaces
      char '('
      spaces
      let v ← value fuel
      spaces
      let _ ← tryChar ','
      spaces
      char ')'
      return v
    | none =>
    match ← maybe (or (ident "inf") (ident "NaN")) with
    | some _ => return .plain (.number true)
    | none =>
    if ← tryWord "()" then return .plain .null
    match ← maybe identifier with
    | some _ =>
      spaces
      if ← tryChar '(' then record fuel else return .plain .null
    | none =>
    match ← peek? with
    | some '(' =>
      char '('
      record fuel
    | some '[' =>
      char '['
      items ']' fuel
    | some '\x7b' =>
      char '\x7b'
      entries fuel []
    | some '"' | some 'r' => return .plain (.text (← string))
    | some '\x27' => return .plain (.text (← character))
    | _ => number

/-- A record behind its opening parenthesis: with names for its fields a table, else an array. -/
def record : Nat → Reader Value
  | 0 => fail
  | fuel + 1 => do
    spaces
    if ← fieldNext then fields fuel [] else items ')' fuel

/-- Values up to a closing bracket. -/
def items (close : Char) : Nat → Reader Value
  | 0 => fail
  | fuel + 1 => do
    spaces
    if ← tryChar close then return .plain .array
    let _ ← value fuel
    spaces
    if ← tryChar ',' then items close fuel
    else
      char close
      return .plain .array

/-- The fields of a record up to its closing parenthesis. -/
def fields : Nat → List (String × Value) → Reader Value
  | 0, _ => fail
  | fuel + 1, before => do
    spaces
    if ← tryChar ')' then return .table before
    let key ← identifier
    spaces
    char ':'
    spaces
    let v ← value fuel
    let before := putMember key v before
    spaces
    if ← tryChar ',' then fields fuel before
    else
      char ')'
      return .table before

/-- The entries of a map up to its closing brace. -/
def entries : Nat → List (String × Value) → Reader Value
  | 0, _ => fail
  | fuel + 1, before => do
    spaces
    if ← tryChar '\x7d' then return .table before
    let key ← keyText (← value fuel)
    spaces
    char ':'
    spaces
    let v ← value fuel
    let before := putMember key v before
    spaces
    if ← tryChar ',' then entries fuel before
    else
      char '\x7d'
      return .table before

end

/-- The extensions that a file asks for at its top. They do not change what it says. -/
def extensionsAsked : Nat → Reader Unit
  | 0 => fail
  | fuel + 1 => do
    spaces
    if ← tryWord "#!" then
      spaces
      char '['
      spaces
      ident "enable"
      spaces
      char '('
      let n := (← remaining).length
      let names ← many (do
        spaces
        let name ← identifier
        spaces
        let _ ← tryChar ','
        return name) n
      check (names.all (· ∈ ["unwrap_newtypes", "implicit_some", "unwrap_variant_newtypes"]))
      spaces
      char ')'
      spaces
      char ']'
      extensionsAsked fuel

end Ron

/-- The entries of a RON file. -/
def parseRon? (text : List Char) : Option (List (String × Value)) :=
  let file : Text.Reader Value := do
    Ron.extensionsAsked (text.length + 1)
    let v ← Ron.value (4 * text.length + 4)
    Ron.spaces
    return v
  match Text.Reader.whole? file text with
  | some (.table entries) => some entries
  | _ => none

end ModelineAssist.Settings
