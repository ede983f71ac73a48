import ModelineAssist.Json.Parser
import ModelineAssist.Settings.Value
import ModelineAssist.Text.Lines
import ModelineAssist.Text.Quoted
import ModelineAssist.Text.Reader
import ModelineAssist.Text.WhiteSpace

/-!
Settings in JSON5: JSON with comments, names without quotes, strings in apostrophes, commas before a
closing bracket, and more ways to write numbers.
-/
namespace ModelineAssist.Settings.Json5
open Text Reader

/-- The characters that end a line. -/
def isLineEnd (c : Char) : Bool :=
  c == '\n' || c == '\r' || c == '\u2028' || c == '\u2029'

/-- The characters that may stand between parts. -/
def isSpace (c : Char) : Bool :=
  (isWhiteSpace c && c != '\u0085') || c == '\uFEFF'

/-- What follows the end of a block comment. -/
def afterBlock? : List Char → Option (List Char)
  | [] => none
  | '*' :: '/' :: cs => some cs
  | _ :: cs => afterBlock? cs

/-- A comment. -/
def comment : Reader Unit := do
  if ← tryWord "//" then
    let _ ← takeWhile (!isLineEnd ·)
  else
    word "/*"
    fun cs => (afterBlock? cs).map fun cs => ((), cs)

/-- Spaces and comments. -/
def spaces : Reader Unit := do
  let n := (← remaining).length
  let _ ← many (or (do let _ ← takeSome isSpace) comment) n

/-- A character by two or four hexadecimal digits. -/
def hexChar (digits : Nat) : Reader Char := fun cs =>
  if digits = 4 then Json.unicodeEscape? cs
  else
    let ds := cs.take digits
    if ds.length = digits ∧ ds.all (isDigitOf 16) then
      some (Char.ofNat (ofDigits 16 ds), cs.drop digits)
    else none

/-- What an escape stands for whose backslash has been read. -/
def escape : Reader (List Char) := do
  if ← tryWord "\r\n" then return []
  let c ← satisfying fun _ => true
  if isLineEnd c then return []
  match c with
  | 'b' => return ['\x08']
  | 'f' => return ['\x0c']
  | 'n' => return ['\n']
  | 'r' => return ['\r']
  | 't' => return ['\t']
  | 'v' => return ['\x0b']
  | '0' => return ['\x00']
  | 'x' => return [← hexChar 2]
  | 'u' => return [← hexChar 4]
  | c => if isDigitOf 10 c then fail else return [c]

/-- The rest of a string behind its opening quote. -/
def stringRest (quote : Char) : Nat → Reader (List Char)
  | 0 => fail
  | fuel + 1 => do
    let c ← satisfying (!isLineEnd ·)
    if c == quote then return []
    if c == '\\' then
      let escaped ← escape
      return escaped ++ (← stringRest quote fuel)
    return c :: (← stringRest quote fuel)

/-- A string. -/
def string : Reader String := do
  let quote ← satisfying fun c => c == '"' || c == '\x27'
  return String.ofList (← stringRest quote ((← remaining).length + 1))

/-- Characters that names without quotes start with. -/
def startsName (c : Char) : Bool :=
  c.isAlpha || c == '$' || c == '_' || (!isAscii c && isVisible c && !isWhiteSpace c)

/-- A name without quotes. -/
def nameRest (first : Bool) : Nat → Reader (List Char)
  | 0 => fail
  | fuel + 1 => do
    if ← tryWord "\\u" then
      let c ← hexChar 4
      return c :: (← nameRest false fuel)
    match ← peek? with
    | some c =>
      if startsName c || (!first && (c.isDigit || (!isAscii c && !isSpace c))) then
        let _ ← satisfying fun _ => true
        return c :: (← nameRest false fuel)
      else if first then fail
      else return []
    | none => if first then fail else return []

/-- The name of a member. -/
def name : Reader String := or string (do
  return String.ofList (← nameRest true ((← remaining).length + 1)))

/-- A number. A whole number has to fit 64 bits, a hexadecimal one 32 bits and has no sign. -/
def number : Reader Value := do
  let signed ← nextIs fun c => c == '+' || c == '-'
  let negative ← tryChar '-'
  if !negative then let _ ← tryChar '+'
  if ← tryWord "Infinity" then return .plain (.number true)
  if ← tryWord "NaN" then return .plain (.number true)
  if ← or (tryWord "0x") (pure false) then
    let n := ofDigits 16 (← takeSome (isDigitOf 16))
    check (!signed && n < UInt32.size)
    return .plain (.number (n != 0))
  if ← or (tryWord "0X") (pure false) then
    let n := ofDigits 16 (← takeSome (isDigitOf 16))
    check (!signed && n < UInt32.size)
    return .plain (.number (n != 0))
  let whole ← takeWhile (isDigitOf 10)
  check (whole.length ≤ 1 || whole.head? != some '0')
  let point ← tryChar '.'
  let places ← if point then takeWhile (isDigitOf 10) else pure []
  check (!whole.isEmpty || !places.isEmpty)
  let power ← maybe (do
    let _ ← satisfying fun c => c == 'e' || c == 'E'
    let minus ← tryChar '-'
    if !minus then let _ ← tryChar '+'
    let n : Int := ofDigits 10 (← takeSome (isDigitOf 10))
    return if minus then -n else n)
  let n := ofDigits 10 (whole ++ places)
  if point || power.isSome then
    let d : Decimal := ⟨n, power.getD 0 - places.length⟩
    return .plain (.number !d.roundsToZero)
  check (if negative then n ≤ -Int64.minValue.toInt else n ≤ Int64.maxValue.toInt)
  return .plain (.number (n != 0))

mutual

/-- A value. -/
def value : Nat → Reader Value
  | 0 => fail
  | fuel + 1 => do
    match ← peek? with
    | some '\x7b' =>
      char '\x7b'
      members fuel []
    | some '[' =>
      char '['
      items fuel
    | some '"' | some '\x27' => return .plain (.text (← string))
    | some 'n' => do word "null"; return .plain .null
    | some 't' => do word "true"; return .plain (.bool true)
    | some 'f' => do word "false"; return .plain (.bool false)
    | _ => number

/-- The items of an array up to its closing bracket. -/
def items : Nat → Reader Value
  | 0 => fail
  | fuel + 1 => do
    spaces
    if ← tryChar ']' then return .plain .array
    let _ ← value fuel
    spaces
    if ← tryChar ',' then items fuel
    else
      char ']'
      return .plain .array

/-- The members of an object up to its closing brace. -/
def members : Nat → List (String × Value) → Reader Value
  | 0, _ => fail
  | fuel + 1, before => do
    spaces
    if ← tryChar '\x7d' then return .table before
    let key ← name
    spaces
    char ':'
    spaces
    let v ← value fuel
    let before := putMember key v before
    spaces
    if ← tryChar ',' then members fuel before
    else
      char '\x7d'
      return .table before

end

end Json5

/-- The entries of a JSON5 file, which is one object. -/
def parseJson5? (text : List Char) : Option (List (String × Value)) :=
  let file : Text.Reader Value := do
    Json5.spaces
    let v ← Json5.value (2 * text.length + 2)
    Json5.spaces
    return v
  match Text.Reader.whole? file text with
  | some (.table entries) => some entries
  | _ => none

end ModelineAssist.Settings
