import ModelineAssist.Decimal
import ModelineAssist.Settings.Value
import ModelineAssist.Text.Reader

/-!
The scalars of TOML: strings in their four forms, whole and fractional numbers, and dates and times.
A date or time counts as the text that writes it in full.
-/
namespace ModelineAssist.Settings.Toml
open Text Reader

/-- Characters that comments and literal strings may hold. -/
def isPlainChar (c : Char) : Bool :=
  let n := c.toNat
  n == 9 || (0x20 ≤ n && n != 0x7F)

/-- A line end. -/
def newline : Reader Unit := or (char '\n') (word "\r\n")

/-- The blanks within a line. -/
def blanks : Reader Unit := do
  let _ ← takeWhile fun c => c == ' ' || c == '\t'

/-- A character given by its number in hexadecimal digits. -/
def codePoint (digits : Nat) : Reader Char := fun cs =>
  let ds := cs.take digits
  let n := ofDigits 16 ds
  if ds.length = digits ∧ ds.all (isDigitOf 16) ∧ (n < 0xD800 ∨ (0xE000 ≤ n ∧ n < 0x110000)) then
    some (Char.ofNat n, cs.drop digits)
  else none

/-- The character of an escape whose backslash has been read. -/
def escape : Reader Char := do
  match ← satisfying fun _ => true with
  | 'b' => return '\x08'
  | 't' => return '\t'
  | 'n' => return '\n'
  | 'f' => return '\x0c'
  | 'r' => return '\r'
  | '"' => return '"'
  | '\\' => return '\\'
  | 'u' => codePoint 4
  | 'U' => codePoint 8
  | _ => fail

/-- The rest of a basic string on one line, behind its opening quote. -/
def basicRest : Nat → Reader (List Char)
  | 0 => fail
  | fuel + 1 => do
    match ← satisfying isPlainChar with
    | '"' => return []
    | '\\' =>
      let c ← escape
      return c :: (← basicRest fuel)
    | c => return c :: (← basicRest fuel)

/-- The three apostrophes or quotes that end a string of several lines, with up to two more before
them that belong to the string. -/
def tripleEnd (quote : Char) : Reader (Option (List Char)) := fun cs =>
  let n := (cs.takeWhile (· == quote)).length
  if n < 3 then some (none, cs)
  else if n ≤ 5 then some (some (List.replicate (n - 3) quote), cs.drop n)
  else none

/-- The rest of a basic string of several lines. A backslash at the end of a line takes away the
line end and the white space behind it. -/
def basicLinesRest : Nat → Reader (List Char)
  | 0 => fail
  | fuel + 1 => do
    match ← tripleEnd '"' with
    | some quotes => return quotes
    | none =>
      if ← tryWord "\r\n" then return '\n' :: (← basicLinesRest fuel)
      match ← satisfying fun c => isPlainChar c || c == '\n' with
      | '\\' =>
        match ← maybe (do blanks; newline) with
        | some _ =>
          let n := (← remaining).length
          let _ ← many (or newline (do let _ ← satisfying fun c => c == ' ' || c == '\t')) n
          basicLinesRest fuel
        | none =>
          let c ← escape
          return c :: (← basicLinesRest fuel)
      | c => return c :: (← basicLinesRest fuel)

/-- The rest of a literal string of several lines. -/
def literalLinesRest : Nat → Reader (List Char)
  | 0 => fail
  | fuel + 1 => do
    match ← tripleEnd '\x27' with
    | some quotes => return quotes
    | none =>
      if ← tryWord "\r\n" then return '\n' :: (← literalLinesRest fuel)
      let c ← satisfying fun c => isPlainChar c || c == '\n'
      return c :: (← literalLinesRest fuel)

/-- A basic string on one line. -/
def basicString : Reader (List Char) := do
  char '"'
  basicRest ((← remaining).length + 1)

/-- A literal string on one line. -/
def literalString : Reader (List Char) := do
  char '\x27'
  let text ← takeWhile fun c => isPlainChar c && c != '\x27'
  char '\x27'
  return text

/-- A string in any form. -/
def stringValue : Reader (List Char) := do
  if ← tryWord "\"\"\"" then
    let _ ← maybe newline
    basicLinesRest ((← remaining).length + 1)
  else if ← tryWord "\x27\x27\x27" then
    let _ ← maybe newline
    literalLinesRest ((← remaining).length + 1)
  else or basicString literalString

/-- Digits in a base, single underscores between them. -/
def digits (base : Nat) : Reader (List Char) := do
  let first ← satisfying (isDigitOf base)
  let n := (← remaining).length
  let more ← many (do let _ ← tryChar '_'; satisfying (isDigitOf base)) n
  return first :: more

/-- A sign, and whether it is a minus. -/
def sign : Reader Bool := do
  if ← tryChar '+' then return false
  tryChar '-'

/-- The digits of a whole decimal number: no zero leads them. -/
def wholeDigits : Reader (List Char) := do
  if ← tryChar '0' then return ['0']
  digits 10

/-- A whole number in a base other than ten, behind its mark. -/
def basedNumber (base : Nat) : Reader Value := do
  let n := ofDigits base (← digits base)
  check (n ≤ Int64.maxValue.toInt)
  return .plain (.number (n != 0))

/-- A whole number. -/
def wholeNumber : Reader Value := do
  if ← tryWord "0x" then basedNumber 16
  else if ← tryWord "0o" then basedNumber 8
  else if ← tryWord "0b" then basedNumber 2
  else
    let negative ← sign
    let n := ofDigits 10 (← wholeDigits)
    check (if negative then n ≤ -Int64.minValue.toInt else n ≤ Int64.maxValue.toInt)
    return .plain (.number (n != 0))

/-- An exponent. -/
def exponent : Reader Int := do
  let _ ← satisfying fun c => c == 'e' || c == 'E'
  let negative ← sign
  let n : Int := ofDigits 10 (← digits 10)
  return if negative then -n else n

/-- A number with a fraction or an exponent. One too large to be kept is refused, unless it is
negative. -/
def fractionalNumber : Reader Value := do
  let negative ← sign
  if ← or (tryWord "inf") (pure false) then return .plain (.number true)
  if ← or (tryWord "nan") (pure false) then return .plain (.number true)
  let whole ← wholeDigits
  let fraction ← maybe (do char '.'; digits 10)
  let power ← maybe exponent
  check (fraction.isSome || power.isSome)
  let places := fraction.getD []
  let d : Decimal := ⟨ofDigits 10 (whole ++ places), power.getD 0 - places.length⟩
  check (negative || !d.overflows)
  return .plain (.number !d.roundsToZero)

/-- A number of exactly so many digits, within bounds. -/
def fixedDigits (count low high : Nat) : Reader Nat := fun cs =>
  let ds := cs.take count
  let n := ofDigits 10 ds
  if ds.length = count ∧ ds.all (isDigitOf 10) ∧ low ≤ n ∧ n ≤ high then some (n, cs.drop count)
  else none

/-- A number in so many digits, zeros in front. -/
def padded (count n : Nat) : List Char :=
  let ds := (toString n).toList
  List.replicate (count - ds.length) '0' ++ ds

/-- The number of days of a month. -/
def daysOf (year month : Nat) : Nat :=
  if month = 2 then
    if year % 4 = 0 ∧ (year % 100 ≠ 0 ∨ year % 400 = 0) then 29 else 28
  else if month = 4 ∨ month = 6 ∨ month = 9 ∨ month = 11 then 30
  else 31

/-- A date. -/
def date : Reader (List Char) := do
  let year ← fixedDigits 4 0 9999
  char '-'
  let month ← fixedDigits 2 1 12
  char '-'
  let day ← fixedDigits 2 1 (daysOf year month)
  return padded 4 year ++ '-' :: padded 2 month ++ '-' :: padded 2 day

/-- A time of day. Of a fraction of a second nine digits are kept, zeros at the end are not. -/
def time : Reader (List Char) := do
  let hour ← fixedDigits 2 0 23
  char ':'
  let minute ← fixedDigits 2 0 59
  char ':'
  let second ← fixedDigits 2 0 60
  let fraction ← maybe (do char '.'; takeSome (isDigitOf 10))
  let kept := (((fraction.getD []).take 9).reverse.dropWhile (· == '0')).reverse
  return padded 2 hour ++ ':' :: padded 2 minute ++ ':' :: padded 2 second ++
    if kept.isEmpty then [] else '.' :: kept

/-- The distance of a time zone. -/
def zone : Reader (List Char) := do
  if ← nextIs fun c => c == 'Z' || c == 'z' then
    let _ ← satisfying fun _ => true
    return ['Z']
  let sign ← satisfying fun c => c == '+' || c == '-'
  let hours ← fixedDigits 2 0 23
  char ':'
  let minutes ← fixedDigits 2 0 59
  let sign := if hours = 0 ∧ minutes = 0 then '+' else sign
  return sign :: padded 2 hours ++ ':' :: padded 2 minutes

/-- A date, a time, or both, the latter possibly with a time zone. -/
def dateTime : Reader Value := do
  let text ← or
    (do
      let day ← date
      let rest ← maybe (do
        let _ ← satisfying fun c => c == 'T' || c == 't' || c == ' '
        let clock ← time
        let zone ← maybe zone
        return 'T' :: clock ++ zone.getD [])
      return day ++ rest.getD [])
    time
  return .plain (.text (String.ofList text))

/-- A scalar. -/
def scalar : Reader Value := do
  match ← peek? with
  | some '"' | some '\x27' => return .plain (.text (String.ofList (← stringValue)))
  | some 't' => do word "true"; return .plain (.bool true)
  | some 'f' => do word "false"; return .plain (.bool false)
  | _ => or dateTime (or fractionalNumber wholeNumber)

end ModelineAssist.Settings.Toml
