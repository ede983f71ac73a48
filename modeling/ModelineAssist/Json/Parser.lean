import ModelineAssist.Json.Basic

/-!
Reading JSON text: one value with blanks around it and nothing else. Nesting goes 127 levels deep at
most, a number has to fit 64-bit floating point, and an escaped surrogate has to be part of a pair.
-/
namespace ModelineAssist.Json

/-- The blanks between the parts of a text. -/
def isBlankChar (c : Char) : Bool := c == ' ' || c == '\n' || c == '\t' || c == '\r'

/-- Passes over blanks. -/
def skipBlanks (cs : List Char) : List Char := cs.dropWhile isBlankChar

/-- Four hexadecimal digits and what follows them. -/
def hex4? : List Char → Option (Nat × List Char)
  | a :: b :: c :: d :: cs => do
    let a ← digitValue? 16 a
    let b ← digitValue? 16 b
    let c ← digitValue? 16 c
    let d ← digitValue? 16 d
    some (((a * 16 + b) * 16 + c) * 16 + d, cs)
  | _ => none

/-- The character of an escape whose `\u` has been read. -/
def unicodeEscape? (cs : List Char) : Option (Char × List Char) :=
  match hex4? cs with
  | none => none
  | some (high, cs) =>
    if 0xD800 ≤ high && high < 0xDC00 then
      match cs with
      | '\\' :: 'u' :: cs =>
        match hex4? cs with
        | some (low, cs) =>
          if 0xDC00 ≤ low && low < 0xE000 then
            some (Char.ofNat (0x10000 + (high - 0xD800) * 0x400 + (low - 0xDC00)), cs)
          else none
        | none => none
      | _ => none
    else if 0xDC00 ≤ high && high < 0xE000 then none
    else some (Char.ofNat high, cs)

/-- The character of a one-letter escape. -/
def letterEscape? : Char → Option Char
  | '"' => some '"'
  | '\\' => some '\\'
  | '/' => some '/'
  | 'b' => some '\x08'
  | 'f' => some '\x0c'
  | 'n' => some '\n'
  | 'r' => some '\r'
  | 't' => some '\t'
  | _ => none

/-- The rest of a string behind its opening quote, and what follows the closing one. -/
def stringRest? : Nat → List Char → Option (List Char × List Char)
  | 0, _ => none
  | _ + 1, [] => none
  | _ + 1, '"' :: cs => some ([], cs)
  | fuel + 1, '\\' :: 'u' :: cs =>
    (unicodeEscape? cs).bind fun (c, cs) =>
      (stringRest? fuel cs).map fun (text, cs) => (c :: text, cs)
  | fuel + 1, '\\' :: e :: cs =>
    (letterEscape? e).bind fun c =>
      (stringRest? fuel cs).map fun (text, cs) => (c :: text, cs)
  | _ + 1, ['\\'] => none
  | fuel + 1, c :: cs =>
    if c.toNat < 0x20 then none
    else (stringRest? fuel cs).map fun (text, cs) => (c :: text, cs)

/-- The digits at the front of a text, at least one, and what follows them. -/
def digits? (cs : List Char) : Option (List Char × List Char) :=
  let ds := cs.takeWhile (isDigitOf 10)
  if ds.isEmpty then none else some (ds, cs.drop ds.length)

/-- The exponent at the front of a text, 0 if there is none. -/
def exponent? : List Char → Option (Int × List Char)
  | e :: cs =>
    if e == 'e' || e == 'E' then
      let (negative, cs) := match cs with
        | '+' :: cs => (false, cs)
        | '-' :: cs => (true, cs)
        | cs => (false, cs)
      (digits? cs).map fun (ds, cs) =>
        let n : Int := ofDigits 10 ds
        (if negative then -n else n, cs)
    else some (0, e :: cs)
  | [] => some (0, [])

/-- The value of a number with the given sign, digits before and after the point and exponent.
Without fraction and exponent it is whole as long as it fits 64 bits. -/
def number? (negative : Bool) (whole : List Char) (fraction : Option (List Char))
    (exponent : Option Int) : Option Json :=
  let n := ofDigits 10 (whole ++ fraction.getD [])
  let signed : Int := if negative then -n else n
  if fraction.isNone && exponent.isNone && !(negative && n == 0) &&
      Int64.minValue.toInt ≤ signed && signed < UInt64.size then
    some (.int signed)
  else
    let d : Decimal := ⟨signed, exponent.getD 0 - (fraction.getD []).length⟩
    if d.overflows then none else some (.real d)

/-- The number at the front of a text. -/
def numberAt? (cs : List Char) : Option (Json × List Char) := do
  let (negative, cs) := match cs with
    | '-' :: cs => (true, cs)
    | cs => (false, cs)
  let (whole, cs) ← digits? cs
  if whole.head? = some '0' ∧ whole.length ≠ 1 then none
  let (fraction, cs) ← match cs with
    | '.' :: cs => (digits? cs).map fun (ds, cs) => (some ds, cs)
    | cs => some (none, cs)
  let (e, rest) ← exponent? cs
  let n ← number? negative whole fraction (if rest.length = cs.length then none else some e)
  some (n, rest)

/-- A word at the front of a text. -/
def word? (word : List Char) (value : Json) (cs : List Char) : Option (Json × List Char) :=
  if word.isPrefixOf cs then some (value, cs.drop word.length) else none

mutual

/-- The value at the front of a text; `depth` more levels of nesting are allowed. -/
def valueAt? : Nat → Nat → List Char → Option (Json × List Char)
  | 0, _, _ => none
  | fuel + 1, depth, cs =>
    match skipBlanks cs with
    | '\x7b' :: cs =>
      if depth = 0 then none
      else match skipBlanks cs with
        | '\x7d' :: cs => some (.object [], cs)
        | cs => membersAt? fuel (depth - 1) [] cs
    | '[' :: cs =>
      if depth = 0 then none
      else match skipBlanks cs with
        | ']' :: cs => some (.array [], cs)
        | cs => itemsAt? fuel (depth - 1) [] cs
    | '"' :: cs =>
      (stringRest? (cs.length + 1) cs).map fun (s, cs) => (.string (String.ofList s), cs)
    | 'n' :: cs => word? "ull".toList .null cs
    | 't' :: cs => word? "rue".toList (.bool true) cs
    | 'f' :: cs => word? "alse".toList (.bool false) cs
    | cs => numberAt? cs

/-- The items of an array up to its closing bracket, after those already read. -/
def itemsAt? : Nat → Nat → List Json → List Char → Option (Json × List Char)
  | 0, _, _, _ => none
  | fuel + 1, depth, before, cs =>
    match valueAt? fuel depth cs with
    | none => none
    | some (item, cs) =>
      match skipBlanks cs with
      | ',' :: cs => itemsAt? fuel depth (item :: before) cs
      | ']' :: cs => some (.array (item :: before).reverse, cs)
      | _ => none

/-- The members of an object up to its closing brace, after those already read. -/
def membersAt? : Nat → Nat → List (String × Json) → List Char → Option (Json × List Char)
  | 0, _, _, _ => none
  | fuel + 1, depth, before, cs =>
    match skipBlanks cs with
    | '"' :: cs =>
      match stringRest? (cs.length + 1) cs with
      | none => none
      | some (name, cs) =>
        match skipBlanks cs with
        | ':' :: cs =>
          match valueAt? fuel depth cs with
          | none => none
          | some (value, cs) =>
            let before := putMember (String.ofList name) value before
            match skipBlanks cs with
            | ',' :: cs => membersAt? fuel depth before cs
            | '\x7d' :: cs => some (.object before, cs)
            | _ => none
        | _ => none
    | _ => none

end

/-- The value that a text writes. -/
def parse? (text : List Char) : Option Json :=
  match valueAt? (2 * text.length + 2) 127 text with
  | some (value, cs) => if (skipBlanks cs).isEmpty then some value else none
  | none => none

end ModelineAssist.Json
