import ModelineAssist.Text.Case
import ModelineAssist.Uri.Percent
import ModelineAssist.Uri.Punycode

/-!
The host that an identifier names. With the schemes of the web a host is a domain name, or an
address that may be written in several ways; with other schemes it is any text.
-/
namespace ModelineAssist.Uri

/-- The host of an identifier. -/
inductive Host
  | name (text : List Char)
  /-- An address of 32 bits. -/
  | short (address : Nat)
  /-- An address of eight pieces of 16 bits each. -/
  | long (pieces : List Nat)
  deriving DecidableEq, Repr

/-! ### Addresses of 32 bits -/

/-- A part of an address: decimal, octal behind a zero, or hexadecimal behind `0x`. -/
def addressPart? (cs : List Char) : Option Nat :=
  let (base, digits) := match cs with
    | '0' :: 'x' :: ds => (16, ds)
    | '0' :: 'X' :: ds => (16, ds)
    | '0' :: d :: ds => (8, d :: ds)
    | ds => (10, ds)
  if cs ≠ [] ∧ digits.all (isDigitOf base) then some (ofDigits base digits) else none

/-- The parts of a name; a dot at its end does not count. -/
def dottedParts (name : List Char) : List (List Char) :=
  let parts := name.splitOn '.'
  if parts.getLast? = some [] then parts.dropLast else parts

/-- Whether a name has to be an address: its last part is a number. -/
def endsInNumber (name : List Char) : Bool :=
  match (dottedParts name).getLast? with
  | some last =>
    (!last.isEmpty && last.all (isDigitOf 10)) || (addressPart? last).isSome
  | none => false

/-- An address of some bytes by its parts: each part but the last is a byte, and the last one fills
the bytes that are left. -/
def addressOfParts? : Nat → List Nat → Option Nat
  | 0, _ => none
  | bytes + 1, [last] => if last < Nat.pow 256 (bytes + 1) then some last else none
  | bytes + 1, n :: ns =>
    if n < 256 then (addressOfParts? bytes ns).map (n * Nat.pow 256 bytes + ·) else none
  | _ + 1, [] => none

/-- An address in its dotted form. -/
def address? (name : List Char) : Option Nat :=
  ((dottedParts name).mapM addressPart?).bind (addressOfParts? 4)

/-- The four bytes of an address. -/
def addressBytes (n : Nat) : List Nat :=
  [n / 0x1000000, n / 0x10000 % 256, n / 0x100 % 256, n % 256]

/-! ### Addresses of eight pieces -/

/-- A piece: up to four hexadecimal digits. -/
def piece? (cs : List Char) : Option Nat :=
  if cs ≠ [] ∧ cs.length ≤ 4 ∧ cs.all (isDigitOf 16) then some (ofDigits 16 cs) else none

/-- A byte in decimal digits without a leading zero. -/
def decimalByte? (cs : List Char) : Option Nat :=
  if cs ≠ [] ∧ cs.all (isDigitOf 10) ∧ (cs.head? ≠ some '0' ∨ cs.length = 1) ∧
      ofDigits 10 cs < 256 then
    some (ofDigits 10 cs)
  else none

/-- The two pieces that four dotted bytes make. -/
def dottedPieces? (cs : List Char) : Option (List Nat) :=
  match (cs.splitOn '.').mapM decimalByte? with
  | some [a, b, c, d] => some [a * 256 + b, c * 256 + d]
  | _ => none

/-- The pieces that some texts write; the last one may be four dotted bytes, if `tail` says so. -/
def piecesOf? (tail : Bool) : List (List Char) → Option (List Nat)
  | [] => some []
  | [last] =>
    match piece? last with
    | some n => some [n]
    | none => if tail then dottedPieces? last else none
  | p :: ps => (piece? p).bind fun n => (piecesOf? tail ps).map (n :: ·)

/-- Pieces with colons between them. -/
def pieces? (tail : Bool) (cs : List Char) : Option (List Nat) :=
  if cs = [] then some [] else piecesOf? tail (cs.splitOn ':')

/-- The text before and behind the first `::`. -/
def atGap? : List Char → Option (List Char × List Char)
  | ':' :: ':' :: cs => some ([], cs)
  | c :: cs => (atGap? cs).map fun (before, behind) => (c :: before, behind)
  | [] => none

/-- An address in its form with colons; a `::` stands for the pieces that are missing. -/
def longAddress? (cs : List Char) : Option (List Nat) :=
  match atGap? cs with
  | none => (pieces? true cs).bind fun ps => if ps.length = 8 then some ps else none
  | some (before, behind) => do
    let before ← pieces? false before
    let behind ← pieces? true behind
    let missing := 8 - (before.length + behind.length)
    if missing = 0 then none
    else some (before ++ List.replicate missing 0 ++ behind)

/-- Texts with colons between them. -/
def joinColons : List (List Char) → List Char
  | [] => []
  | [t] => t
  | t :: ts => t ++ ':' :: joinColons ts

/-- Where the longest run of zeros starts and how long it is; of equal ones the first. -/
def longestZeros : Nat → List Nat → Nat × Nat
  | _, [] => (0, 0)
  | start, n :: ns =>
    let here := ((n :: ns).takeWhile (· == 0)).length
    let later := longestZeros (start + 1) ns
    if later.2 ≤ here then (start, here) else later

/-- The form of an address with colons: the longest run of two zeros or more is left out. -/
def longAddressText (pieces : List Nat) : List Char :=
  let texts := pieces.map (Nat.toDigits 16)
  let (start, count) := longestZeros 0 pieces
  if count < 2 then joinColons texts
  else joinColons (texts.take start) ++ "::".toList ++ joinColons (texts.drop (start + count))

/-! ### Hosts -/

/-- What no host may hold. -/
def forbiddenInHost (c : Char) : Bool :=
  [' ', '#', '/', ':', '<', '>', '?', '@', '[', '\\', ']', '^', '|', '\x00'].contains c

/-- A label of a domain name in ASCII. -/
def asciiLabel (label : List Char) : List Char :=
  if label.all (·.toNat < 0x80) then label else "xn--".toList ++ Punycode.encode label

/-- Whether a character separates the labels of a domain name. -/
def isLabelEnd (c : Char) : Bool := ['.', '\u3002', '\uff0e', '\uff61'].contains c

/-- Labels with dots between them. -/
def joinDots : List (List Char) → List Char
  | [] => []
  | [t] => t
  | t :: ts => t ++ '.' :: joinDots ts

/-- A domain name in small ASCII letters. -/
def domain? (text : List Char) : Option (List Char) :=
  let name := joinDots (((text.flatMap Text.lowercaseChar).splitOnP isLabelEnd).map asciiLabel)
  if name = [] || name.any fun c => forbiddenInHost c || isControl c || c == '%' || c == '\x7f' then
    none
  else some name

/-- A host in brackets: an address with colons. -/
def bracketed? (cs : List Char) : Option Host :=
  if cs.getLast? = some ']' then (longAddress? cs.dropLast).map .long else none

/-- The host with a scheme of the web. -/
def webHost? : List Char → Option Host
  | '[' :: cs => bracketed? cs
  | cs => do
    let text ← String.fromUTF8? (unescape cs).toByteArray
    let name ← domain? text.toList
    if endsInNumber name then (address? name).map .short else some (.name name)

/-- The host with any other scheme. -/
def plainHost? : List Char → Option Host
  | '[' :: cs => bracketed? cs
  | cs => if cs.any forbiddenInHost then none else some (.name (escape isControl cs))

/-- How a host is written. -/
def Host.text : Host → List Char
  | .name text => text
  | .short address => joinDots ((addressBytes address).map (Nat.toDigits 10))
  | .long pieces => '[' :: longAddressText pieces ++ [']']

end ModelineAssist.Uri
