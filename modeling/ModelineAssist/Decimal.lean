/-!
Decimal numbers as they are written: an integer times a power of ten. Programs that keep numbers as
64-bit floating point read very small ones as zero and refuse or saturate very large ones; both
bounds are decided here in whole numbers.
-/
namespace ModelineAssist

/-- The number `mantissa * 10 ^ exponent`. -/
structure Decimal where
  mantissa : Int
  exponent : Int
  deriving DecidableEq, Repr

namespace Decimal

/-- The number of digits of the mantissa. -/
def digitCount (d : Decimal) : Nat := (Nat.toDigits 10 d.mantissa.natAbs).length

/-- Whether the nearest 64-bit floating point number is zero: the magnitude is at most half of the
smallest positive one, `2 ^ -1075`. Numbers far from the bound are not computed. -/
def roundsToZero (d : Decimal) : Bool :=
  if d.mantissa = 0 then true
  else
    let magnitude := d.exponent + d.digitCount
    if magnitude < -400 then true
    else if -300 < magnitude then false
    else d.mantissa.natAbs * Nat.pow 2 1075 * Nat.pow 10 d.exponent.toNat ≤
      Nat.pow 10 (-d.exponent).toNat

/-- Whether the nearest 64-bit floating point number is infinite: the magnitude is at least halfway
between the largest one and `2 ^ 1024`. -/
def overflows (d : Decimal) : Bool :=
  if d.mantissa = 0 then false
  else
    let magnitude := d.exponent + d.digitCount
    if magnitude < 300 then false
    else if 320 < magnitude then true
    else (Nat.pow 2 1024 - Nat.pow 2 970) * Nat.pow 10 (-d.exponent).toNat ≤
      d.mantissa.natAbs * Nat.pow 10 d.exponent.toNat

end Decimal

/-- The value of a digit in a base up to sixteen. -/
def digitValue? (base : Nat) (c : Char) : Option Nat :=
  let v :=
    if '0' ≤ c && c ≤ '9' then c.toNat - 48
    else if 'a' ≤ c && c ≤ 'f' then c.toNat - 87
    else if 'A' ≤ c && c ≤ 'F' then c.toNat - 55
    else 16
  if v < base then some v else none

/-- Whether a character is a digit in a base. -/
def isDigitOf (base : Nat) (c : Char) : Bool := (digitValue? base c).isSome

/-- The number that a sequence of digits writes; characters that are no digits are passed over. -/
def ofDigits (base : Nat) (cs : List Char) : Nat :=
  cs.foldl (fun n c => match digitValue? base c with
    | some v => n * base + v
    | none => n) 0

end ModelineAssist
