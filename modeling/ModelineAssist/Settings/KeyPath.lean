import ModelineAssist.Decimal

/-!
Keys that are paths: names joined by points, each possibly followed by the number of an item in
brackets, as `a.b[0].c`.
-/
namespace ModelineAssist.Settings

/-- A step from a value into a part of it. -/
inductive KeyStep
  | child (key : String)
  | item (index : Int)
  deriving DecidableEq, Repr

/-- A name, and the steps that lead on from it. -/
structure KeyPath where
  first : String
  steps : List KeyStep
  deriving DecidableEq, Repr

/-- Characters that the names in a path consist of. -/
def isKeyChar (c : Char) : Bool :=
  c.isAlphanum || c == ' ' || c == '_' || c == '-'

/-- The name at the front of a text, at least one character long. -/
def keyName? (cs : List Char) : Option (String × List Char) :=
  let name := cs.takeWhile isKeyChar
  if name.isEmpty then none else some (String.ofList name, cs.drop name.length)

/-- The number of an item and the closing bracket, at the front of a text. -/
def itemIndex? (cs : List Char) : Option (Int × List Char) :=
  let (negative, cs) := match cs with
    | '-' :: cs => (true, cs)
    | '+' :: cs => (false, cs)
    | cs => (false, cs)
  let digits := cs.takeWhile (isDigitOf 10)
  if digits.isEmpty then none
  else match cs.drop digits.length with
    | ']' :: rest =>
      let n : Int := ofDigits 10 digits
      if n ≤ Int64.maxValue.toInt then some (if negative then -n else n, rest) else none
    | _ => none

/-- The steps that a text consists of. Every step takes a character or more off the text, whose
length bounds their number. -/
def keySteps? : Nat → List Char → Option (List KeyStep)
  | _, [] => some []
  | 0, _ => none
  | fuel + 1, '.' :: cs =>
    (keyName? cs).bind fun (key, cs) => (keySteps? fuel cs).map (.child key :: ·)
  | fuel + 1, '[' :: cs =>
    (itemIndex? cs).bind fun (index, cs) => (keySteps? fuel cs).map (.item index :: ·)
  | _, _ => none

/-- The path that a key reads as. -/
def KeyPath.parse? (key : String) : Option KeyPath :=
  (keyName? key.toList).bind fun (first, cs) =>
    (keySteps? cs.length cs).map (⟨first, ·⟩)

end ModelineAssist.Settings
