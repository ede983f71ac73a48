/-!
Punycode: the letters of a name beyond ASCII written in ASCII. The ASCII letters stand first. Then
follow, for the other letters in increasing order, the distances between their places of insertion,
each as a number in base 36 whose last digit shows by its size that it is the last.
-/
namespace ModelineAssist.Uri.Punycode

/-- The digit for a value: letters first, then decimal digits. -/
def digit (n : Nat) : Char := if n < 26 then Char.ofNat (0x61 + n) else Char.ofNat (0x16 + n)

/-- The bound below which the digit of a position is the last one of its number. -/
def threshold (position bias : Nat) : Nat :=
  if position ≤ bias then 1 else if bias + 26 ≤ position then 26 else position - bias

/-- The digits of a number from a position on, with as many digits as the fuel at most. -/
def digits (bias : Nat) : Nat → Nat → Nat → List Char
  | 0, _, _ => []
  | fuel + 1, position, n =>
    let t := threshold position bias
    if n < t then [digit n]
    else digit (t + (n - t) % (36 - t)) :: digits bias fuel (position + 36) ((n - t) / (36 - t))

/-- Scales a distance down; yields how often, and what is left. -/
def scaleDown : Nat → Nat → Nat → Nat × Nat
  | 0, k, delta => (k, delta)
  | fuel + 1, k, delta => if delta ≤ 455 then (k, delta) else scaleDown fuel (k + 36) (delta / 35)

/-- The bias after a number, `count` being the letters written so far. -/
def adapt (delta count : Nat) (first : Bool) : Nat :=
  let delta := if first then delta / 700 else delta / 2
  let (k, delta) := scaleDown (delta + 1) 0 (delta + delta / count)
  k + 36 * delta / (delta + 38)

/-- Where writing stands: the digits so far, the distance since the last one, the bias, and the
number of letters written. -/
structure Progress where
  written : List Char
  delta : Nat
  bias : Nat
  count : Nat

/-- Writes the places of a letter in a name: one number for each. -/
def writePlaces (base : Nat) (letter : Char) : Progress → List Char → Progress :=
  List.foldl fun p c =>
    if c.toNat < letter.toNat then { p with delta := p.delta + 1 }
    else if c = letter then
      { written := p.written ++ digits p.bias (p.delta + 1) 36 p.delta
        delta := 0
        bias := adapt p.delta (p.count + 1) (p.count == base)
        count := p.count + 1 }
    else p

/-- Writes the letters in turn, `next` being the least code point not yet written. -/
def writeLetters (name : List Char) (base : Nat) : List Char → Nat → Progress → Progress
  | [], _, p => p
  | letter :: letters, next, p =>
    let p := { p with delta := p.delta + (letter.toNat - next) * (p.count + 1) }
    let p := writePlaces base letter p name
    writeLetters name base letters (letter.toNat + 1) { p with delta := p.delta + 1 }

/-- A name in Punycode. -/
def encode (name : List Char) : List Char :=
  let basic := name.filter (·.toNat < 0x80)
  let letters := ((name.filter (0x80 ≤ ·.toNat)).eraseDups).mergeSort (·.toNat ≤ ·.toNat)
  let start : Progress := ⟨[], 0, 72, basic.length⟩
  basic ++ (if basic.isEmpty then [] else ['-']) ++
    (writeLetters name basic.length letters 0x80 start).written

end ModelineAssist.Uri.Punycode
