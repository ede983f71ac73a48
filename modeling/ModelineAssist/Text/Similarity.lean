/-!
How alike two words are, as a number from 0 to 1. Letters count as common if they stand at nearly
the same place in both; the similarity is the mean of the share of common letters in either word and
the share of these that do not stand in another order.
-/
namespace ModelineAssist.Text

/-- Marks the first unmarked letter among the given number of places, if it is `c`, counting places
from the lowest allowed one. -/
def markFirst (c : Char) : Nat → Nat → List (Char × Bool) → Option (List (Char × Bool))
  | _, 0, _ => none
  | _, _, [] => none
  | 0, count + 1, (d, marked) :: ds =>
    if c = d ∧ !marked then some ((d, true) :: ds)
    else (markFirst c 0 count ds).map ((d, marked) :: ·)
  | skip + 1, count + 1, d :: ds => (markFirst c skip count ds).map (d :: ·)

/-- The letters of the first word, from place `i` on, that are common with the second word, and the
second word with its common letters marked. `reach` is how far apart the places may be. -/
def commonLetters (reach : Nat) :
    Nat → List Char → List (Char × Bool) → List Char × List (Char × Bool)
  | _, [], ds => ([], ds)
  | i, c :: cs, ds =>
    match markFirst c (i - reach) (i + reach + 1) ds with
    | some ds =>
      let (common, ds) := commonLetters reach (i + 1) cs ds
      (c :: common, ds)
    | none => commonLetters reach (i + 1) cs ds

/-- How alike two words are. -/
def similarity (a b : List Char) : Rat :=
  let reach := max a.length b.length / 2 - 1
  let (common, marked) := commonLetters reach 0 a (b.map (·, false))
  let others := (marked.filter (·.2)).map (·.1)
  let displaced := ((common.zip others).filter fun p => p.1 ≠ p.2).length / 2
  let m := common.length
  if a = [] ∧ b = [] then 1
  else if m = 0 then 0
  else ((m : Rat) / a.length + (m : Rat) / b.length + ((m - displaced : Nat) : Rat) / m) / 3

end ModelineAssist.Text
