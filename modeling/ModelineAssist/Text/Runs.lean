/-!
Sets of code points and maps between them, written as runs: a run is an arithmetic progression of
code points, so that the alternation of capitals and small letters in many scripts is one entry.
-/
namespace ModelineAssist.Text

/-- The code points `first`, `first + step`, … up to `last`. -/
structure Run where
  first : Nat
  last : Nat
  step : Nat

/-- Whether a code point lies on the run. -/
def Run.has (r : Run) (n : Nat) : Bool :=
  r.first ≤ n && n ≤ r.last && (n - r.first) % r.step == 0

/-- Whether a code point lies on one of the runs. -/
def onRuns (rs : List Run) (n : Nat) : Bool := rs.any (·.has n)

/-- A run whose code points are all moved by the same distance. -/
structure Shift extends Run where
  distance : Int

/-- Moves a code point by the first shift whose run it lies on; off all of them it stays. -/
def shiftBy (ss : List Shift) (n : Nat) : Nat :=
  match ss.find? (·.has n) with
  | some s => (n + s.distance).toNat
  | none => n

end ModelineAssist.Text
