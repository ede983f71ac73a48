/-!
Columns of a line, counted in UTF-16 code units. A character beyond the basic plane takes two
columns, every other character one. A line is cut at a column before the character that covers it,
so a cut never splits a character, and a column past the end cuts at the end.
-/
namespace ModelineAssist.Text

/-- How many columns a character takes. -/
def width (c : Char) : Nat := if c.toNat < 0x10000 then 1 else 2

theorem width_pos (c : Char) : 0 < width c := by
  unfold width
  split <;> decide

/-- How many columns a text takes. -/
def columns : List Char → Nat
  | [] => 0
  | c :: cs => width c + columns cs

@[simp] theorem columns_nil : columns [] = 0 := rfl

@[simp] theorem columns_cons (c : Char) (cs : List Char) :
    columns (c :: cs) = width c + columns cs := rfl

@[simp] theorem columns_append (a b : List Char) : columns (a ++ b) = columns a + columns b := by
  induction a with
  | nil => simp
  | cons c cs ih => simp [ih, Nat.add_assoc]

/-- The part of a line left of a column: its characters that end at the column or before it. -/
def leftOf : Nat → List Char → List Char
  | _, [] => []
  | n, c :: cs => if n < width c then [] else c :: leftOf (n - width c) cs

/-- The part of a line from a column on. -/
def rightOf (n : Nat) (line : List Char) : List Char := line.drop (leftOf n line).length

theorem exists_eq_leftOf_append (n : Nat) (line : List Char) :
    ∃ rest, line = leftOf n line ++ rest := by
  induction line generalizing n with
  | nil => exact ⟨[], rfl⟩
  | cons c cs ih =>
    by_cases h : n < width c
    · exact ⟨c :: cs, by simp [leftOf, h]⟩
    · obtain ⟨rest, hr⟩ := ih (n - width c)
      exact ⟨rest, by rw [leftOf, if_neg h, List.cons_append, ← hr]⟩

/-- A cut loses nothing. -/
theorem leftOf_append_rightOf (n : Nat) (line : List Char) :
    leftOf n line ++ rightOf n line = line := by
  obtain ⟨rest, hr⟩ := exists_eq_leftOf_append n line
  have : rightOf n line = rest := by
    unfold rightOf
    conv => lhs; rw [hr]
    have h : (leftOf n (leftOf n line ++ rest)).length = (leftOf n line).length := by rw [← hr]
    rw [h, List.drop_left]
  rw [this, ← hr]

end ModelineAssist.Text
