import ModelineAssist.Text.Columns

/-!
Where a line is cut. The part left of a column is the longest part that ends at the column or before
it, so cutting at the end of a part gives that part back, and a cut behind a part is a cut of what
follows it.
-/
namespace ModelineAssist.Text

variable {n : Nat} {a b line : List Char}

@[simp] theorem leftOf_zero (line : List Char) : leftOf 0 line = [] := by
  cases line with
  | nil => rfl
  | cons c cs => rw [leftOf, if_pos (width_pos c)]

/-- A cut does not lie behind its column. -/
theorem columns_leftOf_le (n : Nat) (line : List Char) : columns (leftOf n line) ≤ n := by
  induction line generalizing n with
  | nil => simp [leftOf]
  | cons c cs ih =>
    by_cases h : n < width c
    · simp [leftOf, h]
    · have := ih (n - width c)
      rw [leftOf, if_neg h, columns_cons]
      omega

/-- A cut behind a part is a cut of what follows it. -/
theorem leftOf_append_of_le (h : columns a ≤ n) (b : List Char) :
    leftOf n (a ++ b) = a ++ leftOf (n - columns a) b := by
  induction a generalizing n with
  | nil => simp
  | cons c cs ih =>
    rw [columns_cons] at h
    have hc : ¬ n < width c := by omega
    rw [List.cons_append, leftOf, if_neg hc, ih (by omega), List.cons_append, columns_cons,
      Nat.sub_sub]

/-- A cut within a part does not see what follows it. -/
theorem leftOf_append_of_ge (h : n ≤ columns a) (b : List Char) :
    leftOf n (a ++ b) = leftOf n a := by
  induction a generalizing n with
  | nil =>
    obtain rfl : n = 0 := Nat.le_zero.mp h
    simp
  | cons c cs ih =>
    by_cases hc : n < width c
    · simp [leftOf, hc]
    · rw [columns_cons] at h
      rw [List.cons_append, leftOf, leftOf, if_neg hc, if_neg hc, ih (by omega)]

/-- Cutting at the end of a part gives the part. -/
@[simp] theorem leftOf_columns_append (a b : List Char) : leftOf (columns a) (a ++ b) = a := by
  rw [leftOf_append_of_le (Nat.le_refl _), Nat.sub_self, leftOf_zero, List.append_nil]

/-- Cutting at a cut gives the same part again. -/
theorem leftOf_columns_leftOf (n : Nat) (line : List Char) :
    leftOf (columns (leftOf n line)) line = leftOf n line := by
  obtain ⟨rest, hrest⟩ := exists_eq_leftOf_append n line
  have hcut := leftOf_columns_append (leftOf n line) rest
  rwa [← hrest] at hcut

@[simp] theorem rightOf_columns_append (a b : List Char) : rightOf (columns a) (a ++ b) = b := by
  rw [rightOf, leftOf_columns_append, List.drop_left]

/-- A text that takes no column has no character. -/
theorem columns_pos (h : a ≠ []) : 0 < columns a := by
  cases a with
  | nil => exact absurd rfl h
  | cons c cs => exact Nat.add_pos_left (width_pos c) _

/-! ### The last border that a column reaches -/

/-- The part of a line that ends at the last border between characters that a column reaches, where
a column behind the line counts as its end. -/
def IsLeftOf (column : Nat) (line part : List Char) : Prop :=
  part <+: line ∧ columns part ≤ min column (columns line) ∧
    ∀ other, other <+: line → columns other ≤ min column (columns line) → other <+: part

theorem columns_le_of_isPrefix (h : a <+: line) : columns a ≤ columns line := by
  obtain ⟨rest, rfl⟩ := h
  rw [columns_append]
  exact Nat.le_add_right _ _

theorem leftOf_isPrefix (n : Nat) (line : List Char) : leftOf n line <+: line :=
  ⟨_, leftOf_append_rightOf n line⟩

/-- A front part that a column reaches lies left of it. -/
theorem isPrefix_leftOf (h : a <+: line) (hn : columns a ≤ n) : a <+: leftOf n line := by
  obtain ⟨rest, rfl⟩ := h
  rw [leftOf_append_of_le hn]
  exact List.prefix_append _ _

theorem isLeftOf_leftOf (n : Nat) (line : List Char) : IsLeftOf n line (leftOf n line) := by
  refine ⟨leftOf_isPrefix n line, ?_, fun other hother hn => ?_⟩
  · have := columns_leftOf_le n line
    have := columns_le_of_isPrefix (leftOf_isPrefix n line)
    omega
  · exact isPrefix_leftOf hother (by omega)

/-- There is just one such part. -/
theorem isLeftOf_iff {part : List Char} : IsLeftOf n line part ↔ part = leftOf n line := by
  constructor
  · intro h
    have hcut := isLeftOf_leftOf n line
    have hshorter : part <+: leftOf n line := hcut.2.2 part h.1 h.2.1
    have hlonger : leftOf n line <+: part := h.2.2 _ hcut.1 hcut.2.1
    exact hshorter.eq_of_length_le hlonger.length_le
  · rintro rfl
    exact isLeftOf_leftOf n line

/-- A column behind the line cuts it at its end. -/
theorem leftOf_min (n : Nat) (line : List Char) :
    leftOf (min n (columns line)) line = leftOf n line := by
  refine isLeftOf_iff.mp ?_
  have hcut := isLeftOf_leftOf (min n (columns line)) line
  rwa [IsLeftOf, Nat.min_assoc, Nat.min_self] at hcut

/-- In front of a character of one column, no column lies between a border and the next one. -/
theorem min_le_of_columns_leftOf_le (hb : ∀ c ∈ b.head?, width c = 1)
    (h : columns (leftOf n (a ++ b)) ≤ columns a) : min n (columns (a ++ b)) ≤ columns a := by
  cases b with
  | nil =>
    rw [List.append_nil]
    exact Nat.min_le_right _ _
  | cons c cs =>
    have hc : width c = 1 := hb c rfl
    refine Decidable.byContradiction fun hlt => ?_
    -- A column behind the border reaches the end of the character too.
    have hreached : columns (a ++ [c]) ≤ n := by
      rw [columns_append, columns_cons, columns_nil, hc]
      omega
    have hprefix : a ++ [c] <+: a ++ c :: cs := ⟨cs, by simp⟩
    have hle := columns_le_of_isPrefix (isPrefix_leftOf hprefix hreached)
    rw [columns_append, columns_cons, columns_nil, hc] at hle
    omega

end ModelineAssist.Text
