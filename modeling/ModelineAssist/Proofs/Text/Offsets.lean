import Mathlib.Order.Bounds.Defs
import ModelineAssist.Proofs.Text.Columns
import ModelineAssist.Text.Offsets

/-!
Borders between characters. The borders of a line are the ends of its front parts, and both the
offset and the column of a border grow with the part, so either tells the other. A line can be cut
at its borders and nowhere else.
-/
namespace ModelineAssist.Text

variable {line a b c left right part : List Char} {n start stop offset column : Nat}

/-- A border of a line: an offset at which its bytes fall into two texts. -/
def IsBorder (line : List Char) (offset : Nat) : Prop :=
  String.Pos.Raw.IsValid (String.ofList line) ⟨offset⟩

/-- The borders of a line are the ends of its front parts. -/
theorem isBorder_iff : IsBorder line offset ↔ ∃ part, part <+: line ∧ byteLength part = offset := by
  unfold IsBorder
  rw [String.Pos.Raw.isValid_ofList]
  constructor
  · rintro ⟨n, hn⟩
    exact ⟨line.take n, List.take_prefix n line, by rw [byteLength_eq, ← hn]⟩
  · rintro ⟨part, hpart, rfl⟩
    exact ⟨part.length, by rw [← List.prefix_iff_eq_take.mp hpart, byteLength_eq]⟩

theorem isBorder_of_isPrefix (h : a <+: line) : IsBorder line (byteLength a) :=
  isBorder_iff.mpr ⟨a, h, rfl⟩

theorem byteLength_le_of_isPrefix (h : a <+: b) : byteLength a ≤ byteLength b := by
  obtain ⟨rest, rfl⟩ := h
  rw [byteLength_append]
  exact Nat.le_add_right _ _

theorem not_byteLength_append_lt (a b : List Char) : ¬ byteLength (a ++ b) < byteLength a :=
  Nat.not_lt.mpr (byteLength_le_of_isPrefix (List.prefix_append a b))

theorem IsBorder.le (h : IsBorder line offset) : offset ≤ byteLength line := by
  obtain ⟨part, hpart, rfl⟩ := isBorder_iff.mp h
  exact byteLength_le_of_isPrefix hpart

/-! ### Front parts by their size -/

/-- Of two front parts of a line, the smaller one is a front part of the other, whatever their size
is measured in. -/
theorem isPrefix_iff_size_le {size : List Char → Nat}
    (hadd : ∀ a b, size (a ++ b) = size a + size b) (hpos : ∀ a, a ≠ [] → 0 < size a)
    (ha : a <+: line) (hb : b <+: line) : a <+: b ↔ size a ≤ size b := by
  constructor
  · rintro ⟨rest, rfl⟩
    rw [hadd]
    exact Nat.le_add_right _ _
  · intro h
    rcases List.prefix_or_prefix_of_prefix ha hb with hab | ⟨rest, rfl⟩
    · exact hab
    · rw [hadd] at h
      obtain rfl : rest = [] := Decidable.byContradiction fun hne => by
        have := hpos rest hne
        omega
      simp

/-- A text that takes no byte has no character. -/
theorem byteLength_pos (h : a ≠ []) : 0 < byteLength a := by
  cases a with
  | nil => exact absurd rfl h
  | cons c cs => exact Nat.add_pos_left c.utf8Size_pos _

/-- Bytes and columns order the borders of a line in the same way. -/
theorem byteLength_le_iff (ha : a <+: line) (hb : b <+: line) :
    byteLength a ≤ byteLength b ↔ columns a ≤ columns b := by
  rw [← isPrefix_iff_size_le byteLength_append (fun _ => byteLength_pos) ha hb,
    isPrefix_iff_size_le columns_append (fun _ => columns_pos) ha hb]

theorem byteLength_lt_iff (ha : a <+: line) (hb : b <+: line) :
    byteLength a < byteLength b ↔ columns a < columns b := by
  rw [← Nat.not_le, ← Nat.not_le, byteLength_le_iff hb ha]

/-- Bytes and characters order the borders of a line in the same way. -/
theorem byteLength_lt_iff_length_lt (ha : a <+: line) (hb : b <+: line) :
    byteLength a < byteLength b ↔ a.length < b.length := by
  rw [← Nat.not_le, ← Nat.not_le,
    ← isPrefix_iff_size_le byteLength_append (fun _ => byteLength_pos) hb ha,
    isPrefix_iff_size_le (fun _ _ => List.length_append) (fun _ => List.length_pos_iff.mpr) hb ha]

/-! ### Cutting -/

theorem cutAt_cons {c : Char} {cs : List Char} (h : c.utf8Size ≤ n) : cutAt n (c :: cs) =
    (cutAt (n - c.utf8Size) cs).map fun (left, right) => (c :: left, right) := by
  obtain ⟨n, rfl⟩ := Nat.exists_eq_succ_of_ne_zero (Nat.pos_iff_ne_zero.mp
    (Nat.lt_of_lt_of_le c.utf8Size_pos h))
  rw [cutAt, if_neg (Nat.not_lt.mpr h)]

/-- A text can be cut at the end of a front part. -/
theorem cutAt_append (a b : List Char) : cutAt (byteLength a) (a ++ b) = .ok (a, b) := by
  induction a with
  | nil => rw [List.nil_append, byteLength_nil, cutAt]
  | cons c cs ih =>
    rw [List.cons_append, byteLength_cons, cutAt_cons (Nat.le_add_right _ _),
      Nat.add_sub_cancel_left, ih]
    rfl

/-- A text cannot be cut elsewhere. -/
theorem eq_append_of_cutAt (h : cutAt n line = .ok (left, right)) :
    line = left ++ right ∧ byteLength left = n := by
  fun_induction cutAt n line generalizing left with
  | case1 text =>
    cases h
    exact ⟨rfl, rfl⟩
  | case2 n => cases h
  | case3 n c cs hwithin => cases h
  | case4 n c cs hge ih =>
    cases hcut : cutAt (n + 1 - c.utf8Size) cs with
    | error e =>
      rw [hcut] at h
      cases h
    | ok parts =>
      rw [hcut] at h
      cases h
      obtain ⟨rfl, hlength⟩ := ih hcut
      refine ⟨rfl, ?_⟩
      rw [byteLength_cons, hlength]
      omega

/-- What is taken out of a line is what stands between the two offsets. -/
theorem slice_eq_ok_iff : slice line start stop = .ok part ↔
    ∃ left right, line = left ++ part ++ right ∧ byteLength left = start ∧
      byteLength (left ++ part) = stop := by
  constructor
  · intro h
    unfold slice at h
    split at h
    · cases h
    · cases hstop : cutAt stop line with
      | error e =>
        rw [hstop] at h
        cases h
      | ok parts =>
        cases hstart : cutAt start parts.1 with
        | error e =>
          simp only [hstop, bind, Except.bind, hstart] at h
          cases h
        | ok parts' =>
          simp only [hstop, bind, Except.bind, hstart] at h
          cases h
          obtain ⟨rfl, hlength⟩ := eq_append_of_cutAt hstop
          obtain ⟨hleft, hlength'⟩ := eq_append_of_cutAt hstart
          exact ⟨parts'.1, parts.2, by rw [← hleft], hlength', by rw [← hleft, hlength]⟩
  · rintro ⟨left, right, rfl, rfl, rfl⟩
    simp only [slice, if_neg (not_byteLength_append_lt left part), cutAt_append, bind, Except.bind]
    rfl

/-- A wide character is not cut, nothing is taken from behind the line, and nothing backwards. -/
example : slice ['a', '😀'] 0 3 = .error .within ∧ slice ['a', '😀'] 1 6 = .error .beyond ∧
    slice ['a', '😀'] 1 0 = .error .reversed := ⟨rfl, rfl, rfl⟩

/-- Going back by the length of the last part leads to where it starts. -/
theorem goBack_append (a b : List Char) :
    goBack (byteLength (a ++ b)) (byteLength b) = .ok (byteLength a) := by
  rw [goBack, byteLength_append, if_neg (Nat.not_lt.mpr (Nat.le_add_left _ _)),
    Nat.add_sub_cancel]

/-! ### Offsets and columns -/

theorem charsUpTo_append (a b : List Char) : charsUpTo (byteLength a) (a ++ b) = a.length := by
  induction a with
  | nil =>
    cases b with
    | nil => rfl
    | cons c cs => exact if_pos c.utf8Size_pos
  | cons c cs ih =>
    rw [List.cons_append, byteLength_cons, charsUpTo,
      if_neg (Nat.not_lt.mpr (Nat.le_add_right _ _)), Nat.add_sub_cancel_left, ih, List.length_cons]

/-- The offset of a column is where the part left of it ends. -/
theorem offsetOfColumn_eq (line : List Char) (column : Nat) :
    offsetOfColumn line column = .ok (byteLength (leftOf column line)) := by
  have hleft := leftOf_isPrefix column line
  have hlength : ¬ line.length < (leftOf column line).length := Nat.not_lt.mpr hleft.length_le
  simp only [offsetOfColumn, charOfColumn, offsetOfChar, leftOf_min, bind, Except.bind,
    if_neg (Nat.not_lt.mpr (Nat.min_le_right column (columns line))), if_neg hlength,
    ← List.prefix_iff_eq_take.mp hleft]

/-- The column of the end of a front part is how many columns the part takes. -/
theorem columnOfOffset_of_isPrefix (h : a <+: line) :
    columnOfOffset line (byteLength a) = .ok (columns a) := by
  have htake := List.prefix_iff_eq_take.mp h
  have hbytes : ¬ byteLength line < byteLength a := Nat.not_lt.mpr (byteLength_le_of_isPrefix h)
  have hchars : charsUpTo (byteLength a) line = a.length := by
    obtain ⟨rest, rfl⟩ := h
    exact charsUpTo_append a rest
  simp only [columnOfOffset, charOfOffset, columnOfChar, if_neg hbytes, hchars, bind, Except.bind,
    if_neg (Nat.not_lt.mpr h.length_le), ← htake]

/-- A column becomes the offset of the last border that it reaches. -/
theorem isGreatest_byteLength_leftOf (line : List Char) (column : Nat) :
    IsGreatest {offset | IsBorder line offset ∧ ∃ n, columnOfOffset line offset = .ok n ∧
      n ≤ min column (columns line)} (byteLength (leftOf column line)) := by
  obtain ⟨hleft, hreached, hlast⟩ := isLeftOf_leftOf column line
  constructor
  · exact ⟨isBorder_of_isPrefix hleft, _, columnOfOffset_of_isPrefix hleft, hreached⟩
  · rintro offset ⟨hborder, n, hn, hle⟩
    obtain ⟨part, hpart, rfl⟩ := isBorder_iff.mp hborder
    rw [columnOfOffset_of_isPrefix hpart] at hn
    obtain rfl := Except.ok.inj hn
    exact byteLength_le_of_isPrefix (hlast part hpart hle)

/-- A later column has no earlier offset. -/
theorem byteLength_leftOf_le {column' : Nat} (h : column ≤ column') (line : List Char) :
    byteLength (leftOf column line) ≤ byteLength (leftOf column' line) :=
  byteLength_le_of_isPrefix
    (isPrefix_leftOf (leftOf_isPrefix column line) (Nat.le_trans (columns_leftOf_le column line) h))

/-- From a border to its column and back leads to the same border. -/
theorem IsBorder.exists_column (h : IsBorder line offset) :
    ∃ n, columnOfOffset line offset = .ok n ∧ offsetOfColumn line n = .ok offset := by
  obtain ⟨part, ⟨rest, rfl⟩, rfl⟩ := isBorder_iff.mp h
  refine ⟨_, columnOfOffset_of_isPrefix (List.prefix_append part rest), ?_⟩
  rw [offsetOfColumn_eq, leftOf_columns_append]

/-- A later border has a later column. -/
theorem IsBorder.column_lt {offset' n' : Nat} (h : IsBorder line offset)
    (h' : IsBorder line offset') (hn : columnOfOffset line offset = .ok n)
    (hn' : columnOfOffset line offset' = .ok n') (hlt : offset < offset') : n < n' := by
  obtain ⟨part, hpart, rfl⟩ := isBorder_iff.mp h
  obtain ⟨part', hpart', rfl⟩ := isBorder_iff.mp h'
  rw [columnOfOffset_of_isPrefix hpart] at hn
  rw [columnOfOffset_of_isPrefix hpart'] at hn'
  obtain rfl := Except.ok.inj hn
  obtain rfl := Except.ok.inj hn'
  exact (byteLength_lt_iff hpart hpart').mp hlt

end ModelineAssist.Text
