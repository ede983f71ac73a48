import Mathlib.Tactic.SplitIfs

/-!
The order of texts. Texts are ordered by their characters, which is the order of the bytes that
UTF-8 writes them with: the first byte tells how many there are, and the more there are the larger
the character is.
-/
namespace ModelineAssist.Text

/-- The bytes of a text in UTF-8. -/
def utf8 (s : String) : List UInt8 := s.toUTF8.data.toList

variable {a b : List Char} {c d : Char} {s t : String}

theorem utf8_eq (s : String) : utf8 s = s.toList.flatMap String.utf8EncodeChar := by
  conv => lhs; rw [← String.ofList_toList (s := s)]
  rw [utf8, String.toUTF8_eq_toByteArray, String.toByteArray_ofList, List.utf8Encode,
    List.toList_data_toByteArray]

/-- The bytes of the smaller of two characters come first, whatever follows either. -/
theorem utf8EncodeChar_append_lt (h : c < d) (x y : List UInt8) :
    String.utf8EncodeChar c ++ x < String.utf8EncodeChar d ++ y := by
  have hlt : c.val.toNat < d.val.toNat := h
  have hd : d.val.toNat < 0x110000 := by
    rcases d.valid with h | h
    · exact Nat.lt_trans h (by decide)
    · exact h.2
  -- All bytes but the first are digits to the base of 64.
  have twice (n : Nat) : n / 4096 = n / 64 / 64 := by omega
  have thrice (n : Nat) : n / 262144 = n / 64 / 64 / 64 := by omega
  unfold String.utf8EncodeChar
  dsimp only
  split_ifs <;>
    simp only [List.cons_append, List.nil_append, List.cons_lt_cons_iff, UInt8.lt_iff_toNat_lt,
      ← UInt8.toNat_inj, UInt8.toNat_ofNat', twice, thrice] <;> omega

theorem flatMap_utf8EncodeChar_lt (h : a < b) :
    a.flatMap String.utf8EncodeChar < b.flatMap String.utf8EncodeChar := by
  induction a generalizing b with
  | nil =>
    cases b with
    | nil => exact absurd h (List.not_lt_nil [])
    | cons d ds =>
      have hne : String.utf8EncodeChar d ≠ [] := String.utf8EncodeChar_ne_nil
      obtain ⟨byte, bytes, hbytes⟩ := List.exists_cons_of_ne_nil hne
      rw [List.flatMap_cons, hbytes]
      exact List.nil_lt_cons byte _
  | cons c cs ih =>
    cases b with
    | nil => exact absurd h (List.not_lt_nil (c :: cs))
    | cons d ds =>
      rw [List.flatMap_cons, List.flatMap_cons]
      rcases List.cons_lt_cons_iff.mp h with hcd | ⟨rfl, hcs⟩
      · exact utf8EncodeChar_append_lt hcd _ _
      · exact List.append_left_lt (ih hcs)

/-- Texts are ordered as their bytes are. -/
theorem utf8_lt_utf8_iff : utf8 s < utf8 t ↔ s < t := by
  have bytes_lt {s t : String} (h : s < t) : utf8 s < utf8 t := by
    rw [utf8_eq, utf8_eq]
    exact flatMap_utf8EncodeChar_lt h
  refine ⟨fun h => Decidable.byContradiction fun hst => ?_, bytes_lt⟩
  by_cases hts : t < s
  · exact List.lt_asymm h (bytes_lt hts)
  · obtain rfl := String.le_antisymm (String.not_lt.mp hts) (String.not_lt.mp hst)
    exact List.lt_irrefl _ h

/-! ### Texts with a common front -/

/-- A text is not smaller than its front. -/
theorem not_lt_of_isPrefix (h : a <+: b) : ¬ b < a := by
  obtain ⟨rest, rfl⟩ := h
  induction a with
  | nil => exact List.not_lt_nil _
  | cons c a ih =>
    rw [List.cons_append, List.cons_lt_cons_iff]
    rintro (hc | ⟨-, ha⟩)
    · exact Char.lt_irrefl c hc
    · exact ih ha

/-- Between a text and one that starts with it, all texts start with it. -/
theorem isPrefix_of_between {x : List Char} (hb : a <+: b) (hax : ¬ x < a) (hxb : ¬ b < x) :
    a <+: x := by
  induction a generalizing b x with
  | nil => exact List.nil_prefix
  | cons c a ih =>
    obtain ⟨rest, rfl⟩ := hb
    cases x with
    | nil => exact absurd (List.nil_lt_cons c a) hax
    | cons d x =>
      rw [List.cons_lt_cons_iff, not_or] at hax
      rw [List.cons_append, List.cons_lt_cons_iff, not_or] at hxb
      obtain rfl : c = d := Char.le_antisymm (Char.not_lt.mp hax.1) (Char.not_lt.mp hxb.1)
      have hax' : ¬ x < a := fun h => hax.2 ⟨rfl, h⟩
      have hxb' : ¬ a ++ rest < x := fun h => hxb.2 ⟨rfl, h⟩
      exact List.cons_prefix_cons.mpr ⟨rfl, ih (List.prefix_append a rest) hax' hxb'⟩

end ModelineAssist.Text
