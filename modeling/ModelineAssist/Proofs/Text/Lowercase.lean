import ModelineAssist.Text.Case

/-!
Lowercasing of what may be ASCII. On ASCII texts it works letter by letter. On others the sigma is
the one letter whose lowercase depends on its neighbours, and none of its lowercases is ASCII; so
wherever the lowercase of a text turns out to be ASCII, its characters were lowercased one by one.
-/
namespace ModelineAssist.Text

variable {a b before : List Char} {c : Char}

/-- Holds ASCII characters alone. -/
def Ascii (a : List Char) : Prop := ∀ c ∈ a, isAscii c = true

instance (a : List Char) : Decidable (Ascii a) := List.decidableBAll _ a

theorem ascii_cons : Ascii (c :: a) ↔ isAscii c = true ∧ Ascii a := List.forall_mem_cons

theorem ascii_append : Ascii (a ++ b) ↔ Ascii a ∧ Ascii b := List.forall_mem_append

theorem all_isAscii : a.all isAscii = true ↔ Ascii a := List.all_eq_true

/-- What holds of the first 128 characters holds of every ASCII character. -/
theorem forall_of_isAscii {p : Char → Prop} (h : ∀ n < 0x80, p (Char.ofNat n))
    (hc : isAscii c = true) : p c := by
  have := h c.toNat (of_decide_eq_true hc)
  rwa [Char.ofNat_toNat] at this

theorem isAscii_asciiLower (hc : isAscii c = true) : isAscii (asciiLower c) = true :=
  forall_of_isAscii (p := fun c => isAscii (asciiLower c) = true) (by decide +kernel) hc

/-- The capital letters among the ASCII characters are those of ASCII. -/
theorem isUppercase_of_isAscii (hc : isAscii c = true) : isUppercase c = isAsciiUpper c :=
  forall_of_isAscii (p := fun c => isUppercase c = isAsciiUpper c) (by decide +kernel) hc

theorem ascii_map_asciiLower (ha : Ascii a) : Ascii (a.map asciiLower) := by
  intro c hc
  obtain ⟨d, hd, rfl⟩ := List.mem_map.mp hc
  exact isAscii_asciiLower (ha d hd)

/-! ### Lowercasing part by part -/

theorem isAscii_lowercaseSigma (before after : List Char) :
    isAscii (lowercaseSigma before after) = false := by
  unfold lowercaseSigma
  split <;> decide

/-- Without a sigma each character is lowercased by itself. -/
theorem lowercaseAfter_append (h : 'Σ' ∉ a) :
    lowercaseAfter before (a ++ b) =
      a.flatMap lowercaseChar ++ lowercaseAfter (a.reverse ++ before) b := by
  induction a generalizing before with
  | nil => rfl
  | cons c cs ih =>
    have hc : c ≠ 'Σ' := fun heq => h (heq ▸ List.mem_cons_self)
    have hcs : 'Σ' ∉ cs := fun hmem => h (List.mem_cons_of_mem _ hmem)
    rw [List.cons_append, lowercaseAfter, if_neg hc, ih hcs, List.flatMap_cons, List.append_assoc,
      List.reverse_cons, List.append_assoc, List.singleton_append]

theorem lowercase_of_not_mem (h : 'Σ' ∉ a) : lowercase a = a.flatMap lowercaseChar := by
  have hnil : lowercase (a ++ []) = a.flatMap lowercaseChar ++ [] := lowercaseAfter_append h
  rwa [List.append_nil, List.append_nil] at hnil

/-- A text whose lowercase is ASCII holds no sigma. -/
theorem not_mem_of_ascii_lowercaseAfter (h : Ascii (lowercaseAfter before a)) : 'Σ' ∉ a := by
  induction a generalizing before with
  | nil => exact List.not_mem_nil
  | cons c cs ih =>
    rw [lowercaseAfter] at h
    obtain ⟨hhead, htail⟩ := ascii_append.mp h
    intro hmem
    rcases List.mem_cons.mp hmem with rfl | hmem
    · have := hhead (lowercaseSigma before cs) (by simp)
      rw [isAscii_lowercaseSigma] at this
      exact Bool.false_ne_true this
    · exact ih htail hmem

/-- An ASCII text is lowercased letter by letter. -/
theorem lowercase_of_ascii (h : Ascii a) : lowercase a = a.map asciiLower := by
  have hsigma : 'Σ' ∉ a := fun hmem => absurd (h _ hmem) (by decide)
  rw [lowercase_of_not_mem hsigma]
  induction a with
  | nil => rfl
  | cons c cs ih =>
    obtain ⟨hc, hcs⟩ := ascii_cons.mp h
    have hsigma' : 'Σ' ∉ cs := fun hmem => hsigma (List.mem_cons_of_mem _ hmem)
    rw [List.flatMap_cons, List.map_cons, ih hcs hsigma', lowercaseChar, if_pos hc]
    rfl

theorem ascii_lowercase (h : Ascii a) : Ascii (lowercase a) := by
  rw [lowercase_of_ascii h]
  exact ascii_map_asciiLower h

end ModelineAssist.Text
