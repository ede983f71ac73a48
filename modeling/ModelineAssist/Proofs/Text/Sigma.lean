import ModelineAssist.Proofs.Text.Lowercase

/-!
The lowercase of a text that stands among others. Only a capital sigma looks at what stands around
it, so a text is lowercased among others as it is by itself, unless one of its sigmas is turned into
the other small sigma. That can happen at its ends alone: to a sigma that ends a word there, when
the word goes on behind, and to one that starts a word, when it turns out to end one that began
before.
-/
namespace ModelineAssist.Text

variable {a b before before' after after' x y : List Char}

/-- The lowercase of a text between what stands before it, read backwards, and after it. -/
def lowercaseBetween : List Char → List Char → List Char → List Char
  | _, _, [] => []
  | before, after, c :: cs =>
    (if c = 'Σ' then [lowercaseSigma before (cs ++ after)] else lowercaseChar c) ++
      lowercaseBetween (c :: before) after cs

/-! ### Lowercasing part by part -/

theorem lowercaseAfter_append_between : lowercaseAfter before (a ++ b) =
    lowercaseBetween before b a ++ lowercaseAfter (a.reverse ++ before) b := by
  induction a generalizing before with
  | nil => rfl
  | cons c cs ih => simp [lowercaseAfter, lowercaseBetween, ih]

theorem lowercaseBetween_nil (before a : List Char) :
    lowercaseBetween before [] a = lowercaseAfter before a := by
  have h : lowercaseAfter before (a ++ []) = lowercaseBetween before [] a ++ [] :=
    lowercaseAfter_append_between
  rwa [List.append_nil, List.append_nil, eq_comm] at h

theorem lowercaseBetween_append : lowercaseBetween before after (a ++ b) =
    lowercaseBetween before (b ++ after) a ++ lowercaseBetween (a.reverse ++ before) after b := by
  induction a generalizing before with
  | nil => rfl
  | cons c cs ih => simp [lowercaseBetween, ih]

/-- The lowercase of a text in three parts, the middle one between the other two. -/
theorem lowercase_append_append (before a after : List Char) :
    lowercase (before ++ a ++ after) = lowercaseBetween [] (a ++ after) before ++
      lowercaseBetween before.reverse after a ++
      lowercaseAfter (a.reverse ++ before.reverse) after := by
  rw [lowercase, List.append_assoc, lowercaseAfter_append_between, lowercaseAfter_append_between]
  simp

/-- A text has as many letters in lowercase whatever stands around it. -/
theorem length_lowercaseBetween (before before' after after' a : List Char) :
    (lowercaseBetween before after a).length = (lowercaseBetween before' after' a).length := by
  induction a generalizing before before' with
  | nil => rfl
  | cons c cs ih =>
    rw [lowercaseBetween, lowercaseBetween, List.length_append, List.length_append,
      ih (c :: before) (c :: before')]
    split <;> rfl

/-- Two surroundings make no difference to a text if they make none to its sigmas. -/
theorem lowercaseBetween_eq_iff :
    lowercaseBetween before after a = lowercaseBetween before' after' a ↔
      ∀ x y, a = x ++ 'Σ' :: y → lowercaseSigma (x.reverse ++ before) (y ++ after) =
        lowercaseSigma (x.reverse ++ before') (y ++ after') := by
  induction a generalizing before before' with
  | nil => simp [lowercaseBetween]
  | cons c cs ih =>
    rw [lowercaseBetween, lowercaseBetween]
    constructor
    · intro h x y heq
      obtain ⟨hhead, htail⟩ := List.append_inj h (by split <;> rfl)
      cases x with
      | nil =>
        obtain ⟨rfl, rfl⟩ := List.cons.inj heq
        simpa using hhead
      | cons d ds =>
        obtain ⟨rfl, rfl⟩ := List.cons.inj heq
        simpa using ih.mp htail ds y rfl
    · intro h
      have htail : lowercaseBetween (c :: before) after cs =
          lowercaseBetween (c :: before') after' cs :=
        ih.mpr fun x y heq => by simpa using h (c :: x) y (by rw [heq]; rfl)
      rw [htail]
      split
      · rename_i hc
        have hhead := h [] cs (by rw [hc]; rfl)
        simp only [List.reverse_nil, List.nil_append] at hhead
        rw [hhead]
      · rfl

/-- Without a sigma nothing that stands around a text makes a difference to it. -/
theorem lowercaseBetween_of_not_mem (h : 'Σ' ∉ a) :
    lowercaseBetween before after a = lowercaseBetween before' after' a :=
  lowercaseBetween_eq_iff.mpr fun x y heq => absurd (by simp [heq]) h

/-! ### Words that go on -/

/-- Consists of case-ignorable characters. -/
def CaseIgnorable (a : List Char) : Prop := ∀ c ∈ a, isCaseIgnorable c = true

theorem caseIgnorable_reverse : CaseIgnorable a.reverse ↔ CaseIgnorable a := by
  simp [CaseIgnorable]

theorem isCaseIgnorable_sigma : isCaseIgnorable 'Σ' = false := by decide +kernel

theorem CaseIgnorable.not_mem (h : CaseIgnorable a) : 'Σ' ∉ a := fun hmem => by
  have := h _ hmem
  rw [isCaseIgnorable_sigma] at this
  exact Bool.false_ne_true this

theorem startsCased_append_of_caseIgnorable (h : CaseIgnorable a) (b : List Char) :
    startsCased (a ++ b) = startsCased b := by
  rw [startsCased, List.dropWhile_append_of_pos h]
  rfl

theorem startsCased_of_caseIgnorable (h : CaseIgnorable a) : startsCased a = false := by
  rw [← List.append_nil a, startsCased_append_of_caseIgnorable h]
  rfl

theorem startsCased_append_of_not (h : ¬ CaseIgnorable a) (b : List Char) :
    startsCased (a ++ b) = startsCased a := by
  obtain ⟨c, cs, hdrop⟩ : ∃ c cs, a.dropWhile isCaseIgnorable = c :: cs := by
    refine List.exists_cons_of_ne_nil fun hnil => h fun c hc => ?_
    rw [← List.takeWhile_append_dropWhile (p := isCaseIgnorable) (l := a), hnil,
      List.append_nil] at hc
    exact List.all_eq_true.mp List.all_takeWhile c hc
  rw [startsCased, startsCased, List.dropWhile_append, hdrop]
  rfl

/-! ### Around a sigma -/

/-- What stands in front of a sigma does not see what stands behind the sigma. -/
theorem lowercaseBetween_sigma_append (y after x : List Char) :
    lowercaseBetween before ('Σ' :: (y ++ after)) x = lowercaseBetween before ('Σ' :: y) x := by
  refine lowercaseBetween_eq_iff.mpr fun x' y' _ => ?_
  have hnot : ¬ CaseIgnorable (y' ++ 'Σ' :: y) := fun h =>
    h.not_mem (List.mem_append_right _ List.mem_cons_self)
  have hcased := startsCased_append_of_not hnot after
  rw [List.append_assoc, List.cons_append] at hcased
  simp only [lowercaseSigma, hcased]

/-- What stands behind a sigma does not see what stands in front of the sigma. -/
theorem lowercaseBetween_append_sigma (x before y : List Char) :
    lowercaseBetween ('Σ' :: (x ++ before)) after y = lowercaseBetween ('Σ' :: x) after y := by
  refine lowercaseBetween_eq_iff.mpr fun x' y' _ => ?_
  have hnot : ¬ CaseIgnorable (x'.reverse ++ 'Σ' :: x) := fun h =>
    h.not_mem (List.mem_append_right _ List.mem_cons_self)
  have hcased := startsCased_append_of_not hnot before
  rw [List.append_assoc, List.cons_append] at hcased
  simp only [lowercaseSigma, hcased]

/-- A sigma parts a text: each of the parts is lowercased as if it ended there. -/
theorem lowercaseBetween_sigma : lowercaseBetween before after (x ++ 'Σ' :: y) =
    lowercaseBetween before ('Σ' :: y) x ++
      lowercaseSigma (x.reverse ++ before) (y ++ after) ::
        lowercaseBetween ('Σ' :: x.reverse) after y := by
  rw [lowercaseBetween_append, lowercaseBetween, if_pos rfl, List.cons_append,
    lowercaseBetween_sigma_append, lowercaseBetween_append_sigma]
  rfl

theorem lowercase_sigma (x y : List Char) : lowercase (x ++ 'Σ' :: y) =
    lowercaseBetween [] ('Σ' :: y) x ++
      lowercaseSigma x.reverse y :: lowercaseBetween ('Σ' :: x.reverse) [] y := by
  rw [lowercase, ← lowercaseBetween_nil, lowercaseBetween_sigma, List.append_nil, List.append_nil]

/-! ### Sigmas that are turned -/

/-- Ends, but for case-ignorable characters, in a capital sigma that ends a word. -/
def EndsInSigma (a : List Char) : Prop :=
  ∃ x y, a = x ++ 'Σ' :: y ∧ startsCased x.reverse = true ∧ CaseIgnorable y

/-- Starts, but for case-ignorable characters, with a capital sigma that no cased character comes
next to, neither in the text nor, if it is at its end too, in what stands after it. -/
def StartsInSigma (a after : List Char) : Prop :=
  ∃ x y, a = x ++ 'Σ' :: y ∧ CaseIgnorable x ∧ startsCased (y ++ after) = false

/-- What stands before a text, read backwards, or after it turns one of its sigmas into the other
small sigma: one that ends a word goes on after it, or one that starts a word ends one from before
it. -/
def Turns (before after a : List Char) : Prop :=
  EndsInSigma a ∧ startsCased after = true ∨ StartsInSigma a after ∧ startsCased before = true

/-- Whether a sigma is turned by what stands around the text that it is in. -/
theorem lowercaseSigma_ne_iff :
    lowercaseSigma (x.reverse ++ before) (y ++ after) ≠ lowercaseSigma x.reverse y ↔
      (startsCased x.reverse = true ∧ CaseIgnorable y) ∧ startsCased after = true ∨
        (CaseIgnorable x ∧ startsCased (y ++ after) = false) ∧ startsCased before = true := by
  -- Of the two sides of a sigma those go on outside the text that are case-ignorable within it.
  by_cases hx : CaseIgnorable x
  · have hx' := caseIgnorable_reverse.mpr hx
    simp only [lowercaseSigma, startsCased_append_of_caseIgnorable hx',
      startsCased_of_caseIgnorable hx']
    cases startsCased before <;> cases startsCased (y ++ after) <;> simp [hx]
  · have hx' := mt caseIgnorable_reverse.mp hx
    simp only [lowercaseSigma, startsCased_append_of_not hx']
    by_cases hy : CaseIgnorable y
    · simp only [startsCased_append_of_caseIgnorable hy, startsCased_of_caseIgnorable hy]
      cases startsCased x.reverse <;> cases startsCased after <;> simp [hx, hy]
    · simp only [startsCased_append_of_not hy]
      simp [hx, hy]

/-- A text is lowercased among others as it is by itself unless a sigma is turned. -/
theorem lowercaseBetween_eq_lowercase_iff :
    lowercaseBetween before after a = lowercase a ↔ ¬ Turns before after a := by
  rw [lowercase, ← lowercaseBetween_nil, lowercaseBetween_eq_iff]
  simp only [List.append_nil]
  constructor
  · rintro h (⟨⟨x, y, heq, hx, hy⟩, hafter⟩ | ⟨⟨x, y, heq, hx, hy⟩, hbefore⟩)
    · exact lowercaseSigma_ne_iff.mpr (.inl ⟨⟨hx, hy⟩, hafter⟩) (h x y heq)
    · exact lowercaseSigma_ne_iff.mpr (.inr ⟨⟨hx, hy⟩, hbefore⟩) (h x y heq)
  · intro h x y heq
    by_cases hne : lowercaseSigma (x.reverse ++ before) (y ++ after) = lowercaseSigma x.reverse y
    · exact hne
    · rcases lowercaseSigma_ne_iff.mp hne with ⟨⟨hx, hy⟩, hafter⟩ | ⟨⟨hx, hy⟩, hbefore⟩
      · exact absurd (.inl ⟨⟨x, y, heq, hx, hy⟩, hafter⟩) h
      · exact absurd (.inr ⟨⟨x, y, heq, hx, hy⟩, hbefore⟩) h

/-- What stands behind can only keep a sigma from ending a word. -/
theorem StartsInSigma.nil (h : StartsInSigma a after) : StartsInSigma a [] := by
  obtain ⟨x, y, heq, hx, hy⟩ := h
  refine ⟨x, y, heq, hx, ?_⟩
  rw [List.append_nil]
  by_cases hskip : CaseIgnorable y
  · exact startsCased_of_caseIgnorable hskip
  · rwa [startsCased_append_of_not hskip] at hy

/-- Nothing is turned in a text without a sigma. -/
theorem not_turns_of_not_mem (h : 'Σ' ∉ a) : ¬ Turns before after a := by
  rintro (⟨⟨x, y, rfl, -⟩, -⟩ | ⟨⟨x, y, rfl, -⟩, -⟩) <;> exact h (by simp)

/-! ### Lowercase parts of a lowercase text -/

/-- The lowercase of the front is the front of the lowercase unless its last sigma ends a word that
goes on. -/
theorem lowercase_isPrefix_iff :
    lowercase a <+: lowercase (a ++ b) ↔ ¬ (EndsInSigma a ∧ startsCased b = true) := by
  have hsplit : lowercase (a ++ b) =
      lowercaseBetween [] b a ++ lowercaseAfter (a.reverse ++ []) b := lowercaseAfter_append_between
  have hlength : (lowercaseBetween [] b a).length = (lowercase a).length := by
    rw [lowercase, ← lowercaseBetween_nil]
    exact length_lowercaseBetween [] [] b [] a
  have hturns : Turns [] b a ↔ EndsInSigma a ∧ startsCased b = true := by
    simp [Turns, startsCased]
  rw [← hturns, ← lowercaseBetween_eq_lowercase_iff, hsplit]
  constructor
  · rintro ⟨rest, hrest⟩
    exact (List.append_inj hrest hlength.symm).1.symm
  · intro h
    rw [h]
    exact List.prefix_append _ _

/-- The lowercase of a part is part of the lowercase if no sigma is turned. -/
theorem lowercase_isInfix (h : ¬ Turns before.reverse after a) :
    lowercase a <:+: lowercase (before ++ a ++ after) := by
  rw [lowercase_append_append, lowercaseBetween_eq_lowercase_iff.mpr h]
  exact List.infix_append _ _ _

/-- A text that holds a character more often than another is no part of it. -/
theorem not_isInfix_of_count_lt {c : Char} (h : b.count c < a.count c) : ¬ a <:+: b := fun hpart =>
  Nat.not_lt.mpr (hpart.sublist.count_le c) h

theorem startsCased_a : startsCased ['a'] = true := by decide +kernel

/-- A letter behind a sigma that ends a word turns the sigma, and no other sigma makes up for it. -/
theorem not_isInfix_append_of_endsInSigma (h : EndsInSigma a) :
    ¬ lowercase a <:+: lowercase (a ++ ['a']) := by
  obtain ⟨x, y, rfl, hx, hy⟩ := h
  have hown : lowercaseSigma x.reverse y = 'ς' := by
    simp [lowercaseSigma, hx, startsCased_of_caseIgnorable hy]
  have hturned : lowercaseSigma x.reverse (y ++ ['a']) = 'σ' := by
    simp [lowercaseSigma, startsCased_append_of_caseIgnorable hy, startsCased_a]
  have hlonger : lowercase (x ++ 'Σ' :: y ++ ['a']) = lowercaseBetween [] ('Σ' :: y) x ++
      'σ' :: lowercaseBetween ('Σ' :: x.reverse) [] y ++ ['a'] := by
    rw [lowercase, lowercaseAfter_append_between, lowercaseBetween_sigma, List.append_nil,
      hturned, lowercaseBetween_of_not_mem hy.not_mem]
    rfl
  refine not_isInfix_of_count_lt (c := 'ς') ?_
  rw [lowercase_sigma, hown, hlonger]
  simp

/-- A letter in front of a sigma that ends a word there turns the sigma, and no other sigma makes up
for it. -/
theorem not_isInfix_cons_of_startsInSigma (h : StartsInSigma a []) :
    ¬ lowercase a <:+: lowercase ('a' :: a) := by
  obtain ⟨x, y, rfl, hx, hy⟩ := h
  rw [List.append_nil] at hy
  have hx' := caseIgnorable_reverse.mpr hx
  have hown : lowercaseSigma x.reverse y = 'σ' := by
    simp [lowercaseSigma, startsCased_of_caseIgnorable hx']
  have hturned : lowercaseSigma (x.reverse ++ ['a']) y = 'ς' := by
    simp [lowercaseSigma, startsCased_append_of_caseIgnorable hx', startsCased_a, hy]
  have hlonger : lowercase ('a' :: (x ++ 'Σ' :: y)) = 'a' :: (lowercaseBetween [] ('Σ' :: y) x ++
      'ς' :: lowercaseBetween ('Σ' :: x.reverse) [] y) := by
    have hfront : lowercase ('a' :: (x ++ 'Σ' :: y)) =
        'a' :: lowercaseAfter ['a'] (x ++ 'Σ' :: y) := rfl
    rw [hfront, ← lowercaseBetween_nil, lowercaseBetween_sigma, List.append_nil, hturned,
      lowercaseBetween_of_not_mem hx.not_mem]
  refine not_isInfix_of_count_lt (c := 'σ') ?_
  rw [lowercase_sigma, hown, hlonger]
  simp

end ModelineAssist.Text
