import Mathlib.Data.List.Flatten
import Mathlib.Data.List.Infix
import ModelineAssist.Matching.Policy
import ModelineAssist.Proofs.Text.Lowercase

/-!
Typing on narrows the choice: what a policy accepts for a longer text it accepts for the front of
that text as well, and for all that occurs in the text in the way of the policy. This holds for
ASCII labels and texts without spaces, under every policy, even though a capital letter may turn the
case rule and a character beyond ASCII may change how words are compared.

Under these conditions the three strategies are one: the typed text, compared as the case rule wants
it, has to occur in the label as its front, as a part of it, or scattered over it.
-/
namespace ModelineAssist.Matching
open Text

variable {strategy : Strategy} {rule : CaseRule} {p : Policy} {a b label typed : List Char}

/-- The way in which a strategy looks for a text in a label. -/
def Strategy.Occurs : Strategy → List Char → List Char → Prop
  | .front, a, label => a <+: label
  | .within, a, label => a <:+: label
  | .scattered, a, label => a.Sublist label

theorem occurs_nil (strategy : Strategy) (label : List Char) : strategy.Occurs [] label := by
  cases strategy with
  | front => exact List.nil_prefix
  | within => exact List.nil_infix
  | scattered => exact List.nil_sublist label

theorem occurs_of_isPrefix (strategy : Strategy) (h : a <+: b) : strategy.Occurs a b := by
  cases strategy with
  | front => exact h
  | within => exact h.isInfix
  | scattered => exact h.sublist

theorem occurs_trans (hab : strategy.Occurs a b) (h : strategy.Occurs b label) :
    strategy.Occurs a label := by
  cases strategy with
  | front => exact List.IsPrefix.trans hab h
  | within => exact List.IsInfix.trans hab h
  | scattered => exact List.Sublist.trans hab h

theorem occurs_flatMap (f : Char → List Char) (h : strategy.Occurs a b) :
    strategy.Occurs (a.flatMap f) (b.flatMap f) := by
  cases strategy with
  | front => exact List.IsPrefix.flatMap h f
  | within => exact List.IsInfix.flatMap h f
  | scattered => exact List.Sublist.flatMap h f

theorem subset_of_occurs (h : strategy.Occurs a b) : a ⊆ b := by
  cases strategy with
  | front => exact List.IsPrefix.subset h
  | within => exact List.IsInfix.subset h
  | scattered => exact List.Sublist.subset h

/-- Only ASCII occurs in an ASCII label. -/
theorem ascii_of_occurs (h : strategy.Occurs a label) (hl : Ascii label) : Ascii a := by
  intro c hc
  exact hl c (subset_of_occurs h hc)

/-! ### Comparing under a case rule -/

/-- A text as it is compared with others when something has been typed. -/
def CaseRule.plain (rule : CaseRule) (typed text : List Char) : List Char :=
  if rule.ignoresCaseOf typed then lowercase text else text

/-- Nothing typed is nothing under every case rule. -/
theorem plain_nil (rule : CaseRule) (typed : List Char) : rule.plain typed [] = [] := by
  unfold CaseRule.plain
  split
  · rfl
  · rfl

/-- If case is disregarded for a text, it is for all that consists of its characters. -/
theorem ignoresCaseOf_of_subset (hab : a ⊆ b) (h : rule.ignoresCaseOf b = true) :
    rule.ignoresCaseOf a = true := by
  cases rule with
  | ignore => rfl
  | smart =>
    simp only [CaseRule.ignoresCaseOf, Bool.not_eq_true', List.any_eq_false] at h ⊢
    intro c hc
    exact h c (hab hc)
  | respect => exact absurd h (by simp [CaseRule.ignoresCaseOf])

/-- What occurs in a text occurs there lowercased if the lowercase of the text is ASCII. -/
theorem occurs_lowercase_of_ascii (h : strategy.Occurs a b) (hb : Ascii (lowercase b)) :
    strategy.Occurs (lowercase a) (lowercase b) := by
  have hsigma : 'Σ' ∉ b := not_mem_of_ascii_lowercaseAfter hb
  have hpart : 'Σ' ∉ a := fun hmem => hsigma (subset_of_occurs h hmem)
  rw [lowercase_of_not_mem hsigma, lowercase_of_not_mem hpart]
  exact occurs_flatMap lowercaseChar h

/-- What occurs in a text that occurs in an ASCII label occurs in the label too, each compared as
the case rule wants it for itself. -/
theorem occurs_plain_of_occurs (hl : Ascii label) (hab : strategy.Occurs a b)
    (h : strategy.Occurs (rule.plain b b) (rule.plain b label)) :
    strategy.Occurs (rule.plain a a) (rule.plain a label) := by
  by_cases hb : rule.ignoresCaseOf b = true
  · -- Case does not matter for the whole text, nor for the part.
    have ha : rule.ignoresCaseOf a = true := ignoresCaseOf_of_subset (subset_of_occurs hab) hb
    simp only [CaseRule.plain, if_pos hb, if_pos ha] at h ⊢
    exact occurs_trans (occurs_lowercase_of_ascii hab (ascii_of_occurs h (ascii_lowercase hl))) h
  · simp only [CaseRule.plain, if_neg hb] at h ⊢
    have ha : strategy.Occurs a label := occurs_trans hab h
    split
    · -- The capital letter by which case matters lies outside the part.
      exact occurs_lowercase_of_ascii ha (ascii_lowercase hl)
    · exact ha

/-! ### The three strategies -/

theorem holds_iff_infix : holds a label = true ↔ a <:+: label := by
  induction label with
  | nil => simp [holds]
  | cons c cs ih =>
    simp only [holds, Bool.or_eq_true, List.isPrefixOf_iff_prefix, ih, List.infix_cons_iff]

theorem splitWords_of_not_mem (escaped : Bool) (h : ' ' ∉ a) : splitWords escaped a = [a] := by
  induction a generalizing escaped with
  | nil => rfl
  | cons c cs ih =>
    have hc : ¬ (c = ' ' ∧ escaped = false) := fun hc => h (hc.1 ▸ List.mem_cons_self)
    rw [splitWords, if_neg hc, ih _ fun hmem => h (List.mem_cons_of_mem _ hmem)]
    rfl

theorem unescape_of_not_mem (h : ' ' ∉ a) : unescape a = a := by
  fun_induction unescape a with
  | case1 => rfl
  | case2 cs ih => exact absurd (List.mem_cons_of_mem _ List.mem_cons_self) h
  | case3 c cs _ ih => rw [ih fun hmem => h (List.mem_cons_of_mem _ hmem)]

/-- Without spaces there is one word at most. -/
theorem words_of_not_mem (hne : typed ≠ []) (hs : ' ' ∉ typed) :
    words rule typed = [Word.ofTyped rule typed] := by
  rw [words, splitWords_of_not_mem false hs]
  simp [hne]

/-- A label of ASCII characters counts as such. -/
theorem ofText_of_ascii (hl : Ascii label) : Label.ofText label = ⟨label, true⟩ := by
  have hall : label.all isAscii = true := all_isAscii.mpr hl
  simp [Label.ofText, hall]

/-- The capital letters that an ASCII word looks for are those that the case rule looks for. -/
theorem any_isUppercase_of_ascii (ha : Ascii a) : a.any isUppercase = a.any isAsciiUpper := by
  induction a with
  | nil => rfl
  | cons c cs ih =>
    obtain ⟨hc, hcs⟩ := ascii_cons.mp ha
    rw [List.any_cons, List.any_cons, isUppercase_of_isAscii hc, ih hcs]

/-- A text without capital letters is its own lowercase. -/
theorem map_asciiLower_of_any_eq_false (h : a.any isAsciiUpper = false) :
    a.map asciiLower = a := by
  induction a with
  | nil => rfl
  | cons c cs ih =>
    rw [List.any_cons, Bool.or_eq_false_iff] at h
    rw [List.map_cons, ih h.2, asciiLower, h.1]
    rfl

/-- An ASCII word folds labels if the case rule disregards case. -/
theorem folding_ofAscii (ha : Ascii a) : (Word.ofAscii rule a).folding = rule.ignoresCaseOf a := by
  cases rule with
  | smart => simp [Word.ofAscii, CaseRule.ignoresCaseOf, any_isUppercase_of_ascii ha]
  | ignore | respect => rfl

/-- The letters of an ASCII word are the text as the case rule wants it. -/
theorem letters_ofAscii (ha : Ascii a) : (Word.ofAscii rule a).letters = rule.plain a a := by
  cases rule with
  | ignore => exact (lowercase_of_ascii ha).symm
  | respect => rfl
  | smart =>
    show a = CaseRule.plain .smart a a
    unfold CaseRule.plain
    split
    · rename_i h
      rw [CaseRule.ignoresCaseOf, any_isUppercase_of_ascii ha, Bool.not_eq_true'] at h
      rw [lowercase_of_ascii ha, map_asciiLower_of_any_eq_false h]
    · rfl

theorem ascii_ofAscii : (Word.ofAscii rule a).ascii = true := by
  cases rule <;> rfl

theorem ascii_ofUnicode : (Word.ofUnicode rule a).ascii = false := by
  cases rule <;> rfl

/-- An ASCII word fits an ASCII label if it is scattered over the label. -/
theorem fits_ofAscii (hl : Ascii label) (ha : Ascii a) :
    (Word.ofAscii rule a).fits (Label.ofText label) = true ↔
      (rule.plain a a).Sublist (rule.plain a label) := by
  have hlabel : label.map (fun c => if rule.ignoresCaseOf a then asciiLower c else c) =
      rule.plain a label := by
    unfold CaseRule.plain
    split
    · exact (lowercase_of_ascii hl).symm
    · exact List.map_id' label
  rw [ofText_of_ascii hl, Word.fits, if_pos rfl, ascii_ofAscii, Bool.true_and, letters_ofAscii ha,
    folding_ofAscii ha, hlabel, List.isSublist_iff_sublist]

/-- A word with characters beyond ASCII fits no ASCII label. -/
theorem fits_ofUnicode (hl : Ascii label) :
    (Word.ofUnicode rule a).fits (Label.ofText label) = false := by
  rw [ofText_of_ascii hl, Word.fits, if_pos rfl, ascii_ofUnicode, Bool.false_and]

/-- `unescape` takes nothing but backslashes out of a text. -/
theorem unescape_sublist (a : List Char) : (unescape a).Sublist a := by
  fun_induction unescape a with
  | case1 => exact List.Sublist.refl _
  | case2 cs ih => exact (ih.cons_cons ' ').cons '\\'
  | case3 c cs _ ih => exact ih.cons_cons c

/-- A word fits an ASCII label if it is ASCII and what it stands for is scattered over the label. -/
theorem fits_ofTyped (hl : Ascii label) : (Word.ofTyped rule a).fits (Label.ofText label) = true ↔
    Ascii a ∧ (rule.plain (unescape a) (unescape a)).Sublist (rule.plain (unescape a) label) := by
  rw [Word.ofTyped]
  by_cases ha : Ascii a
  · have hunescaped : Ascii (unescape a) := fun c hc => ha c ((unescape_sublist a).subset hc)
    rw [if_pos (all_isAscii.mpr ha), fits_ofAscii hl hunescaped, and_iff_right ha]
  · rw [if_neg (mt all_isAscii.mp ha), fits_ofUnicode hl]
    simp [ha]

/-- Whether an ASCII label is accepted. Only scattered letters have to be ASCII themselves. -/
theorem accepts_iff (hl : Ascii label) (hs : ' ' ∉ typed) : p.accepts label typed = true ↔
    (p.strategy = .scattered → Ascii typed) ∧
      p.strategy.Occurs (p.rule.plain typed typed) (p.rule.plain typed label) := by
  by_cases hne : typed = []
  · subst hne
    simp [Policy.accepts, plain_nil, occurs_nil, Ascii]
  · obtain ⟨strategy, rule⟩ := p
    have hempty : typed.isEmpty = false := List.isEmpty_eq_false_iff.mpr hne
    simp only [Policy.accepts, hempty, Bool.false_or]
    cases strategy with
    | front => simp [Strategy.Occurs, CaseRule.plain]
    | within => simp [Strategy.Occurs, CaseRule.plain, holds_iff_infix]
    | scattered =>
      simp only [scattered, words_of_not_mem hne hs, List.all_cons, List.all_nil, Bool.and_true,
        fits_ofTyped hl, unescape_of_not_mem hs, Strategy.Occurs, true_implies]

/-- An ASCII label that is accepted for a text is accepted for what occurs in the text. -/
theorem accepts_of_occurs (hl : Ascii label) (hs : ' ' ∉ b) (hab : p.strategy.Occurs a b)
    (h : p.accepts label b = true) : p.accepts label a = true := by
  have hsa : ' ' ∉ a := fun hmem => hs (subset_of_occurs hab hmem)
  obtain ⟨hascii, hoccurs⟩ := (accepts_iff hl hs).mp h
  refine (accepts_iff hl hsa).mpr ⟨fun hp => ?_, occurs_plain_of_occurs hl hab hoccurs⟩
  exact ascii_of_occurs hab (hascii hp)

/-- Typing on narrows the choice: an ASCII label that is accepted for a text is accepted for the
front of the text. -/
theorem accepts_of_append (hl : Ascii label) (hs : ' ' ∉ a ++ b)
    (h : p.accepts label (a ++ b) = true) : p.accepts label a = true :=
  accepts_of_occurs hl hs (occurs_of_isPrefix p.strategy (List.prefix_append a b)) h

end ModelineAssist.Matching
