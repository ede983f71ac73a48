import ModelineAssist.Proofs.Matching.Narrowing
import ModelineAssist.Proofs.Text.Sigma

/-!
What disregarding case keeps of the labels that are accepted with case counted. The smart rule keeps
all of them, at the front and within labels. With case ignored, label and typed text are lowercased
each as a whole, and a label is lost where it turns a sigma of the typed text: at the front exactly
where the typed text ends a word in a capital sigma and the label goes on with that word, and within
a label where that happens at either end of the typed text.
-/
namespace ModelineAssist.Matching
open Text

variable {label typed : List Char} {rule : CaseRule} {strategy : Strategy}

/-- At the front and within a label, a text is accepted if it occurs, both as the case rule wants
them. -/
theorem accepts_iff_occurs (hs : strategy ≠ .scattered) :
    Policy.accepts ⟨strategy, rule⟩ label typed = true ↔
      strategy.Occurs (rule.plain typed typed) (rule.plain typed label) := by
  have hempty (h : typed.isEmpty = true) :
      strategy.Occurs (rule.plain typed typed) (rule.plain typed label) := by
    obtain rfl := List.isEmpty_iff.mp h
    rw [plain_nil]
    exact occurs_nil _ _
  cases strategy with
  | scattered => exact absurd rfl hs
  | front =>
    simp only [Policy.accepts, Bool.or_eq_true, List.isPrefixOf_iff_prefix]
    exact or_iff_right_of_imp hempty
  | within =>
    simp only [Policy.accepts, Bool.or_eq_true, holds_iff_infix]
    exact or_iff_right_of_imp hempty

/-- With case counted, a text is accepted if it occurs as it stands. -/
theorem accepts_respect_iff (hs : strategy ≠ .scattered) :
    Policy.accepts ⟨strategy, .respect⟩ label typed = true ↔ strategy.Occurs typed label :=
  accepts_iff_occurs hs

/-- With case ignored, a text is accepted if it occurs, both lowercased. -/
theorem accepts_ignore_iff (hs : strategy ≠ .scattered) :
    Policy.accepts ⟨strategy, .ignore⟩ label typed = true ↔
      strategy.Occurs (lowercase typed) (lowercase label) :=
  accepts_iff_occurs hs

/-! ### What is kept -/

/-- A text that occurs as it stands also occurs lowercased if it has no sigma. -/
theorem occurs_lowercase (hs : strategy ≠ .scattered) (hsigma : 'Σ' ∉ typed)
    (h : strategy.Occurs typed label) : strategy.Occurs (lowercase typed) (lowercase label) := by
  cases strategy with
  | scattered => exact absurd rfl hs
  | front =>
    obtain ⟨rest, rfl⟩ := h
    refine lowercase_isPrefix_iff.mpr fun ⟨hends, hrest⟩ => ?_
    have hkept : ¬ Turns [] rest typed := not_turns_of_not_mem hsigma
    exact hkept (.inl ⟨hends, hrest⟩)
  | within =>
    obtain ⟨before, after, rfl⟩ := h
    exact lowercase_isInfix (not_turns_of_not_mem hsigma)

theorem isUppercase_sigma : isUppercase 'Σ' = true := by decide +kernel

/-- The smart rule does not disregard case where a sigma has been typed. -/
theorem not_mem_of_ignoresCaseOf (h : CaseRule.smart.ignoresCaseOf typed = true) :
    'Σ' ∉ typed := fun hmem => by
  rw [CaseRule.ignoresCaseOf, Bool.not_eq_true'] at h
  exact List.any_eq_false.mp h 'Σ' hmem isUppercase_sigma

/-- The smart rule keeps what is accepted with case counted. -/
theorem accepts_smart_of_occurs (hs : strategy ≠ .scattered) (h : strategy.Occurs typed label) :
    Policy.accepts ⟨strategy, .smart⟩ label typed = true := by
  rw [accepts_iff_occurs hs]
  simp only [CaseRule.plain]
  split
  · rename_i hcase
    exact occurs_lowercase hs (not_mem_of_ignoresCaseOf hcase) h
  · exact h

theorem accepts_front_ignore_iff (typed rest : List Char) :
    Policy.accepts ⟨.front, .ignore⟩ (typed ++ rest) typed = true ↔
      ¬ (EndsInSigma typed ∧ startsCased rest = true) := by
  rw [accepts_ignore_iff (by decide)]
  exact lowercase_isPrefix_iff

/-! ### What is lost -/

/-- Ignoring case keeps every label that a text is accepted at the front of unless the text ends a
word in a capital sigma. -/
theorem keeps_front_iff (typed : List Char) :
    (∀ label, Policy.accepts ⟨.front, .respect⟩ label typed = true →
      Policy.accepts ⟨.front, .ignore⟩ label typed = true) ↔ ¬ EndsInSigma typed := by
  constructor
  · intro h hends
    have hfront : Policy.accepts ⟨.front, .respect⟩ (typed ++ ['a']) typed = true :=
      (accepts_respect_iff (by decide)).mpr (List.prefix_append _ _)
    exact (accepts_front_ignore_iff typed ['a']).mp (h _ hfront) ⟨hends, startsCased_a⟩
  · intro h label hfront
    obtain ⟨rest, rfl⟩ := (accepts_respect_iff (by decide)).mp hfront
    exact (accepts_front_ignore_iff typed rest).mpr fun hlost => h hlost.1

/-- Ignoring case keeps every label that a text is accepted within unless the text ends a word in a
capital sigma, or starts with one that ends a word where letters stand in front. -/
theorem keeps_within_iff (typed : List Char) :
    (∀ label, Policy.accepts ⟨.within, .respect⟩ label typed = true →
      Policy.accepts ⟨.within, .ignore⟩ label typed = true) ↔
      ¬ EndsInSigma typed ∧ ¬ StartsInSigma typed [] := by
  have hwithin : Strategy.within ≠ .scattered := by decide
  simp only [accepts_respect_iff hwithin, accepts_ignore_iff hwithin, Strategy.Occurs]
  constructor
  · intro h
    refine ⟨fun hends => ?_, fun hstarts => ?_⟩
    · exact not_isInfix_append_of_endsInSigma hends (h _ (List.prefix_append _ _).isInfix)
    · exact not_isInfix_cons_of_startsInSigma hstarts (h _ (List.suffix_cons _ _).isInfix)
  · rintro ⟨hends, hstarts⟩ label ⟨before, after, rfl⟩
    refine lowercase_isInfix ?_
    rintro (⟨h, -⟩ | ⟨h, -⟩)
    · exact hends h
    · exact hstarts h.nil

/-- What is accepted with case counted stays accepted under the smart rule, and with case ignored if
no capital sigma has been typed. So the front of a label is accepted for the label, except that with
case ignored it is not where it ends a word in a capital sigma and the word goes on. Within a label,
a text is accepted with case ignored wherever its surroundings do not turn one of its sigmas. The
texts that never lose a label so are those without a sigma that can be turned: at the front by what
comes behind, within a label also by what stands before. -/
theorem keeps_accepted (label typed : List Char) :
    (∀ strategy, strategy ≠ .scattered →
      Policy.accepts ⟨strategy, .respect⟩ label typed = true →
        Policy.accepts ⟨strategy, .smart⟩ label typed = true ∧
          ('Σ' ∉ typed → Policy.accepts ⟨strategy, .ignore⟩ label typed = true)) ∧
    (∀ rest, Policy.accepts ⟨.front, .respect⟩ (typed ++ rest) typed = true ∧
      Policy.accepts ⟨.front, .smart⟩ (typed ++ rest) typed = true ∧
      (Policy.accepts ⟨.front, .ignore⟩ (typed ++ rest) typed = true ↔
        ¬ (EndsInSigma typed ∧ startsCased rest = true))) ∧
    (∀ before after, ¬ Turns before.reverse after typed →
      Policy.accepts ⟨.within, .ignore⟩ (before ++ typed ++ after) typed = true) ∧
    ((∀ label, Policy.accepts ⟨.front, .respect⟩ label typed = true →
      Policy.accepts ⟨.front, .ignore⟩ label typed = true) ↔ ¬ EndsInSigma typed) ∧
    ((∀ label, Policy.accepts ⟨.within, .respect⟩ label typed = true →
      Policy.accepts ⟨.within, .ignore⟩ label typed = true) ↔
        ¬ EndsInSigma typed ∧ ¬ StartsInSigma typed []) := by
  refine ⟨fun strategy hs h => ?_, fun rest => ?_, fun before after h => ?_,
    keeps_front_iff typed, keeps_within_iff typed⟩
  · have hoccurs := (accepts_respect_iff hs).mp h
    refine ⟨accepts_smart_of_occurs hs hoccurs, fun hsigma => ?_⟩
    exact (accepts_ignore_iff hs).mpr (occurs_lowercase hs hsigma hoccurs)
  · have hfront : typed <+: typed ++ rest := List.prefix_append _ _
    refine ⟨(accepts_respect_iff (by decide)).mpr hfront, ?_, accepts_front_ignore_iff typed rest⟩
    exact accepts_smart_of_occurs (by decide) hfront
  · exact (accepts_ignore_iff (by decide)).mpr (lowercase_isInfix h)

/-- A word in capitals that ends in a sigma. -/
def street : List Char := "ΟΔΟΣ".toList

/-- The word is accepted within a label where it is a word too, and at its front under the smart
rule, also where the label goes on with it; its small letters are accepted with case ignored. -/
theorem keeps_accepted_street :
    Policy.accepts ⟨.within, .ignore⟩ ("Η ".toList ++ street ++ "!".toList) street = true ∧
    Policy.accepts ⟨.front, .smart⟩ (street ++ "ΗΜΑ".toList) street = true ∧
    Policy.accepts ⟨.front, .ignore⟩ "οδοσημα".toList "οδοσ".toList = true := by
  have kept : ¬ Turns "Η ".toList.reverse "!".toList street := by
    rintro (⟨-, h⟩ | ⟨-, h⟩)
    · exact absurd h (by decide +kernel)
    · exact absurd h (by decide +kernel)
  have accepted : Policy.accepts ⟨.front, .respect⟩ "οδοσημα".toList "οδοσ".toList = true := by
    decide +kernel
  obtain ⟨-, fronts, withins, -⟩ := keeps_accepted [] street
  refine ⟨withins _ _ kept, (fronts _).2.1, ?_⟩
  exact ((keeps_accepted _ _).1 .front (by decide) accepted).2 (by decide)

/-- A label that starts with the word and goes on with it is accepted with case counted and refused
with case ignored, and so is a label that a single sigma ends. -/
theorem ignore_loses_street :
    (Policy.accepts ⟨.front, .respect⟩ "ΟΔΟΣΗΜΑ".toList street = true ∧
      Policy.accepts ⟨.front, .ignore⟩ "ΟΔΟΣΗΜΑ".toList street = false) ∧
    (Policy.accepts ⟨.within, .respect⟩ street "Σ".toList = true ∧
      Policy.accepts ⟨.within, .ignore⟩ street "Σ".toList = false) := by
  decide +kernel

end ModelineAssist.Matching
