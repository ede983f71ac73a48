import ModelineAssist.Proofs.Matching.Disregard
import ModelineAssist.Proofs.Matching.SmartCase
import ModelineAssist.Proofs.Registry.Lookup

/-!
Policies that accept more than others. What stands at the front of a label stands within it, and
what stands within it has its letters scattered over it in their order. That is so for the words of
an ASCII text as well, whatever spaces and backslashes lie between them and whichever rule a word
decides for by itself. For scattered letters, the case rules accept the more the less case counts.
-/
namespace ModelineAssist.Matching
open Text Registry

variable {label typed text : List Char} {rule : CaseRule}

/-! ### Strategies -/

theorem accepts_within_of_front (h : Policy.accepts ⟨.front, rule⟩ label typed = true) :
    Policy.accepts ⟨.within, rule⟩ label typed = true := by
  have hfront : Strategy.front.Occurs (rule.plain typed typed) (rule.plain typed label) :=
    (accepts_iff_occurs (by decide)).mp h
  exact (accepts_iff_occurs (by decide)).mpr (List.IsPrefix.isInfix hfront)

/-- The words of an ASCII text fit an ASCII label that the whole text is scattered over. -/
theorem accepts_of_occurs_scattered (hl : Ascii label) (ht : Ascii typed)
    (h : Strategy.scattered.Occurs (rule.plain typed typed) (rule.plain typed label)) :
    Policy.accepts ⟨.scattered, rule⟩ label typed = true := by
  rw [accepts_scattered_iff]
  intro w hw
  have hword : w.Sublist typed := sublist_of_mem_wordTexts hw
  have hunescaped : Strategy.scattered.Occurs (unescape w) typed :=
    (unescape_sublist w).trans hword
  refine (fits_ofTyped hl).mpr ⟨?_, occurs_plain_of_occurs hl hunescaped h⟩
  intro c hc
  exact ht c (hword.subset hc)

theorem accepts_scattered_of_within (hl : Ascii label) (ht : Ascii typed)
    (h : Policy.accepts ⟨.within, rule⟩ label typed = true) :
    Policy.accepts ⟨.scattered, rule⟩ label typed = true := by
  have hwithin : Strategy.within.Occurs (rule.plain typed typed) (rule.plain typed label) :=
    (accepts_iff_occurs (by decide)).mp h
  exact accepts_of_occurs_scattered hl ht (List.IsInfix.sublist hwithin)

/-! ### Case rules -/

/-- With case ignored, a word fits every ASCII label that it fits under another rule. -/
theorem fits_ignore_of_fits (hl : Ascii label) (h : Fits label rule text) :
    Fits label .ignore text := by
  obtain ⟨ha, hsub⟩ := (fits_ofTyped hl).mp h
  refine (fits_ofTyped hl).mpr ⟨ha, ?_⟩
  unfold CaseRule.plain at hsub
  split at hsub
  · exact hsub
  · -- Case counts for the word: its letters occur as they stand, so their small letters do too.
    have hoccurs : Strategy.scattered.Occurs (unescape text) label := hsub
    exact occurs_lowercase_of_ascii hoccurs (ascii_lowercase hl)

theorem accepts_ignore_of_accepts (hl : Ascii label)
    (h : Policy.accepts ⟨.scattered, rule⟩ label typed = true) :
    Policy.accepts ⟨.scattered, .ignore⟩ label typed = true := by
  rw [accepts_scattered_iff] at h ⊢
  intro w hw
  exact fits_ignore_of_fits hl (h w hw)

/-- The known options that a policy offers are offered by one that accepts more, in the same order.
-/
theorem candidatesFor_permissive (typed : String) (rule : CaseRule) :
    (Ascii typed.toList →
      (builtin.candidatesFor ⟨.front, rule⟩ typed).Sublist
        (builtin.candidatesFor ⟨.within, rule⟩ typed) ∧
      (builtin.candidatesFor ⟨.within, rule⟩ typed).Sublist
        (builtin.candidatesFor ⟨.scattered, rule⟩ typed)) ∧
    (builtin.candidatesFor ⟨.scattered, .respect⟩ typed).Sublist
      (builtin.candidatesFor ⟨.scattered, .smart⟩ typed) ∧
    (builtin.candidatesFor ⟨.scattered, .smart⟩ typed).Sublist
      (builtin.candidatesFor ⟨.scattered, .ignore⟩ typed) := by
  refine ⟨fun ht => ⟨?_, ?_⟩, ?_, ?_⟩
  · exact candidatesFor_sublist fun c hc h => accepts_within_of_front h
  · exact candidatesFor_sublist fun c hc h =>
      accepts_scattered_of_within (ascii_builtin_label hc) ht h
  · exact candidatesFor_sublist fun c hc h => accepts_smart_of_respect h
  · exact candidatesFor_sublist fun c hc h =>
      accepts_ignore_of_accepts (ascii_builtin_label hc) h

/-- For an ASCII label, an ASCII text that is accepted at the front is accepted within the label,
and one that is accepted within it is accepted scattered, all under the same case rule. And any text
that is accepted scattered with case counted is accepted under the smart rule, and what is accepted
under that rule is accepted with case ignored. -/
theorem accepts_permissive (hl : Ascii label) (typed : List Char) :
    (Ascii typed → ∀ rule,
      (Policy.accepts ⟨.front, rule⟩ label typed = true →
        Policy.accepts ⟨.within, rule⟩ label typed = true) ∧
      (Policy.accepts ⟨.within, rule⟩ label typed = true →
        Policy.accepts ⟨.scattered, rule⟩ label typed = true)) ∧
    (Policy.accepts ⟨.scattered, .respect⟩ label typed = true →
      Policy.accepts ⟨.scattered, .smart⟩ label typed = true) ∧
    (Policy.accepts ⟨.scattered, .smart⟩ label typed = true →
      Policy.accepts ⟨.scattered, .ignore⟩ label typed = true) := by
  refine ⟨fun ht rule => ⟨?_, ?_⟩, ?_, ?_⟩
  · intro h
    exact accepts_within_of_front h
  · intro h
    exact accepts_scattered_of_within hl ht h
  · intro h
    exact accepts_smart_of_respect h
  · intro h
    exact accepts_ignore_of_accepts hl h

/-- A label with capital letters, and with a backslash in front of a space. -/
def escapedLabel : List Char := "Add a\\ B".toList

/-- What it starts with stands within it, and what stands within it has its words scattered over it,
also one with an escaped space. Words that are found with case counted are found under the smart
rule, each by its own choice, and with case ignored. -/
theorem accepts_permissive_escapedLabel :
    Policy.accepts ⟨.within, .smart⟩ escapedLabel "Add a".toList = true ∧
    Policy.accepts ⟨.scattered, .smart⟩ escapedLabel "d a\\ B".toList = true ∧
    Policy.accepts ⟨.scattered, .smart⟩ escapedLabel "B d".toList = true ∧
    Policy.accepts ⟨.scattered, .ignore⟩ escapedLabel "B ab".toList = true := by
  have label : Ascii escapedLabel := by decide
  obtain ⟨fronts, -⟩ := accepts_permissive label "Add a".toList
  obtain ⟨withins, -⟩ := accepts_permissive label "d a\\ B".toList
  obtain ⟨-, counted, -⟩ := accepts_permissive label "B d".toList
  obtain ⟨-, -, smart⟩ := accepts_permissive label "B ab".toList
  refine ⟨?_, ?_, counted rfl, smart rfl⟩
  · exact (fronts (by decide) .smart).1 (by decide)
  · exact (withins (by decide) .smart).2 (by decide)

end ModelineAssist.Matching
