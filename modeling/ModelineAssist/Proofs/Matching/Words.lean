import ModelineAssist.Proofs.Matching.SmartCase
import ModelineAssist.Proofs.Modeline.Cut

/-!
Words of a text whose letters may lie scattered. A text without spaces is one word, and its letters
mean themselves: they have to occur in an ASCII label in their order, and nothing else counts. A
space that does not follow a backslash separates words, and a label has to fit all of them. So their
order, how often each is typed and how many spaces stand around them make no difference.
-/
namespace ModelineAssist.Matching
open Text Modeline

variable {label typed text f g : List Char} {rule : CaseRule} {escaped : Bool}
  {ws ws' : List (List Char)}

/-! ### One word -/

theorem plain_of_ignoresCaseOf (ht : Ascii text) (h : rule.ignoresCaseOf typed = true) :
    rule.plain typed text = text.map asciiLower := by
  rw [CaseRule.plain, if_pos h, lowercase_of_ascii ht]

theorem plain_of_not_ignoresCaseOf (h : rule.ignoresCaseOf typed = false) :
    rule.plain typed text = text := by
  rw [CaseRule.plain, h]
  rfl

/-- The smart rule disregards case for an ASCII text that has no capital letter. -/
theorem ignoresCaseOf_smart_iff (ha : Ascii typed) : CaseRule.smart.ignoresCaseOf typed = true ↔
    ∀ c ∈ typed, ¬ ('A' ≤ c ∧ c ≤ 'Z') := by
  rw [CaseRule.ignoresCaseOf, any_isUppercase_of_ascii ha, Bool.not_eq_true', List.any_eq_false]
  simp [isAsciiUpper]

/-- Without spaces, what has been typed is accepted if it is ASCII and occurs scattered. -/
theorem accepts_scattered_one_iff (hl : Ascii label) (hs : ' ' ∉ typed) :
    Policy.accepts ⟨.scattered, rule⟩ label typed = true ↔
      Ascii typed ∧ (rule.plain typed typed).Sublist (rule.plain typed label) := by
  rw [accepts_iff hl hs]
  simp [Strategy.Occurs]

/-- Where case is disregarded, small letters are compared. -/
theorem accepts_of_ignoresCaseOf (hl : Ascii label) (hs : ' ' ∉ typed) (ha : Ascii typed)
    (h : rule.ignoresCaseOf typed = true) :
    Policy.accepts ⟨.scattered, rule⟩ label typed = true ↔
      (typed.map asciiLower).Sublist (label.map asciiLower) := by
  rw [accepts_scattered_one_iff hl hs, and_iff_right ha, plain_of_ignoresCaseOf ha h,
    plain_of_ignoresCaseOf hl h]

/-- Where case counts, letters are compared as they stand. -/
theorem accepts_of_not_ignoresCaseOf (hl : Ascii label) (hs : ' ' ∉ typed) (ha : Ascii typed)
    (h : rule.ignoresCaseOf typed = false) :
    Policy.accepts ⟨.scattered, rule⟩ label typed = true ↔ typed.Sublist label := by
  rw [accepts_scattered_one_iff hl hs, and_iff_right ha, plain_of_not_ignoresCaseOf h,
    plain_of_not_ignoresCaseOf h]

/-- What is being typed in a modeline is one word. -/
theorem space_not_mem_of_typedNameAt {line : List Char} {column : Nat} {name : TypedName}
    (h : typedNameAt line column = some name) : ' ' ∉ name.text := by
  obtain ⟨k, -, -, -, rfl⟩ := Cut.typedNameAt_eq_some_iff.mp h
  intro hmem
  exact absurd (k.before_solid ' ' hmem) (by decide)

/-- An ASCII text without spaces, such as every name that is being typed in a modeline, is accepted
for an ASCII label exactly if its characters, whichever they are, occur in the label in their order:
as they stand where case counts, and as small letters where it does not. The smart rule counts case
if one of them is a capital letter. A text with another character than ASCII is not accepted. -/
theorem scattered_literally (hl : Ascii label) (hs : ' ' ∉ typed) :
    (Ascii typed →
      (Policy.accepts ⟨.scattered, .respect⟩ label typed = true ↔ typed.Sublist label) ∧
      (Policy.accepts ⟨.scattered, .ignore⟩ label typed = true ↔
        (typed.map asciiLower).Sublist (label.map asciiLower)) ∧
      ((∃ c ∈ typed, 'A' ≤ c ∧ c ≤ 'Z') →
        (Policy.accepts ⟨.scattered, .smart⟩ label typed = true ↔ typed.Sublist label)) ∧
      ((∀ c ∈ typed, ¬ ('A' ≤ c ∧ c ≤ 'Z')) →
        (Policy.accepts ⟨.scattered, .smart⟩ label typed = true ↔
          (typed.map asciiLower).Sublist (label.map asciiLower)))) ∧
    (¬ Ascii typed → ∀ rule, Policy.accepts ⟨.scattered, rule⟩ label typed = false) ∧
    ∀ line column name, typedNameAt line column = some name → ' ' ∉ name.text := by
  refine ⟨fun ha => ⟨?_, ?_, fun hcapital => ?_, fun hnone => ?_⟩, fun ha rule => ?_, ?_⟩
  · exact accepts_of_not_ignoresCaseOf hl hs ha rfl
  · exact accepts_of_ignoresCaseOf hl hs ha rfl
  · refine accepts_of_not_ignoresCaseOf hl hs ha (Bool.eq_false_iff.mpr fun h => ?_)
    obtain ⟨c, hc, hupper⟩ := hcapital
    exact (ignoresCaseOf_smart_iff ha).mp h c hc hupper
  · exact accepts_of_ignoresCaseOf hl hs ha ((ignoresCaseOf_smart_iff ha).mpr hnone)
  · rw [Bool.eq_false_iff]
    intro h
    exact ha ((accepts_scattered_one_iff hl hs).mp h).1
  · intro line column name h
    exact space_not_mem_of_typedNameAt h

/-- A label with characters that have a meaning in queries. -/
def operatorLabel : List Char := "re^so$urce's\\!".toList

/-- They stand for themselves. A capital letter is found where case does not count, and makes the
smart rule count it. A letter beyond ASCII is not found. -/
theorem scattered_literally_operators :
    Policy.accepts ⟨.scattered, .respect⟩ operatorLabel "^$'\\!".toList = true ∧
    Policy.accepts ⟨.scattered, .ignore⟩ operatorLabel "E^$".toList = true ∧
    Policy.accepts ⟨.scattered, .smart⟩ operatorLabel "E^$".toList = false ∧
    Policy.accepts ⟨.scattered, .smart⟩ operatorLabel "e^$".toList = true ∧
    Policy.accepts ⟨.scattered, .ignore⟩ operatorLabel "é".toList = false := by
  have label : Ascii operatorLabel := by decide
  obtain ⟨signs, -, -⟩ := @scattered_literally operatorLabel "^$'\\!".toList label (by decide)
  obtain ⟨small, -, -⟩ := @scattered_literally operatorLabel "e^$".toList label (by decide)
  obtain ⟨capital, -, -⟩ := @scattered_literally operatorLabel "E^$".toList label (by decide)
  obtain ⟨-, beyond, -⟩ := @scattered_literally operatorLabel "é".toList label (by decide)
  obtain ⟨-, ignore, smart, -⟩ := capital (by decide)
  obtain ⟨-, -, -, smart'⟩ := small (by decide)
  have noCapital := (ignoresCaseOf_smart_iff (show Ascii "e^$".toList by decide)).mp rfl
  refine ⟨(signs (by decide)).1.mpr (by decide), ignore.mpr (by decide), ?_,
    (smart' noCapital).mpr (by decide), beyond (by decide) .ignore⟩
  rw [Bool.eq_false_iff]
  intro h
  exact absurd ((smart ⟨'E', by decide, by decide⟩).mp h) (by decide)

/-! ### Words side by side -/

/-- Ends in a backslash, by which a space behind the text belongs to its last word. -/
def EndsEscaped (text : List Char) : Prop := text.getLast? = some '\\'

instance (text : List Char) : Decidable (EndsEscaped text) :=
  inferInstanceAs (Decidable (text.getLast? = some '\\'))

theorem splitWords_ne_nil (escaped : Bool) (text : List Char) : splitWords escaped text ≠ [] := by
  cases text with
  | nil => simp [splitWords]
  | cons c cs =>
    rw [splitWords]
    split
    · simp
    · cases splitWords (c == '\\') cs <;> simp [consWord]

theorem consWord_append (c : Char) (h : ws ≠ []) :
    consWord c (ws ++ ws') = consWord c ws ++ ws' := by
  cases ws with
  | nil => exact absurd rfl h
  | cons w ws => rfl

/-- A space separates words unless a backslash stands in front of it: the last character of what
comes before it or, if that is empty, the one that was read before. -/
theorem splitWords_append_space (hf : ¬ EndsEscaped f) (hnil : f = [] → escaped = false) :
    splitWords escaped (f ++ ' ' :: g) = splitWords escaped f ++ splitWords false g := by
  induction f generalizing escaped with
  | nil =>
    obtain rfl := hnil rfl
    simp [splitWords]
  | cons c cs ih =>
    have hcs : ¬ EndsEscaped cs := by
      intro h
      rw [EndsEscaped] at hf h
      rw [List.getLast?_cons, h] at hf
      exact hf rfl
    have hc : cs = [] → (c == '\\') = false := by
      rintro rfl
      rw [beq_eq_false_iff_ne]
      rintro rfl
      exact hf rfl
    rw [List.cons_append, splitWords, splitWords]
    split
    · rename_i hspace
      have hstate : cs = [] → false = false := fun _ => rfl
      rw [ih hcs hstate, List.cons_append]
    · rw [ih hcs hc, consWord_append c (splitWords_ne_nil _ _)]

/-- The words on both sides of a space are those of the two sides. -/
theorem wordTexts_append_space (hf : ¬ EndsEscaped f) :
    wordTexts (f ++ ' ' :: g) = wordTexts f ++ wordTexts g := by
  rw [wordTexts, splitWords_append_space hf fun _ => rfl, List.filter_append]
  rfl

theorem accepts_append_space_iff (hf : ¬ EndsEscaped f) :
    Policy.accepts ⟨.scattered, rule⟩ label (f ++ ' ' :: g) = true ↔
      Policy.accepts ⟨.scattered, rule⟩ label f = true ∧
        Policy.accepts ⟨.scattered, rule⟩ label g = true := by
  simp only [accepts_scattered_iff, wordTexts_append_space hf]
  exact List.forall_mem_append

/-- Texts with a space between any two of them are accepted together if each is by itself. -/
theorem accepts_intercalate_iff (h : ∀ w ∈ ws.dropLast, ¬ EndsEscaped w) :
    Policy.accepts ⟨.scattered, rule⟩ label ([' '].intercalate ws) = true ↔
      ∀ w ∈ ws, Policy.accepts ⟨.scattered, rule⟩ label w = true := by
  induction ws with
  | nil => simp [Policy.accepts]
  | cons w ws ih =>
    cases ws with
    | nil => simp
    | cons v vs =>
      rw [List.dropLast_cons_cons, List.forall_mem_cons] at h
      rw [List.intercalate_cons_cons, List.append_assoc, List.singleton_append,
        accepts_append_space_iff h.1, ih h.2]
      simp only [List.forall_mem_cons]

/-- The empty texts among others ask for nothing. -/
theorem forall_accepts_iff_of_ne_nil {policy : Policy} :
    (∀ w ∈ ws, policy.accepts label w = true) ↔
      ∀ w, w ≠ [] → w ∈ ws → policy.accepts label w = true := by
  constructor
  · intro h w _ hw
    exact h w hw
  · intro h w hw
    by_cases hne : w = []
    · subst hne
      rfl
    · exact h w hne hw

/-- A space that follows no backslash asks for what stands on both its sides. So texts between such
spaces are accepted in any order and as often as they are typed, and more spaces in front of them,
behind them or between them, which stand around empty texts, make no difference. Only the last text
may end in a backslash. -/
theorem scattered_words (label : List Char) (rule : CaseRule) :
    (∀ f g, ¬ EndsEscaped f →
      (Policy.accepts ⟨.scattered, rule⟩ label (f ++ ' ' :: g) = true ↔
        Policy.accepts ⟨.scattered, rule⟩ label f = true ∧
          Policy.accepts ⟨.scattered, rule⟩ label g = true)) ∧
    ∀ ws ws' : List (List Char), (∀ w ∈ ws.dropLast, ¬ EndsEscaped w) →
      (∀ w ∈ ws'.dropLast, ¬ EndsEscaped w) → (∀ w, w ≠ [] → (w ∈ ws ↔ w ∈ ws')) →
        Policy.accepts ⟨.scattered, rule⟩ label ([' '].intercalate ws) =
          Policy.accepts ⟨.scattered, rule⟩ label ([' '].intercalate ws') := by
  refine ⟨fun f g hf => accepts_append_space_iff hf, fun ws ws' h h' hsame => ?_⟩
  rw [Bool.eq_iff_iff, accepts_intercalate_iff h, accepts_intercalate_iff h',
    forall_accepts_iff_of_ne_nil, forall_accepts_iff_of_ne_nil]
  refine forall_congr' fun w => forall_congr' fun hne => ?_
  rw [hsame w hne]

/-- A label beyond ASCII fits three words with an escaped space in one of them if it fits each; and
then also in another order, with spaces around them and one of them typed twice. -/
theorem scattered_words_escaped :
    Policy.accepts ⟨.scattered, .smart⟩ "über a b".toList "a\\ b Ü".toList = false ∧
    Policy.accepts ⟨.scattered, .ignore⟩ "über a b".toList "a\\ b Ü".toList = true ∧
    Policy.accepts ⟨.scattered, .ignore⟩ "über a b".toList " Ü  a\\ b Ü ".toList = true := by
  obtain ⟨counted, -⟩ := scattered_words "über a b".toList .smart
  obtain ⟨ignored, rearranged⟩ := scattered_words "über a b".toList .ignore
  have both : Policy.accepts ⟨.scattered, .ignore⟩ "über a b".toList "a\\ b Ü".toList = true :=
    (ignored "a\\ b".toList "Ü".toList (by decide)).mpr (by decide +kernel)
  refine ⟨?_, both, ?_⟩
  · rw [Bool.eq_false_iff]
    intro h
    exact absurd ((counted "a\\ b".toList "Ü".toList (by decide)).mp h).2 (by decide +kernel)
  · rw [← both]
    refine rearranged [[], ['Ü'], [], "a\\ b".toList, ['Ü'], []] ["a\\ b".toList, ['Ü']]
      (by decide) (by decide) fun w hw => ?_
    simp only [List.mem_cons, List.not_mem_nil, hw, false_or, or_false]
    grind

end ModelineAssist.Matching
