import ModelineAssist.Proofs.Settings.Reading

/-!
What a value means for a setting. A switch is on or off by a boolean, a number or one of eight
words, and a choice is made by its name, as a text or as the only key of a table; words and names
count in any case. A value that means nothing for its setting is what loading fails for, and four
values that mean something make settings.
-/
namespace ModelineAssist.Settings
open Text Matching

/-- A value turns a switch on or off. -/
inductive Switches : Value → Bool → Prop
  | bool {origin b} : Switches (.leaf origin (.bool b)) b
  | number {origin nonzero} : Switches (.leaf origin (.number nonzero)) nonzero
  | on {origin s} : lowercaseString s ∈ ["1", "true", "on", "yes"] →
      Switches (.leaf origin (.text s)) true
  | off {origin s} : lowercaseString s ∈ ["0", "false", "off", "no"] →
      Switches (.leaf origin (.text s)) false

/-- A value names a choice, by a text or as the only key of a table. -/
inductive Chooses {α : Type} (nameOf : α → String) : Value → α → Prop
  | text {origin s a} : lowercaseString s = lowercaseString (nameOf a) →
      Chooses nameOf (.leaf origin (.text s)) a
  | table {key below a} : lowercaseString key = lowercaseString (nameOf a) →
      Chooses nameOf (.table [(key, below)]) a

/-- What a value means for a setting. -/
def Setting.Means : (k : Setting) → Value → k.Choice → Prop
  | .completions, v, c => Switches v c
  | .hover, v, c => Switches v c
  | .strategy, v, c => Chooses Strategy.name v c
  | .rule, v, c => Chooses CaseRule.name v c

variable {v : Value} {b : Bool} {k : Setting} {c : k.Choice} {m : Misfit}

/-! ### One setting -/

theorem switch_eq_ok_iff {key : String} : switch key v = .ok b ↔ Switches v b := by
  constructor
  · intro h
    cases v with
    | table => cases h
    | leaf origin content =>
      cases content with
      | bool => cases h; exact .bool
      | number => cases h; exact .number
      | null | array => cases h
      | text s =>
        rw [switch] at h
        split at h
        · rename_i hon
          cases h
          exact .on hon
        split at h
        · rename_i hoff
          cases h
          exact .off hoff
        · cases h
  · rintro (_ | _ | hon | hoff)
    · rfl
    · rfl
    · have hon' : lowercaseString _ ∈ wordsOn := hon
      rw [switch, if_pos hon']
    · -- No word is for both.
      have hnot : ∀ word ∈ wordsOff, word ∉ wordsOn := by decide
      have hoff' : lowercaseString _ ∈ wordsOff := hoff
      rw [switch, if_neg (hnot _ hoff), if_pos hoff']

section
variable {α : Type} {nameOf : α → String} {choices : List α} {kind name : String} {a : α}

theorem choiceNamed_eq_ok_iff (all : ∀ a, a ∈ choices)
    (apart : ∀ a b, lowercaseString (nameOf a) = lowercaseString (nameOf b) → a = b) :
    choiceNamed kind nameOf choices name = .ok a ↔
      lowercaseString name = lowercaseString (nameOf a) := by
  unfold choiceNamed
  constructor
  · intro h
    split at h
    · rename_i a' hfind
      cases h
      have hname := List.find?_some hfind
      exact (beq_iff_eq.mp hname).symm
    · cases h
  · intro h
    split
    · rename_i a' hfind
      have hname := List.find?_some hfind
      rw [apart a' a ((beq_iff_eq.mp hname).trans h)]
    · rename_i hfind
      exact absurd (beq_iff_eq.mpr h.symm) (List.find?_eq_none.mp hfind a (all a))

theorem choice_eq_ok_iff (all : ∀ a, a ∈ choices)
    (apart : ∀ a b, lowercaseString (nameOf a) = lowercaseString (nameOf b) → a = b) :
    choice kind nameOf choices v = .ok a ↔ Chooses nameOf v a := by
  constructor
  · intro h
    unfold choice at h
    split at h
    · exact .text ((choiceNamed_eq_ok_iff all apart).mp h)
    · exact .table ((choiceNamed_eq_ok_iff all apart).mp h)
    · cases h
  · rintro (hname | hname)
    · exact (choiceNamed_eq_ok_iff all apart).mpr hname
    · exact (choiceNamed_eq_ok_iff all apart).mpr hname

end

theorem strategy_apart (s t : Strategy) (h : lowercaseString s.name = lowercaseString t.name) :
    s = t := by
  cases s <;> cases t <;> first | rfl | exact absurd h (by decide)

theorem rule_apart (s t : CaseRule) (h : lowercaseString s.name = lowercaseString t.name) :
    s = t := by
  cases s <;> cases t <;> first | rfl | exact absurd h (by decide)

theorem read_eq_ok_iff : k.read v = .ok c ↔ k.Means v c := by
  cases k with
  | completions => exact switch_eq_ok_iff
  | hover => exact switch_eq_ok_iff
  | strategy => exact choice_eq_ok_iff (fun s => by cases s <;> decide) strategy_apart
  | rule => exact choice_eq_ok_iff (fun r => by cases r <;> decide) rule_apart

/-! ### All settings together -/

theorem bind_eq_error_iff {ε α β : Type} {x : Except ε α} {f : α → Except ε β} {e : ε} :
    (x >>= f) = .error e ↔ x = .error e ∨ ∃ a, x = .ok a ∧ f a = .error e := by
  cases x <;> simp [bind, Except.bind]

/-- Settings fail for one of them that cannot be read. -/
theorem exists_read_of_ofValue_eq_error (h : ofValue v = .error m) :
    ∃ k : Setting, k.read (valueOf k.key v) = .error m := by
  simp only [ofValue, bind_eq_error_iff, pure, Except.pure, reduceCtorEq, and_false, exists_false,
    or_false] at h
  obtain h | ⟨-, -, h | ⟨-, -, h | ⟨-, -, h⟩⟩⟩ := h
  · exact ⟨.completions, h⟩
  · exact ⟨.hover, h⟩
  · exact ⟨.strategy, h⟩
  · exact ⟨.rule, h⟩

/-- Four choices make settings. -/
theorem exists_of {means : (k : Setting) → k.Choice → Prop} (h : ∀ k, ∃ c, means k c) :
    ∃ s : Settings, ∀ k, means k (k.of s) := by
  obtain ⟨completions, hc⟩ := h .completions
  obtain ⟨hover, hh⟩ := h .hover
  obtain ⟨strategy, hs⟩ := h .strategy
  obtain ⟨rule, hr⟩ := h .rule
  refine ⟨⟨completions, hover, strategy, rule⟩, fun k => ?_⟩
  cases k <;> assumption

end ModelineAssist.Settings
