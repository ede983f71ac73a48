import ModelineAssist.Settings.Load

/-!
The four settings one by one. Each is read off the value under its key, and all of them together can
be read if and only if each can. A leaf counts as it is; of a table only the name in it counts, and
only if there is just one.
-/
namespace ModelineAssist.Settings
open Matching

variable {v w : Value} {s : Settings} {m : Misfit}

/-- The settings. -/
inductive Setting
  | completions
  | hover
  | strategy
  | rule
  deriving DecidableEq, Repr

/-- The key that a setting is found under. -/
def Setting.key : Setting → String
  | .completions => completionsKey
  | .hover => hoverKey
  | .strategy => strategyKey
  | .rule => ruleKey

/-- What a setting can be set to. -/
def Setting.Choice : Setting → Type
  | .completions | .hover => Bool
  | .strategy => Strategy
  | .rule => CaseRule

/-- What a value sets a setting to. -/
def Setting.read : (k : Setting) → Value → Except Misfit k.Choice
  | .completions, v => switch completionsKey v
  | .hover, v => switch hoverKey v
  | .strategy, v => strategyOf v
  | .rule, v => ruleOf v

/-- What a setting is set to. -/
def Setting.of : (k : Setting) → Settings → k.Choice
  | .completions, s => s.completions
  | .hover, s => s.hover
  | .strategy, s => s.strategy
  | .rule, s => s.rule

/-- Two settings have different keys. -/
theorem Setting.key_injective : Function.Injective Setting.key := by
  intro k l h
  cases k <;> cases l <;>
    first | rfl | simp [key, completionsKey, hoverKey, strategyKey, ruleKey] at h

theorem bind_eq_ok_iff {ε α β : Type} {x : Except ε α} {f : α → Except ε β} {b : β} :
    (x >>= f) = .ok b ↔ ∃ a, x = .ok a ∧ f a = .ok b := by
  cases x <;> simp [bind, Except.bind]

/-- Settings can be read if and only if each of them can. -/
theorem ofValue_eq_ok_iff :
    ofValue v = .ok s ↔ ∀ k : Setting, k.read (valueOf k.key v) = .ok (k.of s) := by
  simp only [ofValue, bind_eq_ok_iff, pure, Except.pure, Except.ok.injEq]
  constructor
  · rintro ⟨c, hc, h, hh, st, hs, r, hr, rfl⟩ k
    cases k <;> assumption
  · intro h
    exact ⟨_, h .completions, _, h .hover, _, h .strategy, _, h .rule, rfl⟩

/-- Settings are read alike where each of them is. -/
theorem ofValue_congr (h : ∀ k : Setting, k.read (valueOf k.key v) = k.read (valueOf k.key w)) :
    ofValue v = ofValue w := by
  have hc : switch completionsKey (valueOf completionsKey v) =
    switch completionsKey (valueOf completionsKey w) := h .completions
  have hh : switch hoverKey (valueOf hoverKey v) = switch hoverKey (valueOf hoverKey w) := h .hover
  have hs : strategyOf (valueOf strategyKey v) = strategyOf (valueOf strategyKey w) := h .strategy
  have hr : ruleOf (valueOf ruleKey v) = ruleOf (valueOf ruleKey w) := h .rule
  simp only [ofValue, hc, hh, hs, hr]

/-- One setting that cannot be read is enough for none to be. -/
theorem exists_ofValue_eq_error {k : Setting} (h : k.read (valueOf k.key v) = .error m) :
    ∃ m', ofValue v = .error m' := by
  cases ho : ofValue v with
  | error m' => exact ⟨m', rfl⟩
  | ok s =>
    have := ofValue_eq_ok_iff.mp ho k
    rw [h] at this
    cases this

/-! ### What can be read -/

/-- What can be read is a leaf other than an array, or a table of one name. -/
theorem cases_of_read {k : Setting} {c : k.Choice} (h : k.read v = .ok c) :
    (∃ origin content, v = .leaf origin content ∧ content ≠ .array) ∨
      ∃ name below, v = .table [(name, below)] := by
  cases v with
  | leaf origin content =>
    refine .inl ⟨origin, content, rfl, fun harray => ?_⟩
    subst harray
    cases k <;> cases h
  | table ms =>
    match ms with
    | [(name, below)] => exact .inr ⟨name, below, rfl⟩
    | [] => cases k <;> cases h
    | _ :: _ :: _ => cases k <;> cases h

/-- Of a table of one name only the name counts. -/
theorem read_table_single (k : Setting) (name : String) (below below' : Value) :
    k.read (.table [(name, below)]) = k.read (.table [(name, below')]) := by
  cases k <;> rfl

/-- A table of more than one name cannot be read. -/
theorem exists_read_eq_error (k : Setting) {ms : List (String × Value)} (h : 2 ≤ ms.length) :
    ∃ m, k.read (.table ms) = .error m := by
  match ms with
  | [] => simp at h
  | [_] => simp at h
  | _ :: _ :: _ => cases k <;> exact ⟨_, rfl⟩

end ModelineAssist.Settings
