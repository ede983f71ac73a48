import Mathlib.Data.List.Forall2
import ModelineAssist.Json.Record

/-!
What the readings of values and of records accept. A field is read off an object by its name,
wherever that stands, and off an array by its place; so what a record makes of a value depends on
the values of its fields alone, and what it accepts can be said without the reading.
-/
namespace ModelineAssist

/-- The values of fields of some names: by name in an object, in order in an array that has just as
many values. -/
def Json.fields? (names : List String) : Json → Option (List (Option Json))
  | .object ms => some (names.map (member? · ms))
  | .array vs => if vs.length = names.length then some (vs.map some) else none
  | _ => none

/-- A value that may be left out or be null, and else has to be as it is wanted. -/
def IfGiven (wanted : Json → Prop) (v : Option Json) : Prop :=
  ∀ w, v = some w → w = .null ∨ wanted w

/-! ### Values -/

namespace Reading

variable {α : Type} {read : Reading α} {j : Json}

@[simp] theorem string_eq_some_iff {s : String} : string j = some s ↔ j = .string s := by
  cases j <;> simp [string, Json.string?]

theorem intFrom_eq_some_iff {low high n : Int} :
    intFrom low high j = some n ↔ (low ≤ n ∧ n ≤ high) ∧ j = .int n := by
  cases j with
  | int m =>
    simp only [intFrom, Option.ite_none_right_eq_some, Option.some.injEq, Json.int.injEq]
    constructor <;> rintro ⟨h, rfl⟩ <;> exact ⟨h, rfl⟩
  | _ => simp [intFrom]

@[simp] theorem uint32_eq_some_iff {n : UInt32} : uint32 j = some n ↔ j = .int n.toNat := by
  simp only [uint32, Option.map_eq_some_iff, intFrom_eq_some_iff]
  constructor
  · rintro ⟨m, ⟨⟨hlow, hhigh⟩, rfl⟩, rfl⟩
    obtain ⟨k, rfl⟩ := Int.eq_ofNat_of_zero_le hlow
    have hk : k < UInt32.size := by omega
    exact congrArg (fun n : Nat => Json.int n) (UInt32.toNat_ofNat_of_lt hk).symm
  · rintro rfl
    have hn : n.toNat < UInt32.size := n.toNat_lt_size
    exact ⟨n.toNat, ⟨⟨by omega, by omega⟩, rfl⟩, by simp⟩

@[simp] theorem word_eq_some_iff {words : List String} {s : String} :
    word words j = some s ↔ s ∈ words ∧ j = .string s := by
  simp only [word, Option.bind_eq_some_iff, string_eq_some_iff, List.contains_iff_mem,
    Option.ite_none_right_eq_some, Option.some.injEq]
  constructor
  · rintro ⟨_, rfl, h, rfl⟩
    exact ⟨h, rfl⟩
  · rintro ⟨h, rfl⟩
    exact ⟨s, rfl, h, rfl⟩

theorem mapM_eq_some_iff {items : List Json} {as : List α} :
    items.mapM read = some as ↔ List.Forall₂ (fun v a => read v = some a) items as := by
  induction items generalizing as with
  | nil => cases as <;> simp
  | cons v items ih =>
    cases as with
    | nil => simp [List.mapM_cons, Option.bind_eq_some_iff]
    | cons a as => simp [List.mapM_cons, Option.bind_eq_some_iff, ih]

theorem list_eq_some_iff {as : List α} : list read j = some as ↔
    ∃ items, j = .array items ∧ List.Forall₂ (fun v a => read v = some a) items as := by
  cases j <;> simp [list, mapM_eq_some_iff]

theorem exists_either_iff {first second : Reading α} :
    (∃ a, either first second j = some a) ↔
      (∃ a, first j = some a) ∨ ∃ a, second j = some a := by
  unfold either
  cases first j <;> simp

@[simp] theorem seen_eq_some_iff {u : Unit} : seen read j = some u ↔ ∃ a, read j = some a := by
  simp [seen]

end Reading

namespace Record

variable {α β : Type} {ms : List (String × Json)} {name : String} {names : List String}
  {read : Reading α} {x : Record α} {take : Option Json → Option α} {r : Record β}
  {make : List (Option Json) → Option β} {j : Json}

/-! ### One field -/

/-- What is read first is passed on, with the fields that are left. -/
theorem bind_of_eq {fields rest : Fields} {value : Option α} (h : x fields = value.map (·, rest))
    (f : α → Record β) : (x >>= f) fields = value.bind fun a => f a rest := by
  show (x fields).bind (fun r => f r.1 r.2) = _
  rw [h]
  cases value <;> rfl

theorem pure_eq_some_iff {fields rest : Fields} {b c : β} :
    (pure b : Record β) fields = some (c, rest) ↔ fields = rest ∧ b = c := by
  show some (b, fields) = some (c, rest) ↔ _
  simp [and_comm]

/-- A reading of the field of one name, by what it makes of the value. -/
structure ReadsField (x : Record α) (name : String) (take : Option Json → Option α) : Prop where
  named : ∀ ms, x (.named ms) = (take (member? name ms)).map (·, .named ms)
  next : ∀ v vs, x (.inOrder (v :: vs)) = (take (some v)).map (·, .inOrder vs)
  nil : x (.inOrder []) = none

theorem readsField_field (name : String) (read : Reading α) :
    ReadsField (field name read) name (·.bind read) where
  named ms := by
    have hnext : next? name (.named ms) = (some (member? name ms)).map (·, .named ms) := rfl
    rw [field, bind_of_eq hnext]
    cases member? name ms <;> rfl
  next _ _ := rfl
  nil := rfl

theorem fieldOr_named (name : String) (read : Reading α) (missing : α) (ms : List (String × Json)) :
    fieldOr name read missing (.named ms) =
      ((member? name ms).elim (some missing) read).map (·, .named ms) := by
  have hnext : next? name (.named ms) = (some (member? name ms)).map (·, .named ms) := rfl
  rw [fieldOr, bind_of_eq hnext]
  cases member? name ms <;> rfl

theorem readsField_optional (name : String) (read : Reading α) :
    ReadsField (optional name read) name (·.elim (some none) (orNull read)) where
  named := fieldOr_named name (orNull read) none
  next _ _ := rfl
  nil := rfl

theorem field_bind_named (name : String) (read : Reading α) (f : α → Record β) :
    (field name read >>= f) (.named ms) =
      ((member? name ms).bind read).bind fun a => f a (.named ms) :=
  bind_of_eq ((readsField_field name read).named ms) f

theorem fieldOr_bind_named (name : String) (read : Reading α) (missing : α) (f : α → Record β) :
    (fieldOr name read missing >>= f) (.named ms) =
      ((member? name ms).elim (some missing) read).bind fun a => f a (.named ms) :=
  bind_of_eq (fieldOr_named name read missing ms) f

theorem optional_bind_named (name : String) (read : Reading α) (f : Option α → Record β) :
    (optional name read >>= f) (.named ms) =
      ((member? name ms).elim (some none) (orNull read)).bind fun a => f a (.named ms) :=
  bind_of_eq ((readsField_optional name read).named ms) f

theorem field_bind_inOrder (name : String) (read : Reading α) (f : α → Record β) (v : Json)
    (vs : List Json) :
    (field name read >>= f) (.inOrder (v :: vs)) = (read v).bind fun a => f a (.inOrder vs) :=
  bind_of_eq ((readsField_field name read).next v vs) f

theorem fieldOr_bind_inOrder (name : String) (read : Reading α) (missing : α) (f : α → Record β)
    (v : Json) (vs : List Json) : (fieldOr name read missing >>= f) (.inOrder (v :: vs)) =
      (read v).bind fun a => f a (.inOrder vs) := by
  have h : fieldOr name read missing (.inOrder (v :: vs)) = (read v).map (·, .inOrder vs) := rfl
  exact bind_of_eq h f

theorem fieldOr_bind_inOrder_nil (name : String) (read : Reading α) (missing : α)
    (f : α → Record β) :
    (fieldOr name read missing >>= f) (.inOrder []) = f missing (.inOrder []) := rfl

/-- Null is read as nothing, and so is what cannot be read. -/
theorem eq_read_of_orNull {read : Reading α} (hnull : read .null = none) {v : Json} {r : Option α}
    (h : orNull read v = some r) : r = read v := by
  unfold orNull at h
  split at h
  · rw [hnull, Option.some.inj h]
  · obtain ⟨a, ha, rfl⟩ := Option.map_eq_some_iff.mp h
    exact ha.symm

theorem eq_bind_of_elim {read : Reading α} (hnull : read .null = none) {v : Option Json}
    {r : Option α} (h : v.elim (some none) (orNull read) = some r) : r = v.bind read := by
  cases v with
  | none => exact (Option.some.inj h).symm
  | some v => exact eq_read_of_orNull hnull h

theorem exists_elim_orNull_iff {wanted : Json → Prop} {v : Option Json}
    (h : ∀ w, (∃ a, read w = some a) ↔ wanted w) :
    (∃ a, v.elim (some none) (orNull read) = some a) ↔ IfGiven wanted v := by
  cases v with
  | none => simp [IfGiven]
  | some w =>
    simp only [IfGiven, Option.elim_some, Option.some.injEq, forall_eq', ← h]
    cases w <;> simp [orNull]

/-! ### All fields of a record -/

/-- A reading of fields of some names, one after another, by what it makes of their values. -/
structure Reads (r : Record β) (names : List String) (make : List (Option Json) → Option β) :
    Prop where
  named : ∀ ms, r (.named ms) = (make (names.map (member? · ms))).map (·, .named ms)
  inOrder : ∀ vs rest, vs.length = names.length →
    r (.inOrder (vs ++ rest)) = (make (vs.map some)).map (·, .inOrder rest)
  short : ∀ vs, vs.length < names.length → r (.inOrder vs) = none

/-- Makes something of no values. -/
def finish (b : β) : List (Option Json) → Option β
  | [] => some b
  | _ => none

/-- Makes something of the first value, and with that of the values after it. -/
def takeThen (take : Option Json → Option α) (next : α → List (Option Json) → Option β) :
    List (Option Json) → Option β
  | v :: vs => (take v).bind (next · vs)
  | [] => none

@[simp] theorem finish_eq_some_iff {b c : β} {vs : List (Option Json)} :
    finish b vs = some c ↔ vs = [] ∧ b = c := by
  cases vs <;> simp [finish]

@[simp] theorem takeThen_eq_some_iff {next : α → List (Option Json) → Option β}
    {vs : List (Option Json)} {b : β} : takeThen take next vs = some b ↔
      ∃ v rest, vs = v :: rest ∧ ∃ a, take v = some a ∧ next a rest = some b := by
  cases vs <;> simp [takeThen, Option.bind_eq_some_iff]

theorem Reads.pure (b : β) : Reads (Pure.pure b) [] (finish b) where
  named _ := rfl
  inOrder vs rest h := by
    obtain rfl := List.length_eq_zero_iff.mp h
    rfl
  short _ h := absurd h (Nat.not_lt_zero _)

/-- A field is read in front of others. -/
theorem ReadsField.bind {f : α → Record β} {next : α → List (Option Json) → Option β}
    (hx : ReadsField x name take) (h : ∀ a, Reads (f a) names (next a)) :
    Reads (x >>= f) (name :: names) (takeThen take next) where
  named ms := by
    rw [bind_of_eq (hx.named ms)]
    simp only [(h _).named, List.map_cons, takeThen, Option.map_bind, Function.comp_def]
  inOrder vs rest hlen := by
    cases vs with
    | nil => simp at hlen
    | cons v vs =>
      rw [List.cons_append, bind_of_eq (hx.next v _)]
      simp only [(h _).inOrder vs rest (Nat.succ.inj hlen), List.map_cons, takeThen,
        Option.map_bind, Function.comp_def]
  short vs hlen := by
    cases vs with
    | nil =>
      have hnil : x (.inOrder []) = (none : Option α).map (·, .inOrder []) := hx.nil
      exact bind_of_eq hnil f
    | cons v vs =>
      rw [bind_of_eq (hx.next v vs)]
      simp only [(h _).short vs (Nat.lt_of_succ_lt_succ hlen), Option.bind_fun_none]

/-- A field by itself is a record. -/
theorem ReadsField.reads (hx : ReadsField x name take) : Reads x [name] (takeThen take finish) := by
  have h : Reads (x >>= Pure.pure) [name] (takeThen take finish) := hx.bind Reads.pure
  rwa [bind_pure] at h

/-- An array is accepted if nothing of it is left over. -/
theorem ofJson?_array_eq_some_iff {vs : List Json} {b : β} :
    ofJson? r (.array vs) = some b ↔ r (.inOrder vs) = some (b, .inOrder []) := by
  simp only [ofJson?]
  split <;> simp_all

theorem Reads.ofJson?_array (h : Reads r names make) (vs : List Json) :
    ofJson? r (.array vs) = if vs.length = names.length then make (vs.map some) else none := by
  rcases Nat.lt_trichotomy vs.length names.length with hlt | heq | hgt
  · simp [ofJson?, h.short vs hlt, Nat.ne_of_lt hlt]
  · have hr := h.inOrder vs [] heq
    rw [List.append_nil] at hr
    simp only [ofJson?, hr, heq, if_true]
    cases make (vs.map some) <;> rfl
  · -- The record leaves values over, which is not accepted.
    have hr := h.inOrder (vs.take names.length) (vs.drop names.length)
      (List.length_take_of_le (Nat.le_of_lt hgt))
    rw [List.take_append_drop] at hr
    have hrest : vs.drop names.length ≠ [] := by simpa using hgt
    simp only [ofJson?, hr, Nat.ne_of_gt hgt, if_false]
    cases make ((vs.take names.length).map some) <;> simp [hrest]

theorem Reads.ofObject?_eq (h : Reads r names make) (ms : List (String × Json)) :
    ofObject? r (.object ms) = make (names.map (member? · ms)) := by
  simp only [ofObject?, h.named, Option.map_map]
  cases make (names.map (member? · ms)) <;> rfl

/-- Where a field has to be there, it does not matter that only objects are read. -/
theorem Reads.ofObject?_eq_get? (h : Reads r names make)
    (hmake : make (names.map fun _ => none) = none) (j : Json) :
    ofObject? r j = make (names.map (j.get? ·)) := by
  cases j with
  | object ms => exact h.ofObject?_eq ms
  | _ => exact hmake.symm

/-- What a record makes of a value, it makes of the values of its fields. -/
theorem Reads.ofJson?_eq (h : Reads r names make) (j : Json) :
    ofJson? r j = (j.fields? names).bind make := by
  cases j with
  | object ms => exact h.ofObject?_eq ms
  | array vs =>
    rw [h.ofJson?_array, Json.fields?]
    split <;> rfl
  | _ => rfl

end Record

end ModelineAssist
