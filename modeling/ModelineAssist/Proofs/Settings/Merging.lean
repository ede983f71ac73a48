import ModelineAssist.Settings.Merge

/-!
What laying settings over one another does to one key. Every entry of a file leads to one key at the
top, and what stands under a key afterwards depends on what stood there and on the entries that lead
to it, in their order. A leaf replaces what stood there; a table adds its names to those of what
stood there.
-/
namespace ModelineAssist.Settings

variable {key other : String} {v t : Value} {e : String × Value} {es : List (String × Value)}
  {p q : Option Value} {name : String} {ms : List (String × Value)}

/-! ### One entry -/

/-- What stands under a key when a value has been put there. -/
def settledBy : Value → Option Value → Value
  | .leaf origin content, _ => .leaf origin content
  | .table incoming, present => putAll incoming (present.getD (.table []))

theorem put_eq (key : String) (v t : Value) : put key v t =
    .table (putMember (normalKey key) (settledBy v (t.get? (normalKey key))) t.entries) := by
  cases v <;> rw [put] <;> rfl

/-- The key at the top of a file that an entry leads to. -/
def headOf (e : String × Value) : String :=
  normalKey ((KeyPath.parse? e.1).elim e.1 KeyPath.first)

/-- The steps by which an entry leads on from there. -/
def stepsOf (e : String × Value) : List KeyStep := (KeyPath.parse? e.1).elim [] KeyPath.steps

/-- What stands under the key that an entry leads to when it has been laid over what stood there. -/
def settled (e : String × Value) (present : Option Value) : Value :=
  if stepsOf e = [] then settledBy e.2 present
  else putAlong (stepsOf e) e.2 (present.getD (.plain .null))

theorem putEntry_eq (e : String × Value) (t : Value) :
    putEntry e t = .table (putMember (headOf e) (settled e (t.get? (headOf e))) t.entries) := by
  unfold putEntry headOf settled stepsOf
  cases KeyPath.parse? e.1 with
  | none => exact put_eq _ _ _
  | some path =>
    obtain ⟨first, steps⟩ := path
    cases steps with
    | nil => exact put_eq _ _ _
    | cons step steps => rfl

theorem get?_putEntry_self (e : String × Value) (t : Value) :
    (putEntry e t).get? (headOf e) = some (settled e (t.get? (headOf e))) := by
  rw [putEntry_eq]
  exact member?_putMember_self _ _ _

theorem get?_putEntry_of_ne (h : headOf e ≠ key) (t : Value) :
    (putEntry e t).get? key = t.get? key := by
  rw [putEntry_eq]
  exact member?_putMember_of_ne (Ne.symm h) _ _

/-! ### The entries of a file -/

/-- The entries that lead to a key. -/
def entriesFor (key : String) (es : List (String × Value)) : List (String × Value) :=
  es.filter (headOf · = key)

/-- The entries that lead elsewhere. -/
def without (key : String) (es : List (String × Value)) : List (String × Value) :=
  es.filter (headOf · ≠ key)

/-- What stands under a key when the entries that lead to it have been laid over what stood there,
one after another. -/
def settle (es : List (String × Value)) (present : Option Value) : Option Value :=
  es.foldl (fun present e => some (settled e present)) present

/-- Only the entries that lead to a key matter for it, and only what stood under it. -/
theorem get?_layOver (key : String) (es : List (String × Value)) (t : Value) :
    (layOver es t).get? key = settle (entriesFor key es) (t.get? key) := by
  induction es generalizing t with
  | nil => rfl
  | cons e es ih =>
    have hstep : layOver (e :: es) t = layOver es (putEntry e t) := rfl
    rw [hstep, ih]
    by_cases h : headOf e = key
    · subst h
      have hcons : entriesFor (headOf e) (e :: es) = e :: entriesFor (headOf e) es := by
        simp [entriesFor]
      rw [get?_putEntry_self, hcons]
      rfl
    · have hcons : entriesFor key (e :: es) = entriesFor key es := by
        simp [entriesFor, h]
      rw [get?_putEntry_of_ne h, hcons]

theorem entriesFor_without_self (key : String) (es : List (String × Value)) :
    entriesFor key (without key es) = [] := by
  simp [entriesFor, without, List.filter_filter]

theorem entriesFor_without_of_ne (h : other ≠ key) (es : List (String × Value)) :
    entriesFor other (without key es) = entriesFor other es := by
  rw [entriesFor, without, List.filter_filter]
  refine List.filter_congr fun e _ => ?_
  by_cases he : headOf e = other
  · simp [he, h]
  · simp [he]

/-! ### Names -/

/-- The names in a table. A leaf has none. -/
def Value.names (v : Value) : List String := v.entries.map Prod.fst

/-- The names in what stands under a key, if anything does. -/
def namesIn (present : Option Value) : List String := present.elim [] Value.names

theorem mem_map_fst_putMember {α : Type} {value : α} {ms : List (String × α)} :
    name ∈ (putMember key value ms).map Prod.fst ↔ name = key ∨ name ∈ ms.map Prod.fst := by
  induction ms with
  | nil => simp [putMember]
  | cons m ms ih =>
    rw [putMember]
    split
    · rename_i hm
      simp [← hm]
    · rw [List.map_cons, List.mem_cons, ih, List.map_cons, List.mem_cons]
      exact or_left_comm

theorem nodup_map_fst_putMember {α : Type} {value : α} {ms : List (String × α)}
    (h : (ms.map Prod.fst).Nodup) : ((putMember key value ms).map Prod.fst).Nodup := by
  induction ms with
  | nil => simp [putMember]
  | cons m ms ih =>
    rw [List.map_cons, List.nodup_cons] at h
    rw [putMember]
    split
    · rename_i hm
      rw [List.map_cons, List.nodup_cons]
      exact ⟨hm ▸ h.1, h.2⟩
    · rename_i hm
      rw [List.map_cons, List.nodup_cons, mem_map_fst_putMember]
      exact ⟨not_or.mpr ⟨hm, h.1⟩, ih h.2⟩

theorem names_put : name ∈ (put key v t).names ↔ name = normalKey key ∨ name ∈ t.names := by
  rw [put_eq]
  exact mem_map_fst_putMember

theorem nodup_names_put (h : t.names.Nodup) : (put key v t).names.Nodup := by
  rw [put_eq]
  exact nodup_map_fst_putMember h

theorem names_putAll : name ∈ (putAll es t).names ↔
    (∃ e ∈ es, name = normalKey e.1) ∨ name ∈ t.names := by
  induction es generalizing t with
  | nil => simp [putAll]
  | cons e es ih =>
    simp only [putAll, ih, names_put, List.mem_cons, exists_eq_or_imp]
    exact or_left_comm.trans or_assoc.symm

theorem nodup_names_putAll (h : t.names.Nodup) : (putAll es t).names.Nodup := by
  induction es generalizing t with
  | nil => exact h
  | cons e es ih =>
    rw [putAll]
    exact ih (nodup_names_put h)

theorem exists_putAll_eq (es ms : List (String × Value)) :
    ∃ ms', putAll es (.table ms) = .table ms' := by
  induction es generalizing ms with
  | nil => exact ⟨ms, by rw [putAll]⟩
  | cons e es ih =>
    rw [putAll, put_eq]
    exact ih _

/-- Steps into a table lead through a name of it. -/
theorem exists_putAlong_eq (key : String) (steps : List KeyStep) (v t : Value) :
    ∃ below, putAlong (.child key :: steps) v t =
      .table (putMember (normalKey key) below t.entries) := by
  cases steps with
  | nil => exact ⟨_, put_eq key v t⟩
  | cons step steps => exact ⟨_, rfl⟩

theorem exists_toArray_eq (t : Value) : ∃ origin, toArray t = .leaf origin .array := by
  unfold toArray
  split
  · exact ⟨_, rfl⟩
  · exact ⟨none, rfl⟩

/-- What an entry can do: put a leaf there, merge a table into what is there, go on along some
steps, or make an array of it. -/
theorem settled_cases (e : String × Value) :
    (∃ origin content, ∀ p, settled e p = .leaf origin content) ∨
    (∃ incoming, ∀ p, settled e p = putAll incoming (p.getD (.table []))) ∨
    (∃ key steps v, ∀ p,
      settled e p = putAlong (.child key :: steps) v (p.getD (.plain .null))) ∨
    (∀ p, settled e p = toArray (p.getD (.plain .null))) := by
  obtain ⟨key, v⟩ := e
  unfold settled
  cases stepsOf (key, v) with
  | nil =>
    cases v with
    | leaf origin content => exact .inl ⟨origin, content, fun _ => rfl⟩
    | table incoming => exact .inr (.inl ⟨incoming, fun _ => rfl⟩)
  | cons step steps =>
    cases step with
    | child key => exact .inr (.inr (.inl ⟨key, steps, v, fun _ => rfl⟩))
    | item index => exact .inr (.inr (.inr fun _ => by simp [putAlong]))

/-- An entry that puts a leaf where nothing stood puts it anywhere, but for the origin of an array.
-/
theorem settled_of_leaf {origin : Option String} {content : Leaf}
    (h : settled e none = .leaf origin content) (p : Option Value) :
    ∃ origin', settled e p = .leaf origin' content ∧ (content = .array ∨ origin' = origin) := by
  rcases settled_cases e with ⟨o, c, he⟩ | ⟨incoming, he⟩ | ⟨key, steps, v, he⟩ | he
  · rw [he] at h
    exact ⟨o, by rw [he, (Value.leaf.inj h).2], .inr (Value.leaf.inj h).1⟩
  · obtain ⟨ms, hms⟩ := exists_putAll_eq incoming []
    rw [he, Option.getD_none, hms] at h
    cases h
  · obtain ⟨below, hbelow⟩ := exists_putAlong_eq key steps v (.plain .null)
    rw [he, Option.getD_none, hbelow] at h
    cases h
  · obtain ⟨o, ho⟩ := exists_toArray_eq (p.getD (.plain .null))
    rw [he] at h
    obtain ⟨-, rfl⟩ := Value.leaf.inj h
    exact ⟨o, by rw [he, ho], .inl rfl⟩

/-- An entry that makes a table where nothing stood adds the names of that table anywhere. -/
theorem names_settled (h : settled e none = .table ms) :
    name ∈ (settled e p).names ↔ name ∈ ms.map Prod.fst ∨ name ∈ namesIn p := by
  have hms : ms.map Prod.fst = (settled e none).names := by rw [h]; rfl
  rw [hms]
  rcases settled_cases e with ⟨o, c, he⟩ | ⟨incoming, he⟩ | ⟨key, steps, v, he⟩ | he
  · rw [he] at h
    cases h
  · rw [he, he, names_putAll, names_putAll]
    cases p <;> simp [namesIn, Value.names, Value.entries]
  · obtain ⟨below, hbelow⟩ := exists_putAlong_eq key steps v (p.getD (.plain .null))
    obtain ⟨below', hbelow'⟩ := exists_putAlong_eq key steps v (.plain .null)
    rw [he, he, hbelow, Option.getD_none, hbelow', Value.names, Value.names, Value.entries,
      Value.entries, mem_map_fst_putMember, mem_map_fst_putMember]
    cases p <;> simp [namesIn, Value.names, Value.entries, Value.plain]
  · obtain ⟨o, ho⟩ := exists_toArray_eq (.plain .null)
    rw [he, Option.getD_none, ho] at h
    cases h

/-- An entry leaves no name twice. -/
theorem nodup_names_settled (h : (namesIn p).Nodup) : (settled e p).names.Nodup := by
  rcases settled_cases e with ⟨o, c, he⟩ | ⟨incoming, he⟩ | ⟨key, steps, v, he⟩ | he
  · rw [he]
    exact List.nodup_nil
  · rw [he]
    refine nodup_names_putAll ?_
    cases p with
    | none => exact List.nodup_nil
    | some t => exact h
  · obtain ⟨below, hbelow⟩ := exists_putAlong_eq key steps v (p.getD (.plain .null))
    rw [he, hbelow]
    refine nodup_map_fst_putMember ?_
    cases p with
    | none => exact List.nodup_nil
    | some t => exact h
  · obtain ⟨o, ho⟩ := exists_toArray_eq (p.getD (.plain .null))
    rw [he, ho]
    exact List.nodup_nil

/-- Which names an entry leaves depends on the names that were there, and on nothing else. -/
theorem names_settled_congr (h : ∀ name, name ∈ namesIn p ↔ name ∈ namesIn q) (name : String) :
    name ∈ (settled e p).names ↔ name ∈ (settled e q).names := by
  cases hnone : settled e none with
  | leaf origin content =>
    obtain ⟨_, hp, -⟩ := settled_of_leaf hnone p
    obtain ⟨_, hq, -⟩ := settled_of_leaf hnone q
    rw [hp, hq]
    rfl
  | table ms => rw [names_settled hnone, names_settled hnone, h]

/-! ### Names after some entries -/

theorem nodup_namesIn_settle (es : List (String × Value)) (h : (namesIn p).Nodup) :
    (namesIn (settle es p)).Nodup := by
  induction es generalizing p with
  | nil => exact h
  | cons e es ih => exact ih (p := some (settled e p)) (nodup_names_settled h)

theorem namesIn_settle_congr (es : List (String × Value))
    (h : ∀ name, name ∈ namesIn p ↔ name ∈ namesIn q) (name : String) :
    name ∈ namesIn (settle es p) ↔ name ∈ namesIn (settle es q) := by
  induction es generalizing p q with
  | nil => exact h name
  | cons e es ih =>
    exact ih (p := some (settled e p)) (q := some (settled e q)) (names_settled_congr h)

end ModelineAssist.Settings
