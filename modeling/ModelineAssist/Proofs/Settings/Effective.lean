import ModelineAssist.Proofs.Settings.Precedence

/-!
The value that a setting comes to. It starts as the default, over which the entry of the user is
laid, and over this the entry of the workspace. A leaf laid over something replaces it. A table is
laid over something entry by entry, so one without entries changes nothing; what is no table counts
as one without entries. An entry whose key is a path stands for tables in one another.
-/
namespace ModelineAssist.Settings

/-- What comes of laying a value over another one. -/
inductive Laid : Value → Value → Value → Prop
  | leaf {origin content below} : Laid (.leaf origin content) below (.leaf origin content)
  | empty {below} : Laid (.table []) below below
  | entry {key v es below inner result} :
      Laid v ((below.get? (normalKey key)).getD (.table [])) inner →
      Laid (.table es) (.table (putMember (normalKey key) inner below.entries)) result →
      Laid (.table ((key, v) :: es)) below result

/-- A value inside tables of one entry each. -/
def inTables : List String → Value → Value
  | [], v => v
  | key :: keys, v => .table [(key, inTables keys v)]

/-- An entry gives a value for its key: its own, inside tables for the names that its path goes on
with. -/
def Gives (e : String × Value) (v : Value) : Prop :=
  ∃ keys : List String, stepsOf e = keys.map .child ∧ v = inTables keys e.2

/-- Some entries give each setting once at most, and no item of an array. -/
structure Regular (es : List (String × Value)) : Prop where
  one : ∀ k : Setting, (entriesFor k.key es).length ≤ 1
  gives : ∀ e ∈ es, ∃ v, Gives e v

/-- What comes of laying the entries of a file over the value of a key: nothing if there is none for
the key, and else what comes of the one there is. -/
inductive Layered (key : String) (es : List (String × Value)) (below : Value) : Value → Prop
  | none : entriesFor key es = [] → Layered key es below below
  | one {e v result} : entriesFor key es = [e] → Gives e v → Laid v below result →
      Layered key es below result

/-- The value of a setting where nothing is set. -/
def Setting.default : Setting → Value
  | .completions | .hover => .plain (.bool true)
  | .strategy => .plain (.text "Prefix")
  | .rule => .plain (.text "Respect")

/-- The value that a setting comes to by the entries of two files. -/
def Effective (k : Setting) (user workspace : List (String × Value)) (v : Value) : Prop :=
  ∃ w, Layered k.key user k.default w ∧ Layered k.key workspace w v

variable {key : String} {keys : List String} {v w t below result : Value} {e : String × Value}
  {es user workspace : List (String × Value)} {k : Setting}

/-! ### A value over another one -/

/-- Where nothing stands, an empty table does as well. -/
theorem settledBy_getD (v : Value) (present : Option Value) :
    settledBy v (some (present.getD (.table []))) = settledBy v present := by
  cases v <;> rfl

theorem settledBy_of_laid (h : Laid v below result) : settledBy v (some below) = result := by
  induction h with
  | leaf => rfl
  | empty => rfl
  | @entry key v es below inner result _ _ ihv ihes =>
    rw [settledBy_getD] at ihv
    have hstep : settledBy (.table ((key, v) :: es)) (some below) =
        putAll es (put key v below) := rfl
    rw [hstep, put_eq, ihv]
    exact ihes

mutual

theorem laid_settledBy : ∀ v below : Value, Laid v below (settledBy v (some below))
  | .leaf _ _, _ => .leaf
  | .table es, below => laid_putAll es below

theorem laid_putAll : ∀ (es : List (String × Value)) (below : Value),
    Laid (.table es) below (putAll es below)
  | [], _ => .empty
  | (key, v) :: es, below => by
    have hv := laid_settledBy v ((below.get? (normalKey key)).getD (.table []))
    rw [settledBy_getD] at hv
    have hes := laid_putAll es (put key v below)
    rw [put_eq] at hes
    rw [putAll, put_eq]
    exact .entry hv hes

end

theorem laid_iff : Laid v below result ↔ settledBy v (some below) = result :=
  ⟨settledBy_of_laid, fun h => h ▸ laid_settledBy v below⟩

/-! ### An entry over a value -/

/-- Of what a value is put into only the entries matter. -/
theorem put_congr (h : t.entries = w.entries) (key : String) (v : Value) :
    put key v t = put key v w := by
  rw [put_eq, put_eq, Value.get?, Value.get?, h]

/-- A path leads where tables in one another lead. -/
theorem putAlong_eq (hkeys : keys ≠ []) (v t : Value) :
    putAlong (keys.map .child) v t = settledBy (inTables keys v) (some t) := by
  induction keys generalizing t with
  | nil => exact absurd rfl hkeys
  | cons key keys ih =>
    cases keys with
    | nil => rfl
    | cons key' keys =>
      have hinner : settledBy (inTables (key' :: keys) v)
          (some ((t.get? (normalKey key)).getD (.plain .null))) =
            settledBy (inTables (key' :: keys) v) (t.get? (normalKey key)) := by
        cases t.get? (normalKey key) with
        | some p => rfl
        | none =>
          have hnone : (Value.plain .null).entries = (Value.table []).entries := rfl
          exact put_congr hnone key' (inTables keys v)
      have hput : settledBy (inTables (key :: key' :: keys) v) (some t) =
          put key (inTables (key' :: keys) v) t := rfl
      rw [hput, put_eq, ← hinner, ← ih (List.cons_ne_nil _ _)]
      rfl

theorem settled_of_gives (h : Gives e v) (below : Value) :
    settled e (some below) = settledBy v (some below) := by
  obtain ⟨keys, hsteps, rfl⟩ := h
  cases keys with
  | nil => rw [settled, hsteps]; rfl
  | cons key keys =>
    rw [settled, hsteps, if_neg (by simp)]
    exact putAlong_eq (List.cons_ne_nil key keys) e.2 below

/-! ### The entries of two files -/

theorem Layered.settle_eq (h : Layered key es below result) :
    settle (entriesFor key es) (some below) = some result := by
  cases h with
  | none hes => rw [hes]; rfl
  | one hes hv hover =>
    rw [hes, ← laid_iff.mp hover, ← settled_of_gives hv]
    rfl

/-- Entries that give a setting once are the one entry for it. -/
theorem Regular.entriesFor_eq (h : Regular es) (he : e ∈ entriesFor k.key es) :
    entriesFor k.key es = [e] := by
  have hlength := Nat.le_antisymm (h.one k) (List.length_pos_of_mem he)
  obtain ⟨e', hes⟩ := List.length_eq_one_iff.mp hlength
  rw [hes, List.mem_singleton] at he
  rw [hes, he]

theorem Regular.exists_layered (h : Regular es) (k : Setting) (below : Value) :
    ∃ result, Layered k.key es below result := by
  cases hes : entriesFor k.key es with
  | nil => exact ⟨below, .none hes⟩
  | cons e rest =>
    have he : e ∈ entriesFor k.key es := hes ▸ List.mem_cons_self
    obtain ⟨v, hv⟩ := h.gives e (List.mem_filter.mp he).1
    exact ⟨_, .one (h.entriesFor_eq he) hv (laid_settledBy v below)⟩

theorem get?_defaultValue (k : Setting) : defaultValue.get? k.key = some k.default := by
  cases k <;> rfl

/-- The value that a setting comes to is the one under its key when both files have been laid over
the defaults. -/
theorem Effective.valueOf_eq (h : Effective k user workspace v) :
    valueOf k.key (layOver workspace (layOver user defaultValue)) = v := by
  obtain ⟨w, huser, hworkspace⟩ := h
  rw [valueOf, get?_layOver, get?_layOver, get?_defaultValue, huser.settle_eq,
    hworkspace.settle_eq]
  rfl

/-- A leaf replaces what stood there, whatever it was. -/
theorem Effective.eq_leaf {origin : Option String} {content : Leaf}
    (h : Effective k user workspace v) (regular : Regular workspace)
    (he : e ∈ entriesFor k.key workspace) (hgives : Gives e (.leaf origin content)) :
    v = .leaf origin content := by
  obtain ⟨w, -, hworkspace⟩ := h
  have hsettle := hworkspace.settle_eq
  rw [regular.entriesFor_eq he] at hsettle
  exact (Option.some.inj hsettle).symm.trans (settled_of_gives hgives w)

theorem exists_effective (huser : Regular user) (hworkspace : Regular workspace) (k : Setting) :
    ∃ v, Effective k user workspace v := by
  obtain ⟨w, hw⟩ := huser.exists_layered k k.default
  obtain ⟨v, hv⟩ := hworkspace.exists_layered k w
  exact ⟨v, w, hw, hv⟩

theorem effective_iff (huser : Regular user) (hworkspace : Regular workspace) :
    Effective k user workspace v ↔
      v = valueOf k.key (layOver workspace (layOver user defaultValue)) := by
  constructor
  · exact fun h => h.valueOf_eq.symm
  · rintro rfl
    obtain ⟨v, hv⟩ := exists_effective huser hworkspace k
    rwa [hv.valueOf_eq]

end ModelineAssist.Settings
