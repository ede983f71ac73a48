import ModelineAssist.Proofs.Settings.Merging
import ModelineAssist.Proofs.Settings.Reading

/-!
Which file wins. A setting that the workspace gives is set as the workspace says, whatever the user
gives for it, with one exception: where both give a table and the user's has a name that the table
of the workspace has not, the two are merged into a table of several names, and nothing can be
loaded.
-/
namespace ModelineAssist.Settings

variable {user workspace : List (String × Value)} {k l : Setting} {v : Value} {c : k.Choice}
  {around : Surroundings} {root : List UInt8}

/-- The settings that the entries of two files make over the defaults. -/
def ofFiles (user workspace : List (String × Value)) : Except Misfit Settings :=
  ofValue (layOver workspace (layOver user defaultValue))

/-- What the two files of a workspace hold. -/
structure Holds (around : Surroundings) (root : List UInt8)
    (user workspace : List (String × Value)) : Prop where
  user : readSource around (userStem around) = some user
  workspace : ∃ path, String.fromUTF8? root.toByteArray = some path ∧
    readSource around (workspaceStem path) = some workspace

/-- Loading the settings of a workspace is making them of what its files hold. -/
theorem load_of_holds (h : Holds around root user workspace) :
    load around root = (ofFiles user workspace).mapError .misfit := by
  obtain ⟨path, hpath, hworkspace⟩ := h.workspace
  unfold load ofFiles
  rw [hpath]
  simp only [h.user, hworkspace]
  cases ofValue (layOver workspace (layOver user defaultValue)) <;> rfl

/-- What a file gives for a key by itself. -/
def given? (key : String) (es : List (String × Value)) : Option Value :=
  (layOver es (.table [])).get? key

/-- Both files give a table for a key, and the user's has a name that the other has not. -/
def Clash (key : String) (user workspace : List (String × Value)) : Prop :=
  ∃ us ws, given? key user = some (.table us) ∧ given? key workspace = some (.table ws) ∧
    ∃ name ∈ us.map Prod.fst, name ∉ ws.map Prod.fst

theorem given?_eq (key : String) (es : List (String × Value)) :
    given? key es = settle (entriesFor key es) none := get?_layOver key es _

/-- What the default of a setting is kept as: a leaf. -/
theorem exists_default (k : Setting) :
    ∃ content, defaultValue.get? k.key = some (.plain content) := by
  cases k <;> exact ⟨_, rfl⟩

/-- The names that the user's file brings under a key do not depend on the default. -/
theorem namesIn_user (k : Setting) (user : List (String × Value)) (name : String) :
    name ∈ namesIn ((layOver user defaultValue).get? k.key) ↔
      name ∈ namesIn (given? k.key user) := by
  rw [get?_layOver, given?_eq]
  refine namesIn_settle_congr _ (fun name => ?_) name
  obtain ⟨content, hdefault⟩ := exists_default k
  rw [hdefault]
  rfl

theorem nodup_namesIn_user (k : Setting) (user : List (String × Value)) :
    (namesIn ((layOver user defaultValue).get? k.key)).Nodup := by
  rw [get?_layOver]
  refine nodup_namesIn_settle _ ?_
  obtain ⟨content, hdefault⟩ := exists_default k
  rw [hdefault]
  exact List.nodup_nil

/-- Without its entries for a key, a file gives nothing for it. -/
theorem not_clash_without (key : String) (user workspace : List (String × Value)) :
    ¬ Clash key (without key user) workspace := by
  rintro ⟨us, ws, hus, -⟩
  rw [given?_eq, entriesFor_without_self] at hus
  cases hus

/-- Where the files do not clash over a table of one name, the user brings no other name. -/
theorem eq_of_not_clash {key name n : String} {below : Value}
    (hclash : ¬ Clash key user workspace)
    (hgiven : given? key workspace = some (.table [(name, below)]))
    (hn : n ∈ namesIn (given? key user)) : n = name := by
  match hu : given? key user with
  | none => simp [hu, namesIn] at hn
  | some (.leaf _ _) => simp [hu, namesIn, Value.names, Value.entries] at hn
  | some (.table us) =>
    rw [hu] at hn
    refine Decidable.byContradiction fun hne => hclash ⟨us, _, hu, hgiven, n, hn, ?_⟩
    simpa using hne

/-! ### Tables by their names -/

theorem exists_table_of_single {name : String} (h : ∀ n, n ∈ v.names ↔ n = name)
    (hnodup : v.names.Nodup) : ∃ below, v = .table [(name, below)] := by
  cases v with
  | leaf => exact absurd ((h name).mpr rfl) List.not_mem_nil
  | table ms =>
    match ms with
    | [] => exact absurd ((h name).mpr rfl) List.not_mem_nil
    | [(n, below)] =>
      obtain rfl : n = name := (h n).mp List.mem_cons_self
      exact ⟨below, rfl⟩
    | (n, _) :: (n', _) :: _ =>
      -- Both names would have to be the one.
      have hn : n = name := (h n).mp List.mem_cons_self
      have hn' : n' = name := (h n').mp (List.mem_cons_of_mem _ List.mem_cons_self)
      refine absurd ?_ (List.nodup_cons.mp hnodup).1
      exact hn.trans hn'.symm ▸ List.mem_cons_self

theorem exists_table_of_two {n n' : String} (hn : n ∈ v.names) (hn' : n' ∈ v.names)
    (hne : n ≠ n') : ∃ ms, v = .table ms ∧ 2 ≤ ms.length := by
  cases v with
  | leaf => exact absurd hn List.not_mem_nil
  | table ms =>
    match ms with
    | [] => exact absurd hn List.not_mem_nil
    | [_] =>
      rw [Value.names, Value.entries, List.map_singleton, List.mem_singleton] at hn hn'
      exact absurd (hn.trans hn'.symm) hne
    | _ :: _ :: ms => exact ⟨_, rfl, by simp⟩

/-! ### The file of the workspace over that of the user -/

/-- A file that has one entry for a key at most gives for it what that entry does. -/
theorem exists_entry_of_given (one : (entriesFor k.key workspace).length ≤ 1)
    (hgiven : given? k.key workspace = some v) :
    ∃ e, entriesFor k.key workspace = [e] ∧ settled e none = v := by
  rw [given?_eq] at hgiven
  match hes : entriesFor k.key workspace with
  | [] => rw [hes] at hgiven; cases hgiven
  | [e] =>
    rw [hes] at hgiven
    exact ⟨e, rfl, Option.some.inj hgiven⟩
  | _ :: _ :: _ => simp [hes] at one

/-- What a setting comes to when the workspace has one entry for it. -/
theorem valueOf_layOver {e : String × Value} (he : entriesFor k.key workspace = [e]) (t : Value) :
    valueOf k.key (layOver workspace t) = settled e (t.get? k.key) := by
  rw [valueOf, get?_layOver, he]
  rfl

/-- Where the files do not clash, a setting is read as the workspace gives it. -/
theorem read_of_not_clash (one : (entriesFor k.key workspace).length ≤ 1)
    (hgiven : given? k.key workspace = some v) (fits : k.read v = .ok c)
    (hclash : ¬ Clash k.key user workspace) :
    k.read (valueOf k.key (layOver workspace (layOver user defaultValue))) = .ok c := by
  obtain ⟨e, he, rfl⟩ := exists_entry_of_given one hgiven
  rw [valueOf_layOver he]
  rcases cases_of_read fits with ⟨origin, content, hleaf, hcontent⟩ | ⟨name, below, htable⟩
  · obtain ⟨origin', hsettled, harray | rfl⟩ := settled_of_leaf hleaf
      ((layOver user defaultValue).get? k.key)
    · exact absurd harray hcontent
    · rw [hsettled, ← hleaf, fits]
  · have hnames : ∀ n, n ∈ (settled e ((layOver user defaultValue).get? k.key)).names ↔
        n = name := by
      intro n
      rw [names_settled htable, List.map_singleton, List.mem_singleton, namesIn_user]
      exact or_iff_left_of_imp (eq_of_not_clash hclash (hgiven.trans (congrArg some htable)))
    obtain ⟨below', hsettled⟩ := exists_table_of_single hnames
      (nodup_names_settled (nodup_namesIn_user k user))
    rw [hsettled, read_table_single k name below' below, ← htable, fits]

/-- Where the files clash, a setting cannot be read. -/
theorem read_of_clash (one : (entriesFor k.key workspace).length ≤ 1)
    (hgiven : given? k.key workspace = some v) (fits : k.read v = .ok c)
    (hclash : Clash k.key user workspace) : ∃ m,
    k.read (valueOf k.key (layOver workspace (layOver user defaultValue))) = .error m := by
  obtain ⟨us, ws, hus, hws, n, hn, hnot⟩ := hclash
  obtain rfl : v = .table ws := Option.some.inj (hgiven.symm.trans hws)
  obtain ⟨name, below, htable⟩ := (cases_of_read fits).resolve_left (by simp)
  obtain ⟨e, he, hsettled⟩ := exists_entry_of_given one hgiven
  have huser : n ∈ namesIn ((layOver user defaultValue).get? k.key) := by
    rw [namesIn_user, hus]
    exact hn
  have hname : name ∈ ws.map Prod.fst := by
    rw [Value.table.inj htable]
    exact List.mem_cons_self
  obtain ⟨ms, hms, hlength⟩ := exists_table_of_two
    ((names_settled hsettled).mpr (.inr huser)) ((names_settled hsettled).mpr (.inl hname))
    fun heq => hnot (heq ▸ hname)
  rw [valueOf_layOver he, hms]
  exact exists_read_eq_error k hlength

/-- The other settings do not depend on the entries for one of them. -/
theorem valueOf_without (h : l ≠ k) :
    valueOf l.key (layOver workspace (layOver user defaultValue)) =
      valueOf l.key (layOver workspace (layOver (without k.key user) defaultValue)) := by
  have hne : l.key ≠ k.key := fun heq => h (Setting.key_injective heq)
  simp only [valueOf, get?_layOver, entriesFor_without_of_ne hne]

/-- The workspace wins: where its file gives a setting a value that can be read, by one entry, the
settings come out as if the user gave nothing for it, and if they can be loaded at all, this one is
what the workspace says. The exception is a clash of two tables, by which nothing can be loaded. -/
theorem ofFiles_of_given (one : (entriesFor k.key workspace).length ≤ 1)
    (hgiven : given? k.key workspace = some v) (fits : k.read v = .ok c) :
    (∀ around root, Holds around root user workspace →
      load around root = (ofFiles user workspace).mapError .misfit) ∧
    (¬ Clash k.key user workspace →
      ofFiles user workspace = ofFiles (without k.key user) workspace ∧
      ∀ s, ofFiles user workspace = .ok s → k.of s = c) ∧
    (Clash k.key user workspace → ∃ m, ofFiles user workspace = .error m) := by
  refine ⟨fun around root h => load_of_holds h, fun hclash => ?_, fun hclash => ?_⟩
  · have hread := read_of_not_clash one hgiven fits hclash
    have hread' := read_of_not_clash one hgiven fits (not_clash_without k.key user workspace)
    refine ⟨ofValue_congr fun l => ?_, fun s hs => ?_⟩
    · by_cases h : l = k
      · subst h
        rw [hread, hread']
      · rw [valueOf_without h]
    · have hs' := ofValue_eq_ok_iff.mp hs k
      rw [hread] at hs'
      exact (Except.ok.inj hs').symm
  · obtain ⟨m, hm⟩ := read_of_clash one hgiven fits hclash
    exact exists_ofValue_eq_error hm

/-- A user who does not want hovering and gives the case rule by a table. -/
def userEntries : List (String × Value) :=
  [("hover", .plain (.bool false)), ("case_matching", .table [("Smart", .plain .null)])]

/-- A workspace that gives the case rule by a text. -/
def workspaceEntries : List (String × Value) := [("Case_Matching", .plain (.text "IGNORE"))]

/-- The case rule is that of the workspace, and hovering stays as the user wants it. -/
theorem ofFiles_workspaceEntries :
    (entriesFor ruleKey workspaceEntries).length ≤ 1 ∧
    given? ruleKey workspaceEntries = some (.plain (.text "IGNORE")) ∧
    ruleOf (.plain (.text "IGNORE")) = .ok .ignore ∧
    ¬ Clash ruleKey userEntries workspaceEntries ∧
    ofFiles userEntries workspaceEntries = .ok ⟨true, false, .front, .ignore⟩ ∧
    ofFiles (without ruleKey userEntries) workspaceEntries =
      .ok ⟨true, false, .front, .ignore⟩ := by
  have one : (entriesFor ruleKey workspaceEntries).length ≤ 1 :=
    List.length_filter_le (headOf · = ruleKey) workspaceEntries
  have hgiven : given? ruleKey workspaceEntries = some (.plain (.text "IGNORE")) := rfl
  have fits : ruleOf (.plain (.text "IGNORE")) = .ok .ignore := rfl
  have hclash : ¬ Clash ruleKey userEntries workspaceEntries := by
    rintro ⟨us, ws, -, hws, -⟩
    rw [hgiven] at hws
    cases hws
  have hmade : ofFiles userEntries workspaceEntries = .ok ⟨true, false, .front, .ignore⟩ := by
    have below : layOver userEntries defaultValue = .table
        [(completionsKey, .plain (.bool true)), (hoverKey, .plain (.bool false)),
          (strategyKey, .plain (.text "Prefix")),
          (ruleKey, .table [("smart", .plain .null)])] := rfl
    have above : layOver workspaceEntries (layOver userEntries defaultValue) = .table
        [(completionsKey, .plain (.bool true)), (hoverKey, .plain (.bool false)),
          (strategyKey, .plain (.text "Prefix")),
          (ruleKey, .plain (.text "IGNORE"))] := by rw [below]; rfl
    rw [ofFiles, above]
    rfl
  obtain ⟨same, -⟩ := (ofFiles_of_given (k := .rule) (c := .ignore) one hgiven fits).2.1 hclash
  exact ⟨one, hgiven, fits, hclash, hmade, same ▸ hmade⟩

/-- A file that gives the strategy by a table of one name. -/
def strategyTable (name : String) : List (String × Value) :=
  [("match_strategy", .table [(name, .plain (.number true))])]

/-- A workspace may give the strategy by a table, and alone it is loaded. With a user who gives it
by a table too, and another name, nothing is loaded. -/
theorem ofFiles_strategyTables :
    given? strategyKey (strategyTable "Prefix") =
      some (.table [("prefix", .plain (.number true))]) ∧
    strategyOf (.table [("prefix", .plain (.number true))]) = .ok .front ∧
    without strategyKey (strategyTable "Fuzzy") = [] ∧
    ofFiles [] (strategyTable "Prefix") = .ok .default ∧
    ofFiles (strategyTable "Fuzzy") (strategyTable "Prefix") =
      .error (.notChoice "MatchStrategy") :=
  ⟨rfl, rfl, rfl, rfl, rfl⟩

end ModelineAssist.Settings
