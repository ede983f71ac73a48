import ModelineAssist.Proofs.Registry.Lookup
import ModelineAssist.Proofs.Text.ByteOrder

/-!
What a table makes of a registry. A table is accepted if and only if each of its rows is complete
and no two have one name. The entries are then its rows, brought into the order of their names, so
the order of the rows does not matter, and listing and looking up show the rows and nothing else.
-/
namespace ModelineAssist.Registry
open Text Matching

variable {r r' : Registry} {rows rows' es : List Entry} {e : Entry} {name : String}

/-- A row that can stand in a table: it has a name, and a description that shows something. -/
def Entry.Complete (e : Entry) : Prop := e.name ≠ "" ∧ isBlank e.description.toList = false

/-- The names of some entries. -/
def namesOf (es : List Entry) : List String := es.map Entry.name

/-! ### Entries in the order of their names -/

theorem insertEntry_perm (e : Entry) (es : List Entry) : (insertEntry e es).Perm (e :: es) := by
  induction es with
  | nil => rfl
  | cons x xs ih =>
    rw [insertEntry]
    split
    · exact (List.Perm.cons x ih).trans (List.Perm.swap e x xs)
    · rfl

/-- Entries that are sorted have different names. -/
theorem nodup_namesOf_entries (r : Registry) : (namesOf r.entries).Nodup := by
  rw [namesOf, List.Nodup, List.pairwise_map]
  refine r.sorted.imp fun {x y} hxy heq => ?_
  exact String.lt_irrefl _ (heq ▸ hxy)

/-- A registry is told by its entries, in whatever order they are given. -/
theorem eq_of_perm (h : r.entries.Perm r'.entries) : r = r' := by
  have hentries : r.entries = r'.entries :=
    List.Perm.eq_of_pairwise (fun x y _ _ hxy hyx => absurd hyx (String.lt_asymm hxy))
      r.sorted r'.sorted h
  obtain ⟨entries, _⟩ := r
  obtain rfl : entries = r'.entries := hentries
  rfl

/-! ### Tables -/

theorem not_mem_namesOf_iff : name ∉ namesOf es ↔ ∀ x ∈ es, x.name ≠ name := by
  simp [namesOf]

/-- A row is added if it is complete and its name is new. -/
theorem addRow_eq_ok_iff : r.addRow e = .ok r' ↔
    e.Complete ∧ e.name ∉ namesOf r.entries ∧ r'.entries.Perm (e :: r.entries) := by
  unfold addRow Entry.Complete
  split
  · simp [*]
  split
  · simp [*]
  split
  · rename_i hname hblank fresh
    rw [not_mem_namesOf_iff, Except.ok.injEq]
    constructor
    · rintro rfl
      exact ⟨⟨hname, Bool.eq_false_iff.mpr hblank⟩, fresh, insertEntry_perm e r.entries⟩
    · rintro ⟨-, -, hperm⟩
      exact eq_of_perm ((insertEntry_perm e r.entries).trans hperm.symm)
  · rename_i hname hblank fresh
    simp [not_mem_namesOf_iff, fresh]

theorem exists_addRow_eq_ok (hcomplete : e.Complete) (hfresh : e.name ∉ namesOf r.entries) :
    ∃ q, r.addRow e = .ok q :=
  ⟨r.insert e (not_mem_namesOf_iff.mp hfresh),
    addRow_eq_ok_iff.mpr ⟨hcomplete, hfresh, insertEntry_perm e r.entries⟩⟩

/-- Rows are added if they are complete and all names, old and new, are different. -/
theorem addRows_eq_ok_iff : r.addRows rows = .ok r' ↔ (∀ e ∈ rows, e.Complete) ∧
    (namesOf (r.entries ++ rows)).Nodup ∧ r'.entries.Perm (r.entries ++ rows) := by
  induction rows generalizing r with
  | nil =>
    simp only [addRows, Except.ok.injEq, List.append_nil, List.not_mem_nil, false_implies,
      implies_true, true_and]
    constructor
    · rintro rfl
      exact ⟨nodup_namesOf_entries r, .refl _⟩
    · rintro ⟨-, hperm⟩
      exact eq_of_perm hperm.symm
  | cons e es ih =>
    have hmiddle : (r.entries ++ e :: es).Perm (e :: (r.entries ++ es)) := List.perm_middle
    have hnames : (namesOf (r.entries ++ e :: es)).Nodup ↔
        (namesOf (e :: (r.entries ++ es))).Nodup := (hmiddle.map Entry.name).nodup_iff
    rw [addRows, List.forall_mem_cons, hnames]
    cases hadd : r.addRow e with
    | ok q =>
      obtain ⟨hcomplete, hfresh, hq⟩ := addRow_eq_ok_iff.mp hadd
      have happend : (q.entries ++ es).Perm (e :: (r.entries ++ es)) := hq.append_right es
      have hnames' : (namesOf (q.entries ++ es)).Nodup ↔
          (namesOf (e :: (r.entries ++ es))).Nodup := (happend.map Entry.name).nodup_iff
      simp only [ih, hcomplete, hnames', true_and]
      constructor
      · rintro ⟨hes, hnodup, hperm⟩
        exact ⟨hes, hnodup, hperm.trans (happend.trans hmiddle.symm)⟩
      · rintro ⟨hes, hnodup, hperm⟩
        exact ⟨hes, hnodup, hperm.trans (hmiddle.trans happend.symm)⟩
    | error d =>
      -- Nothing but its name can keep a complete row out.
      simp only [reduceCtorEq, false_iff]
      rintro ⟨⟨hcomplete, -⟩, hnodup, -⟩
      obtain ⟨hnew, -⟩ := List.nodup_cons.mp hnodup
      have hfresh : e.name ∉ namesOf r.entries := fun hmem => hnew (by
        rw [List.map_append]
        exact List.mem_append_left _ hmem)
      obtain ⟨q, hq⟩ := exists_addRow_eq_ok hcomplete hfresh
      rw [hadd] at hq
      cases hq

/-- A table is accepted if all its rows are complete and have different names, and then its rows are
the entries. -/
theorem ofRows_eq_ok_iff : ofRows rows = .ok r ↔
    (∀ e ∈ rows, e.Complete) ∧ (namesOf rows).Nodup ∧ r.entries.Perm rows := addRows_eq_ok_iff

/-- The order of the rows of a table does not matter. -/
theorem ofRows_of_perm (hperm : rows'.Perm rows) (h : ofRows rows = .ok r) :
    ofRows rows' = .ok r := by
  obtain ⟨hcomplete, hnames, hentries⟩ := ofRows_eq_ok_iff.mp h
  refine ofRows_eq_ok_iff.mpr ⟨fun e he => hcomplete e (hperm.mem_iff.mp he), ?_, ?_⟩
  · exact (hperm.map Entry.name).nodup_iff.mpr hnames
  · exact hentries.trans hperm.symm

/-! ### Listing and looking up -/

/-- The entries are in the order of the bytes of their names. -/
theorem pairwise_utf8_entries (r : Registry) :
    r.entries.Pairwise fun x y => utf8 x.name < utf8 y.name :=
  r.sorted.imp utf8_lt_utf8_iff.mpr

theorem pairwise_utf8_candidates (r : Registry) :
    r.candidates.Pairwise fun x y => utf8 x.label < utf8 y.label :=
  List.pairwise_map.mpr (pairwise_utf8_entries r)

theorem describe?_eq_some_iff {description : String} : r.describe? name = some description ↔
    ∃ e ∈ r.entries, e.name = name ∧ e.description = description := by
  simp only [describe?, Option.map_eq_some_iff, get?_eq_some_iff, and_assoc]

/-- Listing and looking up show the rows of a table and nothing else. The entries and the candidates
are the rows, each once, in the order of the bytes of their names; each candidate shows the entry at
its place; the name of a row finds it, and no other name finds anything; a policy chooses among the
candidates without changing their order; and with its rows in another order the table makes the same
registry. -/
theorem ofRows_shows (h : ofRows rows = .ok r) :
    r.entries.Perm rows ∧ r.candidates.Perm (rows.map Entry.candidate) ∧
    (r.entries.Pairwise fun x y => utf8 x.name < utf8 y.name) ∧
    (r.candidates.Pairwise fun x y => utf8 x.label < utf8 y.label) ∧
    (∀ i : Nat, r.candidates[i]? = r.entries[i]?.map fun e =>
      ⟨e.name, e.description, if e.deprecated then [.deprecated] else []⟩) ∧
    (∀ name e, r.get? name = some e ↔ e ∈ rows ∧ e.name = name) ∧
    (∀ name, r.get? name = none ↔ ∀ e ∈ rows, e.name ≠ name) ∧
    (∀ name description, r.describe? name = some description ↔
      ∃ e ∈ rows, e.name = name ∧ e.description = description) ∧
    r.size = rows.length ∧ (r.isEmpty = true ↔ rows = []) ∧
    (∀ policy typed, r.candidatesFor policy typed =
      r.candidates.filter fun c => policy.accepts c.label.toList typed.toList) ∧
    ∀ rows' : List Entry, rows'.Perm rows → ofRows rows' = .ok r := by
  obtain ⟨-, -, hperm⟩ := ofRows_eq_ok_iff.mp h
  have hmem (e : Entry) : e ∈ r.entries ↔ e ∈ rows := hperm.mem_iff
  refine ⟨hperm, hperm.map Entry.candidate, pairwise_utf8_entries r, pairwise_utf8_candidates r,
    fun i => List.getElem?_map, fun name e => ?_, fun name => ?_, fun name description => ?_,
    hperm.length_eq, ?_, fun policy typed => rfl, fun rows' hrows => ofRows_of_perm hrows h⟩
  · rw [get?_eq_some_iff, hmem]
  · rw [Option.eq_none_iff_forall_ne_some]
    simp only [ne_eq, get?_eq_some_iff, hmem, not_and]
  · simp only [describe?_eq_some_iff, hmem]
  · rw [isEmpty, List.isEmpty_iff, ← List.length_eq_zero_iff, hperm.length_eq,
      List.length_eq_zero_iff]

/-- A table whose rows are not in the order of their names. -/
def unsortedRows : List Entry :=
  [⟨"trait", "Configure a trait", false⟩, ⟨"étiquette", "Add a label", true⟩,
    ⟨"env", "Set an environment variable", false⟩]

/-- The registry of the same rows. -/
def sortedRegistry : Registry :=
  ⟨[⟨"env", "Set an environment variable", false⟩, ⟨"trait", "Configure a trait", false⟩,
    ⟨"étiquette", "Add a label", true⟩], by decide⟩

/-- Forwards and backwards the rows make one registry, in which the accented name comes last and
finds its row. -/
theorem ofRows_unsortedRows :
    ofRows unsortedRows = .ok sortedRegistry ∧
    ofRows unsortedRows.reverse = .ok sortedRegistry ∧
    sortedRegistry.get? "étiquette" = some ⟨"étiquette", "Add a label", true⟩ := by
  have made : ofRows unsortedRows = .ok sortedRegistry := rfl
  obtain ⟨-, -, -, -, -, found, -, -, -, -, -, reordered⟩ := ofRows_shows made
  refine ⟨made, reordered _ (List.reverse_perm _), (found _ _).mpr ⟨?_, rfl⟩⟩
  exact List.mem_cons_of_mem _ List.mem_cons_self

end ModelineAssist.Registry
