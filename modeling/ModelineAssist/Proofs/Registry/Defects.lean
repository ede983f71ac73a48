import ModelineAssist.Proofs.Registry.Table

/-!
Why a table is refused. A row is at fault if it has no name, a description that shows nothing, or
the name of a row above it, and the first of these that holds is what is reported. A table is
refused for the first of its rows that is at fault, so the rows below that one do not matter, while
whether a table is accepted does not depend on the order of its rows.
-/
namespace ModelineAssist.Registry
open Text

variable {r q : Registry} {rows rows' front back : List Entry} {e : Entry} {d : Defect}
  {names names' : List String}

/-- A row that cannot stand below rows of some names. -/
def Entry.Faulty (names : List String) (e : Entry) : Prop :=
  e.name = "" ∨ isBlank e.description.toList = true ∨ e.name ∈ names

/-- What is reported of a row below rows of some names. -/
inductive Entry.Fails (names : List String) (e : Entry) : Defect → Prop
  | emptyName : e.name = "" → e.Fails names .emptyName
  | emptyDescription : e.name ≠ "" → isBlank e.description.toList = true →
      e.Fails names (.emptyDescription e.name)
  | duplicateName : e.name ≠ "" → isBlank e.description.toList = false → e.name ∈ names →
      e.Fails names (.duplicateName e.name)

/-- The first row at fault in a table, and the rows above it. -/
structure FirstFault (rows above : List Entry) (e : Entry) : Prop where
  split : ∃ below, rows = above ++ e :: below
  faulty : e.Faulty (namesOf above)
  sound : ∀ before x after, above = before ++ x :: after → ¬ x.Faulty (namesOf before)

/-! ### One row -/

theorem faulty_iff : e.Faulty names ↔ ∃ d, e.Fails names d := by
  constructor
  · intro h
    by_cases hname : e.name = ""
    · exact ⟨_, .emptyName hname⟩
    · cases hblank : isBlank e.description.toList with
      | true => exact ⟨_, .emptyDescription hname hblank⟩
      | false =>
        have hold : e.name ∈ names := (h.resolve_left hname).resolve_left (by simp [hblank])
        exact ⟨_, .duplicateName hname hblank hold⟩
  · rintro ⟨_, hname | ⟨-, hblank⟩ | ⟨-, -, hold⟩⟩
    · exact .inl hname
    · exact .inr (.inl hblank)
    · exact .inr (.inr hold)

/-- Of the rows above only the names matter, and not their order. -/
theorem Entry.Fails.of_subset (h : e.Fails names d)
    (hnames : ∀ name, name ∈ names ↔ name ∈ names') : e.Fails names' d := by
  cases h with
  | emptyName hname => exact .emptyName hname
  | emptyDescription hname hblank => exact .emptyDescription hname hblank
  | duplicateName hname hblank hold => exact .duplicateName hname hblank ((hnames _).mp hold)

/-- A row is refused for what is wrong with it below the entries. -/
theorem addRow_eq_error_iff : r.addRow e = .error d ↔ e.Fails (namesOf r.entries) d := by
  constructor
  · intro h
    unfold addRow at h
    split at h
    · rename_i hname
      cases h
      exact .emptyName hname
    split at h
    · rename_i hname hblank
      cases h
      exact .emptyDescription hname hblank
    split at h
    · cases h
    · rename_i hname hblank hold
      cases h
      refine .duplicateName hname (Bool.eq_false_iff.mpr hblank) ?_
      exact Decidable.byContradiction fun hnew => hold (not_mem_namesOf_iff.mp hnew)
  · rintro (hname | ⟨hname, hblank⟩ | ⟨hname, hshows, hold⟩)
    · rw [addRow, if_pos hname]
    · rw [addRow, if_neg hname, if_pos hblank]
    · have hblank : ¬ isBlank e.description.toList = true := by simp [hshows]
      have hnew : ¬ ∀ x ∈ r.entries, x.name ≠ e.name :=
        fun fresh => not_mem_namesOf_iff.mpr fresh hold
      rw [addRow, if_neg hname, if_neg hblank, dif_neg hnew]

/-! ### Row after row -/

/-- Rows that are added leave the rows behind them to what has come about. -/
theorem addRows_append (h : r.addRows front = .ok q) (back : List Entry) :
    r.addRows (front ++ back) = q.addRows back := by
  induction front generalizing r with
  | nil =>
    obtain rfl := Except.ok.inj h
    rfl
  | cons e es ih =>
    rw [List.cons_append, addRows]
    rw [addRows] at h
    cases hadd : r.addRow e with
    | ok q' =>
      rw [hadd] at h
      exact ih h
    | error d =>
      rw [hadd] at h
      cases h

/-- Rows are refused for the first of them that is refused by itself. -/
theorem addRows_eq_error_iff : r.addRows rows = .error d ↔
    ∃ front e back q, rows = front ++ e :: back ∧ r.addRows front = .ok q ∧
      q.addRow e = .error d := by
  constructor
  · intro h
    induction rows generalizing r with
    | nil => cases h
    | cons e es ih =>
      rw [addRows] at h
      cases hadd : r.addRow e with
      | ok q =>
        rw [hadd] at h
        obtain ⟨front, e', back, q', rfl, hfront, he'⟩ := ih h
        refine ⟨e :: front, e', back, q', rfl, ?_, he'⟩
        rw [addRows, hadd]
        exact hfront
      | error d' =>
        rw [hadd] at h
        obtain rfl := Except.error.inj h
        exact ⟨[], e, es, r, rfl, rfl, hadd⟩
  · rintro ⟨front, e, back, q, rfl, hfront, he⟩
    rw [addRows_append hfront, addRows, he]

/-! ### Tables -/

/-- The names in a registry are those of the rows that it was made of. -/
theorem mem_namesOf_of_ofRows (h : ofRows rows = .ok r) (name : String) :
    name ∈ namesOf r.entries ↔ name ∈ namesOf rows := by
  obtain ⟨-, -, hperm⟩ := ofRows_eq_ok_iff.mp h
  exact (hperm.map Entry.name).mem_iff

/-- A table is refused for a row below rows that would be accepted by themselves. -/
theorem ofRows_eq_error_iff : ofRows rows = .error d ↔
    ∃ front e back, rows = front ++ e :: back ∧ (∃ q, ofRows front = .ok q) ∧
      e.Fails (namesOf front) d := by
  constructor
  · intro h
    obtain ⟨front, e, back, q, hrows, hfront, he⟩ := addRows_eq_error_iff.mp h
    have hfails := addRow_eq_error_iff.mp he
    exact ⟨front, e, back, hrows, ⟨q, hfront⟩, hfails.of_subset (mem_namesOf_of_ofRows hfront)⟩
  · rintro ⟨front, e, back, hrows, ⟨q, hfront⟩, hfails⟩
    have he : q.addRow e = .error d := addRow_eq_error_iff.mpr
      (hfails.of_subset fun name => (mem_namesOf_of_ofRows hfront name).symm)
    exact addRows_eq_error_iff.mpr ⟨front, e, back, q, hrows, hfront, he⟩

/-- A table is accepted if none of its rows is at fault. -/
theorem exists_ofRows_eq_ok_iff : (∃ r, ofRows rows = .ok r) ↔
    ∀ before x after, rows = before ++ x :: after → ¬ x.Faulty (namesOf before) := by
  constructor
  · rintro ⟨r, h⟩ before x after rfl hfaulty
    obtain ⟨d, hfails⟩ := faulty_iff.mp hfaulty
    cases hbefore : ofRows before with
    | ok q =>
      have hrefused := ofRows_eq_error_iff.mpr ⟨before, x, after, rfl, ⟨q, hbefore⟩, hfails⟩
      rw [h] at hrefused
      cases hrefused
    | error d' =>
      -- The rows above are refused already, and so is the whole table.
      obtain ⟨front, e, back, rfl, hfront, he⟩ := ofRows_eq_error_iff.mp hbefore
      have hrefused := ofRows_eq_error_iff.mpr
        ⟨front, e, back ++ x :: after, List.append_assoc front (e :: back) _, hfront, he⟩
      rw [h] at hrefused
      cases hrefused
  · intro h
    cases hrows : ofRows rows with
    | ok r => exact ⟨r, rfl⟩
    | error d =>
      obtain ⟨front, e, back, hsplit, -, hfails⟩ := ofRows_eq_error_iff.mp hrows
      exact absurd (faulty_iff.mpr ⟨d, hfails⟩) (h front e back hsplit)

/-- That no row is at fault can be said without their order: each row is complete, and no two have
one name. -/
theorem exists_ofRows_eq_ok_iff_complete : (∃ r, ofRows rows = .ok r) ↔
    (∀ e ∈ rows, e.Complete) ∧ (namesOf rows).Nodup := by
  constructor
  · rintro ⟨r, h⟩
    obtain ⟨hcomplete, hnodup, -⟩ := ofRows_eq_ok_iff.mp h
    exact ⟨hcomplete, hnodup⟩
  · rintro ⟨hcomplete, hnodup⟩
    refine exists_ofRows_eq_ok_iff.mpr ?_
    rintro before x after rfl (hname | hblank | hold)
    · exact (hcomplete x (by simp)).1 hname
    · have hshows := (hcomplete x (by simp)).2
      rw [hblank] at hshows
      cases hshows
    · rw [namesOf, List.map_append, List.map_cons, List.nodup_append] at hnodup
      exact hnodup.2.2 _ hold _ List.mem_cons_self rfl

/-- A row is complete if it has a name, and a description with a character that shows. -/
theorem complete_iff : e.Complete ↔
    e.name ≠ "" ∧ ∃ c ∈ e.description.toList, isWhiteSpace c = false := by
  simp [Entry.Complete, isBlank]

/-- A table is accepted if and only if every row has a name and a description that shows something,
and all names are different; otherwise it is refused for the first row at fault, and for what is
wrong with that row. So the order of the rows does not matter for being accepted, and the rows below
the first one at fault do not matter for why the table is refused. -/
theorem ofRows_firstFault (rows : List Entry) :
    ((∃ r, ofRows rows = .ok r) ↔
      (∀ e ∈ rows, e.name ≠ "" ∧ ∃ c ∈ e.description.toList, isWhiteSpace c = false) ∧
        (namesOf rows).Nodup) ∧
    (∀ d, ofRows rows = .error d ↔
      ∃ above e, FirstFault rows above e ∧ e.Fails (namesOf above) d) ∧
    (∀ rows' : List Entry, rows'.Perm rows →
      ((∃ r, ofRows rows' = .ok r) ↔ ∃ r, ofRows rows = .ok r)) ∧
    ∀ above e, FirstFault rows above e →
      ∀ below, ofRows (above ++ e :: below) = ofRows rows := by
  refine ⟨?_, fun d => ?_, fun rows' hperm => ?_, fun above e hfault below => ?_⟩
  · rw [exists_ofRows_eq_ok_iff_complete]
    simp only [complete_iff]
  · rw [ofRows_eq_error_iff]
    constructor
    · rintro ⟨front, e, back, hsplit, hfront, hfails⟩
      exact ⟨front, e, ⟨⟨back, hsplit⟩, faulty_iff.mpr ⟨d, hfails⟩,
        exists_ofRows_eq_ok_iff.mp hfront⟩, hfails⟩
    · rintro ⟨front, e, ⟨⟨back, hsplit⟩, -, hsound⟩, hfails⟩
      exact ⟨front, e, back, hsplit, exists_ofRows_eq_ok_iff.mpr hsound, hfails⟩
  · constructor
    · rintro ⟨r, h⟩
      exact ⟨r, ofRows_of_perm hperm.symm h⟩
    · rintro ⟨r, h⟩
      exact ⟨r, ofRows_of_perm hperm h⟩
  · obtain ⟨⟨back, rfl⟩, hfaulty, hsound⟩ := hfault
    obtain ⟨d, hfails⟩ := faulty_iff.mp hfaulty
    have hfront := exists_ofRows_eq_ok_iff.mpr hsound
    have refused (below : List Entry) : ofRows (above ++ e :: below) = .error d :=
      ofRows_eq_error_iff.mpr ⟨above, e, below, rfl, hfront, hfails⟩
    rw [refused, refused]

/-- A row that can stand in a table. -/
def traitRow : Entry := ⟨"trait", "Configure a trait", false⟩

/-- A row with the same name, described by white space beyond ASCII. -/
def blankRow : Entry := ⟨"trait", "\u3000\t", true⟩

/-- A table with two rows at fault. -/
def faultyRows : List Entry := [traitRow, blankRow, ⟨"", "", false⟩]

/-- The second row repeats a name, but that it shows nothing comes first. The third one has no name,
which is reported only where it stands above. -/
theorem ofRows_faultyRows :
    FirstFault faultyRows [traitRow] blankRow ∧
    ofRows faultyRows = .error (.emptyDescription "trait") ∧
    ofRows [traitRow, blankRow] = .error (.emptyDescription "trait") ∧
    ofRows faultyRows.reverse = .error .emptyName ∧ ¬ ∃ r, ofRows faultyRows.reverse = .ok r := by
  have hfault : FirstFault faultyRows [traitRow] blankRow := by
    refine ⟨⟨[⟨"", "", false⟩], rfl⟩, .inr (.inl rfl), fun before x after h => ?_⟩
    obtain ⟨rfl, hx⟩ | ⟨-, hx⟩ := List.singleton_eq_append_iff.mp h
    · obtain ⟨rfl, -⟩ := List.cons_eq_cons.mp hx
      rintro (hname | hblank | hold)
      · exact absurd hname (by decide)
      · cases hblank
      · exact absurd hold List.not_mem_nil
    · cases hx
  obtain ⟨-, refused, accepted, below⟩ := ofRows_firstFault faultyRows
  have hfails : ofRows faultyRows = .error (.emptyDescription "trait") :=
    (refused _).mpr ⟨[traitRow], blankRow, hfault, .emptyDescription (by decide) rfl⟩
  refine ⟨hfault, hfails, (below _ _ hfault []).trans hfails, rfl, fun hreverse => ?_⟩
  obtain ⟨r, hr⟩ := (accepted _ (List.reverse_perm _)).mp hreverse
  rw [hfails] at hr
  cases hr

end ModelineAssist.Registry
