import ModelineAssist.Registry.Basic

/-!
What listing and looking up find. Both read the entries: a candidate is offered for one of them, and
the name of an entry finds that entry and no other.
-/
namespace ModelineAssist.Registry
open Text Matching

variable {r : Registry} {c : Candidate} {e : Entry} {policy : Policy} {typed : String}

/-- A candidate is tagged as deprecated if and only if its entry is. -/
theorem mem_tags_candidate (e : Entry) :
    Tag.deprecated ∈ e.candidate.tags ↔ e.deprecated = true := by
  cases h : e.deprecated <;> simp [Entry.candidate, h]

/-- The candidates for a typed text are candidates of the registry. -/
theorem mem_candidates_of_mem_candidatesFor (h : c ∈ r.candidatesFor policy typed) :
    c ∈ r.candidates :=
  (List.mem_filter.mp h).1

/-- A text that fits no other labels under a policy than another text does under its own has its
candidates among those of the other, in the same order. -/
theorem candidatesFor_sublist {stricter : Policy} {longer : String}
    (h : ∀ c ∈ r.candidates, stricter.accepts c.label.toList longer.toList = true →
      policy.accepts c.label.toList typed.toList = true) :
    (r.candidatesFor stricter longer).Sublist (r.candidatesFor policy typed) := by
  have hfilter : r.candidatesFor stricter longer =
      (r.candidatesFor policy typed).filter fun c =>
        stricter.accepts c.label.toList longer.toList := by
    rw [candidatesFor, candidatesFor, List.filter_filter]
    refine List.filter_congr fun c hc => ?_
    cases hlonger : stricter.accepts c.label.toList longer.toList with
    | false => rfl
    | true => rw [h c hc hlonger]; rfl
  rw [hfilter]
  exact List.filter_sublist

/-- The name of an entry finds the entry. -/
theorem get?_name (h : e ∈ r.entries) : r.get? e.name = some e := by
  obtain ⟨front, back, hsplit⟩ := List.append_of_mem h
  have hsorted := r.sorted
  rw [hsplit] at hsorted
  obtain ⟨-, -, hfront⟩ := List.pairwise_append.mp hsorted
  refine List.find?_eq_some_iff_append.mpr ⟨beq_self_eq_true e.name, front, back, hsplit, ?_⟩
  intro x hx
  have hlt : x.name < e.name := hfront x hx e List.mem_cons_self
  have hne : x.name ≠ e.name := fun heq => String.lt_irrefl _ (heq ▸ hlt)
  simp [hne]

/-- Looking up finds the entry that has the name, and nothing else. -/
theorem get?_eq_some_iff {name : String} :
    r.get? name = some e ↔ e ∈ r.entries ∧ e.name = name := by
  constructor
  · intro h
    exact ⟨List.mem_of_find?_eq_some h, by simpa using List.find?_some h⟩
  · rintro ⟨he, rfl⟩
    exact get?_name he

/-- Behind a candidate is an entry that its label finds. -/
theorem exists_entry_of_mem_candidates (h : c ∈ r.candidates) :
    ∃ e, r.get? c.label = some e ∧ e.candidate = c := by
  obtain ⟨e, he, rfl⟩ := List.mem_map.mp h
  exact ⟨e, get?_name he, rfl⟩

end ModelineAssist.Registry
