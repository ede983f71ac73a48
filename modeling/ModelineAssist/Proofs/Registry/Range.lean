import ModelineAssist.Proofs.Matching.Disregard
import ModelineAssist.Proofs.Registry.Table

/-!
What starts with a typed text is a range of the names. Candidates stand in the order of their
labels, so those that start with a text stand together: they begin where the first label stands that
is not smaller than the text, and end where a label no longer starts with it. Looking for the two
ends is as good as looking at every label.
-/
namespace ModelineAssist.Registry
open Text Matching

variable {r : Registry} {rows : List Entry} {c : Candidate} {cs : List Candidate}
  {typed longer : String}

/-- A label starts with a typed text. -/
def Candidate.startsWith (typed : String) (c : Candidate) : Bool :=
  typed.toList.isPrefixOf c.label.toList

theorem startsWith_iff : c.startsWith typed = true ↔ typed.toList <+: c.label.toList :=
  List.isPrefixOf_iff_prefix

/-- The default policy looks at the front of a label. -/
theorem candidatesStarting_eq (r : Registry) (typed : String) :
    r.candidatesStarting typed = r.candidates.filter (Candidate.startsWith typed) := by
  refine List.filter_congr fun c _ => ?_
  have hfront : Strategy.front ≠ .scattered := nofun
  rw [Bool.eq_iff_iff, startsWith_iff]
  exact accepts_respect_iff hfront

theorem mem_candidatesStarting : c ∈ r.candidatesStarting typed ↔
    c ∈ r.candidates ∧ typed.toList <+: c.label.toList := by
  rw [candidatesStarting_eq, List.mem_filter, startsWith_iff]

/-! ### Candidates in the order of their labels -/

/-- Where a property holds of everything in front of what has it, a list is cut in two by it. -/
theorem filter_append_of_pairwise {α : Type} {p : α → Bool} {l : List α}
    (h : l.Pairwise fun x y => p y = true → p x = true) :
    l.filter p ++ l.filter (fun x => !p x) = l := by
  induction l with
  | nil => rfl
  | cons x xs ih =>
    obtain ⟨hx, hxs⟩ := List.pairwise_cons.mp h
    by_cases hp : p x = true
    · simp [hp, ih hxs]
    · have hnone : ∀ y ∈ xs, p y ≠ true := fun y hy hpy => hp (hx y hy hpy)
      have hall : ∀ y ∈ xs, (!p y) = true := fun y hy => by simp [hnone y hy]
      rw [List.filter_cons_of_neg hp, List.filter_cons_of_pos (by simp [hp]),
        List.filter_eq_nil_iff.mpr hnone, List.filter_eq_self.mpr hall]
      rfl

/-- Of labels that are not smaller than a text, those that start with it come first. -/
theorem exists_startsWith_append (hs : cs.Pairwise (·.label < ·.label))
    (hnot : ∀ c ∈ cs, ¬ c.label < typed) :
    ∃ back, cs.filter (Candidate.startsWith typed) ++ back = cs := by
  refine ⟨_, filter_append_of_pairwise (hs.imp_of_mem fun {x y} hx _ hxy hy => ?_)⟩
  refine startsWith_iff.mpr ?_
  exact isPrefix_of_between (startsWith_iff.mp hy) (hnot x hx) (String.lt_asymm hxy)

/-- No label that starts with a text is smaller than it. -/
theorem filter_startsWith_filter (typed : String) (cs : List Candidate) :
    (cs.filter fun c => !decide (c.label < typed)).filter (Candidate.startsWith typed) =
      cs.filter (Candidate.startsWith typed) := by
  rw [List.filter_filter]
  refine List.filter_congr fun c _ => ?_
  cases h : c.startsWith typed with
  | false => rfl
  | true =>
    have hnot : ¬ c.label < typed := not_lt_of_isPrefix (startsWith_iff.mp h)
    simp [hnot]

/-- Behind the labels that are smaller than a text stand those that start with it, and behind these
all others. -/
theorem exists_block (hs : cs.Pairwise (·.label < ·.label)) (typed : String) :
    ∃ front back, cs = front ++ (cs.filter (Candidate.startsWith typed) ++ back) ∧
      (∀ c ∈ front, c.label < typed) ∧
      ∀ c ∈ cs.filter (Candidate.startsWith typed) ++ back, ¬ c.label < typed := by
  have hsmaller : cs.Pairwise fun x y => decide (y.label < typed) = true →
      decide (x.label < typed) = true :=
    hs.imp fun hxy hy => decide_eq_true (String.lt_trans hxy (of_decide_eq_true hy))
  have hcut := filter_append_of_pairwise hsmaller
  have hnot : ∀ c ∈ cs.filter (fun c => !decide (c.label < typed)), ¬ c.label < typed :=
    fun c hc => by simpa using (List.mem_filter.mp hc).2
  obtain ⟨back, hblock⟩ := exists_startsWith_append (hs.filter _) hnot
  rw [filter_startsWith_filter] at hblock
  refine ⟨cs.filter fun c => decide (c.label < typed), back, ?_, fun c hc => ?_, fun c hc => ?_⟩
  · rw [hblock]
    exact hcut.symm
  · exact of_decide_eq_true (List.mem_filter.mp hc).2
  · rw [hblock] at hc
    exact hnot c hc

theorem pairwise_label_candidates (r : Registry) : r.candidates.Pairwise (·.label < ·.label) :=
  List.pairwise_map.mpr r.sorted

/-- For a longer text the candidates are a part of those for its front. -/
theorem candidatesStarting_infix (h : typed.toList <+: longer.toList) :
    r.candidatesStarting longer <:+: r.candidatesStarting typed := by
  have hsorted : (r.candidatesStarting typed).Pairwise (·.label < ·.label) :=
    (pairwise_label_candidates r).filter _
  obtain ⟨front, back, hsplit, -⟩ := exists_block hsorted longer
  have hlonger : (r.candidatesStarting typed).filter (Candidate.startsWith longer) =
      r.candidatesStarting longer := by
    rw [candidatesStarting_eq, candidatesStarting_eq, List.filter_filter]
    refine List.filter_congr fun c _ => ?_
    cases hc : c.startsWith longer with
    | false => rfl
    | true => rw [startsWith_iff.mpr (h.trans (startsWith_iff.mp hc))]; rfl
  rw [hlonger] at hsplit
  exact ⟨front, back, by rw [List.append_assoc, ← hsplit]⟩

/-- The candidates that start with a typed text are a range of all candidates, in the order of the
bytes of their labels. They are those whose labels start with the text, and no others; in front of
them stand the labels that are smaller than the text, and none of these behind; what stands between
two of them is one of them; and for a longer text they lie within those for its front. -/
theorem candidatesStarting_range (h : ofRows rows = .ok r) (typed : String) :
    (∀ c, c ∈ r.candidatesStarting typed ↔
      c ∈ r.candidates ∧ typed.toList <+: c.label.toList) ∧
    (∃ front back, r.candidates = front ++ (r.candidatesStarting typed ++ back) ∧
      (∀ c ∈ front, utf8 c.label < utf8 typed) ∧
      ∀ c ∈ r.candidatesStarting typed ++ back, ¬ utf8 c.label < utf8 typed) ∧
    (∀ x ∈ r.candidatesStarting typed, ∀ z ∈ r.candidatesStarting typed, ∀ y ∈ r.candidates,
      utf8 x.label < utf8 y.label → utf8 y.label < utf8 z.label →
        y ∈ r.candidatesStarting typed) ∧
    (∀ longer : String, typed.toList <+: longer.toList →
      r.candidatesStarting longer <:+: r.candidatesStarting typed) ∧
    r.candidates.Perm (rows.map Entry.candidate) := by
  obtain ⟨-, -, hperm⟩ := ofRows_eq_ok_iff.mp h
  refine ⟨fun c => mem_candidatesStarting, ?_, fun x hx z hz y hy hxy hyz => ?_,
    fun longer => candidatesStarting_infix, hperm.map Entry.candidate⟩
  · obtain ⟨front, back, hsplit, hfront, hback⟩ := exists_block (pairwise_label_candidates r) typed
    rw [← candidatesStarting_eq] at hsplit hback
    simp only [utf8_lt_utf8_iff]
    exact ⟨front, back, hsplit, hfront, hback⟩
  · rw [utf8_lt_utf8_iff] at hxy hyz
    have hxt : ¬ x.label < typed := not_lt_of_isPrefix (mem_candidatesStarting.mp hx).2
    have hyt : ¬ y.label < typed := fun hlt => hxt (String.lt_trans hxy hlt)
    exact mem_candidatesStarting.mpr ⟨hy,
      isPrefix_of_between (mem_candidatesStarting.mp hz).2 hyt (String.lt_asymm hyz)⟩

/-- A table with a name beyond the 16-bit characters, which comes last by its bytes. -/
def envRows : List Entry :=
  [⟨"env😀", "Set a mood", false⟩, ⟨"env", "Set an environment variable", false⟩,
    ⟨"dependency", "Add a dependency", false⟩, ⟨"env\uFFFD", "Set anything", true⟩]

/-- The registry of the same rows. -/
def envRegistry : Registry :=
  ⟨[⟨"dependency", "Add a dependency", false⟩, ⟨"env", "Set an environment variable", false⟩,
    ⟨"env\uFFFD", "Set anything", true⟩, ⟨"env😀", "Set a mood", false⟩], by decide⟩

/-- One name stands in front of those that start with the text. Another one stands between two of
them, so it starts with the text as well. -/
theorem candidatesStarting_env :
    ofRows envRows = .ok envRegistry ∧
    (∃ front, envRegistry.candidates = front ++ envRegistry.candidatesStarting "env" ∧
      front.map Candidate.label = ["dependency"]) ∧
    (⟨"env\uFFFD", "Set anything", [.deprecated]⟩ : Candidate) ∈
      envRegistry.candidatesStarting "env" ∧
    envRegistry.candidatesStarting "env😀" <:+: envRegistry.candidatesStarting "env" := by
  have made : ofRows envRows = .ok envRegistry := rfl
  obtain ⟨mem, -, between, longer, -⟩ := candidatesStarting_range made "env"
  have first := (mem ⟨"env", "Set an environment variable", []⟩).mpr
    ⟨by decide, List.isPrefixOf_iff_prefix.mp rfl⟩
  have last := (mem ⟨"env😀", "Set a mood", []⟩).mpr
    ⟨by decide, List.isPrefixOf_iff_prefix.mp rfl⟩
  refine ⟨made, ⟨[⟨"dependency", "Add a dependency", []⟩], rfl, rfl⟩, ?_, ?_⟩
  · exact between _ first _ last _ (by decide) (utf8_lt_utf8_iff.mpr (by decide))
      (utf8_lt_utf8_iff.mpr (by decide))
  · exact longer "env😀" (List.isPrefixOf_iff_prefix.mp rfl)

end ModelineAssist.Registry
