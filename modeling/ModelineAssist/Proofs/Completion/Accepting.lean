import Mathlib.Algebra.Group.Nat.Defs
import ModelineAssist.Completion
import ModelineAssist.Proofs.Modeline.Refill
import ModelineAssist.Proofs.Registry.Builtin
import ModelineAssist.Proofs.Registry.Lookup

/-!
What taking an offer does to the line. It writes the name of an option and a `=` over the stretch
around the cursor and touches nothing else: the marker stays, and of the tokens behind it only the
one at the cursor is replaced, or a new one is put in where there is none.
-/
namespace ModelineAssist
open Text Modeline Registry

/-- The line that taking an offer makes of a line. -/
def Offer.applyTo (o : Offer) (line : List Char) : List Char :=
  leftOf o.range.start.character.toNat line ++ o.newText.toList ++
    rightOf o.range.stop.character.toNat line

variable {text line : List Char} {place : Position} {settings : Settings} {offers : List Offer}
  {o : Offer}

theorem newText_eq (o : Offer) : o.newText.toList = o.candidate.label.toList ++ ['='] := by
  simp [Offer.newText]

/-- The offers that replace what is being typed by the name of an option. -/
def offersFor (place : Position) (settings : Settings) (typed : TypedName) : List Offer :=
  (builtin.candidatesFor settings.policy (String.ofList typed.text)).map fun candidate =>
    ⟨candidate, Range.onLine place.line typed.start typed.stop⟩

/-- There are offers where a name is being typed, if completions are on. -/
theorem completion_eq_some_iff : completion text place settings = some offers ↔
    settings.completions = true ∧ ∃ line typed, line? text place.line.toNat = some line ∧
      typedNameAt line place.character.toNat = some typed ∧
      offers = offersFor place settings typed := by
  unfold completion
  split
  · rename_i hon
    simp only [Option.bind_eq_some_iff, Option.map_eq_some_iff, hon, true_and]
    constructor
    · rintro ⟨line, hline, typed, htyped, rfl⟩
      exact ⟨line, typed, hline, htyped, rfl⟩
    · rintro ⟨line, typed, hline, htyped, rfl⟩
      exact ⟨line, hline, typed, htyped, rfl⟩
  · simp [*]

theorem mem_offersFor {typed : TypedName} (h : o ∈ offersFor place settings typed) :
    o.candidate ∈ builtin.candidates ∧
      o.range = Range.onLine place.line typed.start typed.stop := by
  obtain ⟨c, hc, rfl⟩ := List.mem_map.mp h
  exact ⟨mem_candidates_of_mem_candidatesFor hc, rfl⟩

/-- The offers at a place are made for a cut of its line. -/
theorem exists_cut_of_completion (h : completion text place settings = some offers)
    (hl : line? text place.line.toNat = some line) :
    ∃ k : Cut, k.line = line ∧ k.left = leftOf place.character.toNat line ∧ '=' ∉ k.stretch ∧
      ∀ o ∈ offers, o.candidate ∈ builtin.candidates ∧
        o.range = Range.onLine place.line k.start k.stop := by
  obtain ⟨-, line', typed, hl', htyped, rfl⟩ := completion_eq_some_iff.mp h
  obtain rfl := Option.some.inj (hl.symm.trans hl')
  obtain ⟨k, hline, hleft, heq, rfl⟩ := Cut.typedNameAt_eq_some_iff.mp htyped
  exact ⟨k, hline, hleft, heq, fun o ho => mem_offersFor ho⟩

theorem mem_candidates_of_mem_completion (h : completion text place settings = some offers)
    (hl : line? text place.line.toNat = some line) (ho : o ∈ offers) :
    o.candidate ∈ builtin.candidates := by
  obtain ⟨_, -, -, -, hoffers⟩ := exists_cut_of_completion h hl
  exact (hoffers o ho).1

theorem solid_newText (h : o.candidate ∈ builtin.candidates) : Solid o.newText.toList := by
  rw [newText_eq]
  exact solid_append.mpr ⟨solid_builtin_label h, fun c hc => List.mem_singleton.mp hc ▸ rfl⟩

theorem toNat_start_onLine {k : UInt32} {start : Nat} (stop : Nat) (h : start < 2 ^ 32) :
    (Range.onLine k start stop).start.character.toNat = start :=
  UInt32.toNat_ofNat_of_lt' h

theorem toNat_stop_onLine {k : UInt32} {stop : Nat} (start : Nat) (h : stop < 2 ^ 32) :
    (Range.onLine k start stop).stop.character.toNat = stop :=
  UInt32.toNat_ofNat_of_lt' h

/-- Taking an offer refills the cut that it is made for. -/
theorem applyTo_eq {k : Cut} (short : columns k.line < 2 ^ 32)
    (hr : o.range = Range.onLine place.line k.start k.stop) (hs : Solid o.newText.toList) :
    o.applyTo k.line = (k.refill o.newText.toList [] hs solid_nil).line := by
  have hstop : k.stop < 2 ^ 32 := Nat.lt_of_le_of_lt k.stop_le short
  have hstart : k.start < 2 ^ 32 := Nat.lt_of_le_of_lt k.start_le short
  rw [← Cut.replace_stretch, Offer.applyTo, hr, toNat_start_onLine _ hstart,
    toNat_stop_onLine _ hstop]

/-- Writing an option into a modeline at a column makes another line of it: behind the same marker,
the option takes the place of the token that the column touches or, where it touches none, comes
between the tokens left and right of the column. All other tokens stay as they are. -/
def WritesOption (option : List Char) (column : Nat) (line written : List Char) : Prop :=
  ∃ (marker : Nat) (left : List Token) (touched : Option Token) (right : List Token),
    markerLength? line = some marker ∧ markerLength? written = some marker ∧
    written.take marker = line.take marker ∧
    tokens (columns (line.take marker)) (line.drop marker) = left ++ touched.toList ++ right ∧
    (∀ t ∈ left, t.stop < column) ∧ (∀ t ∈ touched, t.touches column) ∧
    (∀ t ∈ right, column < t.start) ∧
    pieces (written.drop marker) = left.map Token.text ++ [option] ++ right.map Token.text

/-- Writing over the stretch of a cut writes an option. -/
theorem writesOption_refill (k : Cut) {option : List Char} (hs : Solid option) (hne : option ≠ []) :
    WritesOption option k.cursor k.line (k.refill option [] hs solid_nil).line := by
  refine ⟨k.marker.length, tokens (columns k.marker) k.front, k.token?, tokens k.stop k.rest,
    k.markerLength?_line, Cut.markerLength?_line _, ?_, ?_, ?_, ?_, ?_, ?_⟩
  · rw [k.take_line]
    exact (k.refill option [] hs solid_nil).take_line
  · rw [k.take_line, k.tokens_line]
  · intro t ht
    exact Nat.lt_of_lt_of_le (Cut.stop_lt_start ht) k.start_le_cursor
  · intro t ht
    exact Cut.touches_of_mem_token? ht
  · intro t ht
    exact Nat.lt_of_le_of_lt k.cursor_le_stop (Cut.stop_lt_of_mem_rest ht)
  · rw [Cut.pieces_refill hs hne, map_text_tokens, map_text_tokens]

/-- Taking an offer writes its name and a `=` at the cursor of the line that it was asked for. -/
theorem applyTo_writesOption (h : completion text place settings = some offers)
    (hl : line? text place.line.toNat = some line) (short : columns line < 2 ^ 32)
    (ho : o ∈ offers) :
    o.range.start.line = place.line ∧ o.range.stop.line = place.line ∧
      WritesOption (o.candidate.label.toList ++ ['=']) (columns (leftOf place.character.toNat line))
        line (o.applyTo line) := by
  obtain ⟨k, rfl, hleft, -, hoffers⟩ := exists_cut_of_completion h hl
  obtain ⟨hmem, hr⟩ := hoffers o ho
  refine ⟨by rw [hr]; rfl, by rw [hr]; rfl, ?_⟩
  rw [applyTo_eq short hr (solid_newText hmem), ← hleft, ← Cut.cursor, ← newText_eq]
  exact writesOption_refill k (solid_newText hmem) (by simp [newText_eq])

/-- A document whose second line is a modeline with a name that is being typed. -/
def draft : List Char := "x\n// camel-k: env=a depx name=b".toList

/-- The one offer for what is being typed in the draft. -/
def draftOffer : Offer := ⟨builtin.candidates[2], Range.onLine 1 18 22⟩

theorem completion_draft : completion draft ⟨1, 21⟩ .default = some [draftOffer] := by
  rfl

/-- One offer is made in the draft. Taking it replaces the name that is being typed, also what
stands behind the cursor. -/
theorem applyTo_draftOffer :
    completion draft ⟨1, 21⟩ .default = some [draftOffer] ∧
    line? draft 1 = some (draft.drop 2) ∧ columns (draft.drop 2) < 2 ^ 32 ∧
    draftOffer.applyTo (draft.drop 2) = "// camel-k: env=a dependency= name=b".toList ∧
    WritesOption "dependency=".toList 21 (draft.drop 2) (draftOffer.applyTo (draft.drop 2)) :=
  ⟨completion_draft, rfl, by decide, rfl,
    (applyTo_writesOption completion_draft rfl (by decide) List.mem_cons_self).2.2⟩

end ModelineAssist
