import ModelineAssist.Hover
import ModelineAssist.Proofs.Completion.Accepting

/-!
What is typed and what is read at one cursor. A name is being typed at a cursor that touches a
token if and only if a name is read there and the token holds no `=`, and then both are the same
stretch of the line. So what an offer replaces is what hovering shows the range of.
-/
namespace ModelineAssist
open Text Modeline

variable {line : List Char} {column : Nat} {t u : Token} {p : TypedName} {s : NameSpan}

/-! ### Tokens of a modeline -/

/-- A token stands in a modeline: behind the marker, with white space or an end at both its ends. -/
def HasToken (line : List Char) (t : Token) : Prop :=
  ∃ marker front rest, IsMarker marker ∧ EndsLoose front ∧ StartsLoose rest ∧
    Solid t.text ∧ t.text ≠ [] ∧ line = marker ++ front ++ t.text ++ rest ∧
    t.start = columns (marker ++ front)

/-- Two tokens of a line that start at one column are the same. -/
theorem HasToken.eq_of_start (ht : HasToken line t) (hu : HasToken line u)
    (hstart : t.start = u.start) : t = u := by
  obtain ⟨marker, front, rest, -, -, hrest, hsolid, -, hline, hcolumn⟩ := ht
  obtain ⟨marker', front', rest', -, -, hrest', hsolid', -, hline', hcolumn'⟩ := hu
  -- Both lie behind what is left of the column at which they start.
  have hleft : marker ++ front = leftOf t.start line := by
    rw [hline, hcolumn, List.append_assoc, leftOf_columns_append]
  have hleft' : marker' ++ front' = leftOf u.start line := by
    rw [hline', hcolumn', List.append_assoc, leftOf_columns_append]
  have hright : t.text ++ rest = u.text ++ rest' := by
    have hwhole : marker ++ front ++ (t.text ++ rest) = marker' ++ front' ++ (u.text ++ rest') := by
      rw [← List.append_assoc, ← hline, ← List.append_assoc, ← hline']
    rw [hleft, hleft', hstart] at hwhole
    exact List.append_cancel_left hwhole
  have htext : t.text = u.text := by
    rw [← Cut.takeWhile_isSolid_append hsolid hrest, hright,
      Cut.takeWhile_isSolid_append hsolid' hrest']
  rw [Token.mk.injEq]
  exact ⟨hstart, htext⟩

/-- The stretch around a cursor is a token of the line, if there is any. -/
theorem hasToken_stretch {k : Cut} (hne : k.stretch ≠ []) :
    HasToken k.line ⟨k.start, k.stretch⟩ :=
  ⟨k.marker, k.front, k.rest, k.marked, k.front_loose, k.rest_loose, k.solid_stretch, hne, rfl, rfl⟩

/-! ### One cursor -/

/-- Of the cut at a column, what is left of the cursor tells the parts of the stretch. -/
theorem before_eq_leftOf (k : Cut) : k.before = leftOf (k.cursor - k.start) k.stretch := by
  rw [k.cursor_eq, Nat.add_sub_cancel_left, Cut.stretch, leftOf_columns_append]

/-- What is read at a cut without a `=` is its stretch. -/
theorem eq_of_nameAt_line {k : Cut} (h : leftOf column k.line = k.left) (hplain : '=' ∉ k.stretch)
    (hs : nameAt k.line column = some s) :
    k.stretch ≠ [] ∧ s = ⟨k.stretch, k.start, k.stop⟩ := by
  rw [Cut.nameAt_line_of_not_mem h hplain] at hs
  by_cases hne : k.stretch = []
  · simp [hne] at hs
  · rw [if_neg hne] at hs
    exact ⟨hne, (Option.some.inj hs).symm⟩

/-- Where a name is both typed and read, both are the stretch at one cut. -/
theorem exists_cut_of_both (hp : typedNameAt line column = some p)
    (hs : nameAt line column = some s) : ∃ k : Cut, k.line = line ∧
      k.left = leftOf column line ∧ '=' ∉ k.stretch ∧ k.stretch ≠ [] ∧
      p = ⟨k.before, k.start, k.stop⟩ ∧ s = ⟨k.stretch, k.start, k.stop⟩ := by
  obtain ⟨k, rfl, hleft, hplain, rfl⟩ := Cut.typedNameAt_eq_some_iff.mp hp
  obtain ⟨hne, rfl⟩ := eq_of_nameAt_line hleft.symm hplain hs
  exact ⟨k, rfl, hleft, hplain, hne, rfl, rfl⟩

/-- A name that is read is the name of exactly one token, the one that starts with it. -/
theorem exists_token_of_nameAt (hs : nameAt line column = some s) :
    ∃ t, HasToken line t ∧ t.start = s.start ∧ t.name = s.name ∧
      ∀ u, HasToken line u → u.start = s.start → u = t := by
  obtain ⟨k, rfl, -, hne, -, rfl⟩ := Cut.nameAt_eq_some_iff.mp hs
  have htoken := hasToken_stretch (Cut.stretch_ne_nil hne)
  exact ⟨_, htoken, rfl, rfl, fun u hu hstart => hu.eq_of_start htoken hstart⟩

/-- A name is being typed at a cursor that touches a token if and only if a name is read there and
its token holds no `=`. -/
theorem typed_iff_read : (∃ p, typedNameAt line column = some p ∧ p.start < p.stop) ↔
    ∃ s t, nameAt line column = some s ∧ HasToken line t ∧ t.start = s.start ∧ '=' ∉ t.text := by
  constructor
  · rintro ⟨p, hp, hlt⟩
    obtain ⟨k, rfl, hleft, hplain, rfl⟩ := Cut.typedNameAt_eq_some_iff.mp hp
    have hne : k.stretch ≠ [] := Cut.start_lt_stop_iff.mp hlt
    refine ⟨⟨k.stretch, k.start, k.stop⟩, ⟨k.start, k.stretch⟩, ?_, hasToken_stretch hne, rfl,
      hplain⟩
    rw [Cut.nameAt_line_of_not_mem hleft.symm hplain, if_neg hne]
  · rintro ⟨s, t, hs, ht, hstart, hplain⟩
    obtain ⟨k, rfl, hleft, hne, -, rfl⟩ := Cut.nameAt_eq_some_iff.mp hs
    have hstretch := Cut.stretch_ne_nil hne
    obtain rfl := ht.eq_of_start (hasToken_stretch hstretch) hstart
    refine ⟨_, Cut.typedNameAt_eq_some_iff.mpr ⟨k, rfl, hleft, hplain, rfl⟩, ?_⟩
    exact Cut.start_lt_stop_iff.mpr hstretch

/-- Where the token of the name that is read holds a `=`, no name is being typed. -/
theorem typedNameAt_eq_none_of_mem (hs : nameAt line column = some s) (ht : HasToken line t)
    (hstart : t.start = s.start) (hmem : '=' ∈ t.text) : typedNameAt line column = none := by
  cases hp : typedNameAt line column with
  | none => rfl
  | some p =>
    obtain ⟨k, rfl, -, hplain, hne, -, rfl⟩ := exists_cut_of_both hp hs
    obtain rfl := ht.eq_of_start (hasToken_stretch hne) hstart
    exact absurd hmem hplain

/-! ### Documents -/

variable {text : List Char} {place : Position} {settings settings' : Settings}
  {offers : List Offer} {o : Offer} {d : Description}

/-- A description is shown where the name of a known option is read, if hovering is on. -/
theorem hover_eq_some_iff : hover text place settings = some d ↔
    settings.hover = true ∧ ∃ line span, line? text place.line.toNat = some line ∧
      nameAt line place.character.toNat = some span ∧
      Registry.builtin.get? (String.ofList span.name) = some d.entry ∧
      d.range = Range.onLine place.line span.start span.stop := by
  unfold hover
  split
  · rename_i hon
    simp only [Option.bind_eq_some_iff, Option.map_eq_some_iff, hon, true_and]
    constructor
    · rintro ⟨line, hline, span, hspan, entry, hentry, rfl⟩
      exact ⟨line, span, hline, hspan, hentry, rfl⟩
    · rintro ⟨line, span, hline, hspan, hentry, hrange⟩
      refine ⟨line, hline, span, hspan, d.entry, hentry, ?_⟩
      rw [← hrange]
  · simp [*]

/-- What is replaced by an offer is what hovering shows the range of. -/
theorem range_eq_of_both (hc : completion text place settings = some offers)
    (hh : hover text place settings' = some d) (ho : o ∈ offers) : o.range = d.range := by
  obtain ⟨-, line, span, hline, hspan, -, hd⟩ := hover_eq_some_iff.mp hh
  obtain ⟨k, rfl, hleft, hplain, hoffers⟩ := exists_cut_of_completion hc hline
  obtain ⟨-, rfl⟩ := eq_of_nameAt_line hleft.symm hplain hspan
  rw [(hoffers o ho).2, hd]

/-- At one cursor, a name is being typed that is more than an empty one if and only if a name is
read whose token holds no `=`. Both have one range then, and what is being typed is what the name
has left of the cursor. Where the token does hold a `=`, no name is being typed. The token is the
one that starts where the name does, and there is just one. So in a document, what any offer
replaces is what hovering at the same place shows the range of. -/
theorem typedNameAt_agrees_nameAt (line : List Char) (column : Nat) :
    ((∃ p, typedNameAt line column = some p ∧ p.start < p.stop) ↔
      ∃ s t, nameAt line column = some s ∧ HasToken line t ∧ t.start = s.start ∧ '=' ∉ t.text) ∧
    (∀ p s, typedNameAt line column = some p → nameAt line column = some s →
      let cursor := columns (leftOf column line)
      s.start = p.start ∧ s.stop = p.stop ∧ p.start ≤ cursor ∧ cursor ≤ p.stop ∧
        p.text = leftOf (cursor - s.start) s.name) ∧
    (∀ s t, nameAt line column = some s → HasToken line t → t.start = s.start → '=' ∈ t.text →
      typedNameAt line column = none) ∧
    (∀ s, nameAt line column = some s → ∃ t, HasToken line t ∧ t.start = s.start ∧
      t.name = s.name ∧ ∀ u, HasToken line u → u.start = s.start → u = t) ∧
    (∀ text place settings settings' offers d, completion text place settings = some offers →
      hover text place settings' = some d → ∀ o ∈ offers, o.range = d.range) := by
  refine ⟨typed_iff_read, ?_, ?_, ?_, ?_⟩
  · intro p s hp hs
    obtain ⟨k, rfl, hleft, -, -, rfl, rfl⟩ := exists_cut_of_both hp hs
    rw [← hleft, ← Cut.cursor]
    exact ⟨rfl, rfl, k.start_le_cursor, k.cursor_le_stop, before_eq_leftOf k⟩
  · intro s t hs ht hstart hmem
    exact typedNameAt_eq_none_of_mem hs ht hstart hmem
  · intro s hs
    exact exists_token_of_nameAt hs
  · intro text place settings settings' offers d hc hh o ho
    exact range_eq_of_both hc hh ho

/-- A modeline with an option behind a character of two columns. -/
def wideLine : List Char := "# camel-k: 😀=1 trait".toList

/-- Within the last option of the line a name is both typed and read, and what is offered there
replaces what hovering shows the range of. At the option with a `=` a name is only read. -/
theorem typedNameAt_agrees_wideLine :
    typedNameAt wideLine 18 = some ⟨"tr".toList, 16, 21⟩ ∧
    (∃ s t, nameAt wideLine 18 = some s ∧ HasToken wideLine t ∧ t.start = s.start ∧
      '=' ∉ t.text ∧ s.start = 16 ∧ s.stop = 21 ∧ "tr".toList = leftOf 2 s.name) ∧
    (∃ offers d, completion wideLine ⟨0, 18⟩ .default = some offers ∧ offers ≠ [] ∧
      hover wideLine ⟨0, 18⟩ .default = some d ∧ ∀ o ∈ offers, o.range = d.range) ∧
    nameAt wideLine 12 = some ⟨"😀".toList, 11, 13⟩ ∧
    HasToken wideLine ⟨11, "😀=1".toList⟩ ∧ typedNameAt wideLine 12 = none := by
  have typed : typedNameAt wideLine 18 = some ⟨"tr".toList, 16, 21⟩ := rfl
  have read : nameAt wideLine 12 = some ⟨"😀".toList, 11, 13⟩ := rfl
  have token : HasToken wideLine ⟨11, "😀=1".toList⟩ :=
    ⟨"# camel-k:".toList, [' '], " trait".toList, ⟨[], hash, [' '], rfl, rfl, .inr rfl, rfl⟩,
      by decide, by decide, by decide, by decide, rfl, rfl⟩
  obtain ⟨both, same, -, -, ranges⟩ := typedNameAt_agrees_nameAt wideLine 18
  obtain ⟨s, t, hs, ht, hstart, hplain⟩ := both.mp ⟨_, typed, by decide⟩
  obtain ⟨hs16, hs21, -, -, htext⟩ := same _ s typed hs
  refine ⟨typed, ⟨s, t, hs, ht, hstart, hplain, hs16, hs21, ?_⟩, ?_, read, token, ?_⟩
  · rw [hs16] at htext
    exact htext
  · refine ⟨_, _, rfl, by decide, rfl, ?_⟩
    exact ranges wideLine ⟨0, 18⟩ .default .default _ _ rfl rfl
  · exact (typedNameAt_agrees_nameAt wideLine 12).2.2.1 _ _ read token rfl (by decide)

end ModelineAssist
