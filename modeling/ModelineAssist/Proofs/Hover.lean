import ModelineAssist.Proofs.Modeline.Scan

/-!
What hovering shows, and where. A description is shown where the line is cut in the name of a known
option or just behind it, and it is the one of that option. Its range is where the name stands, and
from every column of the range the same description is shown.
-/
namespace ModelineAssist
open Text Modeline Registry

variable {text line : List Char} {place : Position} {settings : Settings} {column : Nat}
  {t : Token} {s : NameSpan} {d : Description} {e : Entry}

/-- A column cuts the line in the name of one of its tokens, the part in front of the first `=`, or
just behind the name. -/
def OnName (line : List Char) (column : Nat) (t : Token) : Prop :=
  HasToken line t ∧ ∃ part, IsLeftOf column line part ∧ t.start ≤ columns part ∧
    columns part ≤ t.start + columns (t.text.takeWhile (· != '='))

/-! ### Names in a line -/

theorem onName_iff : OnName line column t ↔ HasToken line t ∧
    t.start ≤ columns (leftOf column line) ∧ columns (leftOf column line) ≤ t.nameStop := by
  constructor
  · rintro ⟨ht, part, hpart, hstart, hstop⟩
    obtain rfl := isLeftOf_iff.mp hpart
    exact ⟨ht, hstart, hstop⟩
  · rintro ⟨ht, hstart, hstop⟩
    exact ⟨ht, leftOf column line, isLeftOf_leftOf column line, hstart, hstop⟩

/-- What is read at a column depends on where it cuts the line. -/
theorem nameAt_columns_leftOf (line : List Char) (column : Nat) :
    nameAt line (columns (leftOf column line)) = nameAt line column := by
  simp only [nameAt, leftOf_columns_leftOf]

/-- The name of a token is read exactly where the line is cut in it or just behind it. -/
theorem nameAt_eq_some_iff_onName : nameAt line column = some s ↔
    ∃ t, OnName line column t ∧ t.name ≠ [] ∧ s = t.span := by
  have hle : columns (leftOf column line) ≤ columns line :=
    columns_le_of_isPrefix (leftOf_isPrefix column line)
  rw [← nameAt_columns_leftOf, nameAt_eq_some_iff_hasToken, Nat.min_eq_left hle]
  constructor
  · rintro ⟨t, ht, hne, hstart, hstop, rfl⟩
    exact ⟨t, onName_iff.mpr ⟨ht, hstart, hstop⟩, hne, rfl⟩
  · rintro ⟨t, ht, hne, rfl⟩
    obtain ⟨htoken, hstart, hstop⟩ := onName_iff.mp ht
    exact ⟨t, htoken, hne, hstart, hstop, rfl⟩

/-- The name of a token stands in the line from the column at which the token starts. -/
theorem exists_append_of_hasToken (h : HasToken line t) : ∃ front rest,
    line = front ++ t.name ++ rest ∧ t.start = columns front ∧
      t.nameStop = columns (front ++ t.name) := by
  obtain ⟨marker, front, rest, -, -, -, -, -, rfl, hstart⟩ := h
  obtain ⟨value, hvalue⟩ := name_isPrefix t
  refine ⟨marker ++ front, value ++ rest, ?_, hstart, ?_⟩
  · rw [← hvalue]
    simp only [List.append_assoc]
  · rw [columns_append _ t.name, ← hstart]
    rfl

/-- Every column from the first one of a name to the one behind its end cuts the line in the name or
just behind it. -/
theorem onName_of_within (h : HasToken line t) (hstart : t.start ≤ column)
    (hstop : column ≤ t.nameStop) : OnName line column t := by
  refine onName_iff.mpr ⟨h, ?_, ?_⟩
  · obtain ⟨front, rest, hline, hfront, -⟩ := exists_append_of_hasToken h
    have hprefix : front <+: line := ⟨t.name ++ rest, by rw [hline, List.append_assoc]⟩
    rw [hfront] at hstart ⊢
    exact columns_le_of_isPrefix (isPrefix_leftOf hprefix hstart)
  · exact Nat.le_trans (columns_leftOf_le column line) hstop

/-! ### Descriptions -/

theorem builtin_name_ne_nil (h : e ∈ builtin.entries) : e.name.toList ≠ [] :=
  builtin_label_ne_nil (List.mem_map_of_mem h)

/-- A description is shown exactly where the name of its entry is, if hovering is on. -/
theorem hover_eq_some_iff_onName : hover text place settings = some d ↔
    settings.hover = true ∧ ∃ line t, line? text place.line.toNat = some line ∧
      OnName line place.character.toNat t ∧ d.entry ∈ builtin.entries ∧
      t.name = d.entry.name.toList ∧ d.range = Range.onLine place.line t.start t.nameStop := by
  rw [hover_eq_some_iff]
  refine and_congr_right fun _ => ?_
  constructor
  · rintro ⟨line, span, hline, hspan, hentry, hrange⟩
    obtain ⟨t, ht, -, rfl⟩ := nameAt_eq_some_iff_onName.mp hspan
    obtain ⟨hmem, hname⟩ := get?_eq_some_iff.mp hentry
    refine ⟨line, t, hline, ht, hmem, ?_, hrange⟩
    rw [hname, String.toList_ofList]
    rfl
  · rintro ⟨line, t, hline, ht, hmem, hname, hrange⟩
    have hne : t.name ≠ [] := hname ▸ builtin_name_ne_nil hmem
    refine ⟨line, t.span, hline, nameAt_eq_some_iff_onName.mpr ⟨t, ht, hne, rfl⟩, ?_, hrange⟩
    refine get?_eq_some_iff.mpr ⟨hmem, ?_⟩
    show d.entry.name = String.ofList t.name
    rw [hname, String.ofList_toList]

/-- The range of a description holds the columns of a name without truncating them. -/
theorem toNat_range_of_hasToken {k : UInt32} (h : HasToken line t) (short : columns line < 2 ^ 32)
    (hr : d.range = Range.onLine k t.start t.nameStop) :
    d.range.start.character.toNat = t.start ∧ d.range.stop.character.toNat = t.nameStop := by
  obtain ⟨front, rest, hline, -, hstop⟩ := exists_append_of_hasToken h
  have hle : t.nameStop ≤ columns line := by
    rw [hstop]
    exact columns_le_of_isPrefix ⟨rest, hline.symm⟩
  have hstart := start_le_nameStop t
  rw [hr]
  exact ⟨toNat_start_onLine _ (by omega), toNat_stop_onLine _ (by omega)⟩

/-- From every column of the range of a description, the same description is shown. -/
theorem hover_of_within (h : hover text place settings = some d)
    (short : ∀ line, line? text place.line.toNat = some line → columns line < 2 ^ 32)
    {column : UInt32} (hstart : d.range.start.character ≤ column)
    (hstop : column ≤ d.range.stop.character) :
    hover text ⟨place.line, column⟩ settings = some d := by
  obtain ⟨hon, line, t, hline, ht, hmem, hname, hrange⟩ := hover_eq_some_iff_onName.mp h
  obtain ⟨hfirst, hlast⟩ := toNat_range_of_hasToken ht.1 (short line hline) hrange
  rw [UInt32.le_iff_toNat_le] at hstart hstop
  rw [hfirst] at hstart
  rw [hlast] at hstop
  exact hover_eq_some_iff_onName.mpr
    ⟨hon, line, t, hline, onName_of_within ht.1 hstart hstop, hmem, hname, hrange⟩

/-- Whether to hover is the one setting that matters. -/
theorem hover_congr {settings' : Settings} (h : settings'.hover = settings.hover) :
    hover text place settings' = hover text place settings := by
  simp only [hover, h]

/-- A description is shown if and only if hovering is on, the document has the line, and the column
cuts the line within the name of a known option or just behind it, where a name is the part of a
token behind the marker in front of its first `=`. The description is the one that the registry has
for that name, with a note if the option is deprecated. Its range lies on the line asked for and
holds just the name, and from every column of the range the same description is shown. Of the
settings, only whether to hover matters. -/
theorem hover_exact
    (short : ∀ line, line? text place.line.toNat = some line → columns line < 2 ^ 32) :
    ((hover text place settings).isSome = true ↔ settings.hover = true ∧
      ∃ line t e, line? text place.line.toNat = some line ∧
        OnName line place.character.toNat t ∧ e ∈ builtin.entries ∧
        t.text.takeWhile (· != '=') = e.name.toList) ∧
    (∀ d, hover text place settings = some d →
      (∃ line t front rest, line? text place.line.toNat = some line ∧
        OnName line place.character.toNat t ∧ t.start = columns front ∧
        t.text.takeWhile (· != '=') = d.entry.name.toList ∧
        line = front ++ d.entry.name.toList ++ rest ∧
        d.range.start.line = place.line ∧ d.range.stop.line = place.line ∧
        d.range.start.character.toNat = columns front ∧
        d.range.stop.character.toNat = columns (front ++ d.entry.name.toList)) ∧
      builtin.get? d.entry.name = some d.entry ∧
      d.markdown = s!"**{d.entry.name}**\n\n{d.entry.description}" ++
        (if d.entry.deprecated then "\n\n*Deprecated*" else "") ∧
      ∀ column, d.range.start.character ≤ column → column ≤ d.range.stop.character →
        hover text ⟨place.line, column⟩ settings = some d) ∧
    ∀ settings', settings'.hover = settings.hover →
      hover text place settings' = hover text place settings := by
  refine ⟨?_, fun d h => ⟨?_, ?_, rfl, ?_⟩, fun settings' h => hover_congr h⟩
  · rw [Option.isSome_iff_exists]
    simp only [hover_eq_some_iff_onName]
    constructor
    · rintro ⟨d, hon, line, t, hline, ht, hmem, hname, -⟩
      exact ⟨hon, line, t, d.entry, hline, ht, hmem, hname⟩
    · rintro ⟨hon, line, t, e, hline, ht, hmem, hname⟩
      exact ⟨⟨e, _⟩, hon, line, t, hline, ht, hmem, hname, rfl⟩
  · obtain ⟨-, line, t, hline, ht, -, hname, hrange⟩ := hover_eq_some_iff_onName.mp h
    obtain ⟨front, rest, happend, hfront, hback⟩ := exists_append_of_hasToken ht.1
    obtain ⟨hfirst, hlast⟩ := toNat_range_of_hasToken ht.1 (short line hline) hrange
    rw [← hname]
    refine ⟨line, t, front, rest, hline, ht, hfront, rfl, happend, ?_, ?_, ?_, ?_⟩
    · rw [hrange]; rfl
    · rw [hrange]; rfl
    · rw [hfirst, hfront]
    · rw [hlast, hback]
  · obtain ⟨-, line, t, -, -, hmem, -⟩ := hover_eq_some_iff_onName.mp h
    exact get?_name hmem
  · intro column hstart hstop
    exact hover_of_within h short hstart hstop

/-- A modeline with a deprecated option behind a character of two columns. -/
def describedLine : List Char := "# camel-k: 😀=1 property-file=a".toList

/-- The description of the option as the second line of a document. -/
def shownLine : Description := ⟨builtin.entries[9], Range.onLine 1 16 29⟩

/-- The option is described within its name and just behind it, also where other settings are made,
and nothing is shown in its value. -/
theorem hover_exact_describedLine :
    (hover ('x' :: '\n' :: describedLine) ⟨1, 20⟩ .default).isSome = true ∧
    hover ('x' :: '\n' :: describedLine) ⟨1, 29⟩ .default = some shownLine ∧
    hover ('x' :: '\n' :: describedLine) ⟨1, 20⟩ ⟨false, true, .scattered, .ignore⟩ =
      some shownLine ∧
    builtin.get? "property-file" = some shownLine.entry ∧
    (∃ front rest, describedLine = front ++ "property-file".toList ++ rest ∧ columns front = 16) ∧
    hover ('x' :: '\n' :: describedLine) ⟨1, 30⟩ .default = none := by
  have hline : line? ('x' :: '\n' :: describedLine) 1 = some describedLine := rfl
  have short : ∀ line, line? ('x' :: '\n' :: describedLine) 1 = some line →
      columns line < 2 ^ 32 := by
    intro line h
    obtain rfl := Option.some.inj (hline.symm.trans h)
    decide
  have shown : hover ('x' :: '\n' :: describedLine) ⟨1, 20⟩ .default = some shownLine := rfl
  have onName : OnName describedLine 20 ⟨16, "property-file=a".toList⟩ :=
    ⟨⟨"# camel-k:".toList, " 😀=1 ".toList, [], ⟨[], hash, [' '], rfl, rfl, .inr rfl, rfl⟩,
      by decide, by decide, by decide, by decide, rfl, rfl⟩,
      _, isLeftOf_leftOf _ _, by decide, by decide⟩
  have exact := @hover_exact ('x' :: '\n' :: describedLine) ⟨1, 20⟩ .default short
  obtain ⟨some_iff, each, settings⟩ := exact
  obtain ⟨⟨line, t, front, rest, hline', -, -, -, happend, -, -, hstart, -⟩, hget, -, within⟩ :=
    each shownLine shown
  refine ⟨some_iff.mpr ⟨rfl, _, _, _, hline, onName, List.getElem_mem (n := 9) (by decide), rfl⟩,
    within 29 (by decide) (by decide), (settings _ rfl).trans shown, hget, ?_, rfl⟩
  obtain rfl := Option.some.inj (hline.symm.trans hline')
  exact ⟨front, rest, happend, hstart.symm⟩

end ModelineAssist
