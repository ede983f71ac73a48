import ModelineAssist.Completion
import ModelineAssist.Hover
import ModelineAssist.Proofs.Text.Lines

/-!
What is offered and shown on a line depends on that line alone. It is what the line yields as a
document of its own, and the lines in front move the ranges down by their number. So whatever is
edited on other lines, the answers on this one stay the same, up to the number of the line.
-/
namespace ModelineAssist
open Text Modeline Registry

/-- The range as many lines further down. -/
def Range.movedDown (k : UInt32) (r : Range) : Range :=
  ⟨⟨r.start.line + k, r.start.character⟩, ⟨r.stop.line + k, r.stop.character⟩⟩

/-- The range at the same columns of one line. -/
def Range.movedTo (k : UInt32) (r : Range) : Range :=
  ⟨⟨k, r.start.character⟩, ⟨k, r.stop.character⟩⟩

/-- The same offer for another range. -/
def Offer.mapRange (f : Range → Range) (o : Offer) : Offer := { o with range := f o.range }

/-- The same description of another range. -/
def Description.mapRange (f : Range → Range) (d : Description) : Description :=
  { d with range := f d.range }

variable {before line after text text' : List Char} {k k' : UInt32} {column : UInt32}
  {settings : Settings} {f : Range → Range}

theorem Range.movedDown_onLine (start stop : Nat) :
    (Range.onLine 0 start stop).movedDown k = Range.onLine k start stop := by
  simp [Range.movedDown, Range.onLine]

theorem Range.movedTo_onLine (start stop : Nat) :
    (Range.onLine k start stop).movedTo k' = Range.onLine k' start stop := rfl

/-- What is offered depends on the text of one line, and only the ranges on its number. -/
theorem completion_eq_mapRange (h : line? text k.toNat = line? text' k'.toNat)
    (hf : ∀ start stop, f (Range.onLine k' start stop) = Range.onLine k start stop) :
    completion text ⟨k, column⟩ settings =
      (completion text' ⟨k', column⟩ settings).map (List.map (Offer.mapRange f)) := by
  unfold completion
  split
  · simp [h, hf, Option.map_bind, Function.comp_def, Offer.mapRange]
  · rfl

/-- What is shown depends on the text of one line, and only the range on its number. -/
theorem hover_eq_mapRange (h : line? text k.toNat = line? text' k'.toNat)
    (hf : ∀ start stop, f (Range.onLine k' start stop) = Range.onLine k start stop) :
    hover text ⟨k, column⟩ settings =
      (hover text' ⟨k', column⟩ settings).map (Description.mapRange f) := by
  unfold hover
  split
  · simp [h, hf, Option.map_bind, Function.comp_def, Description.mapRange]
  · rfl

/-- The answers on a line are those that it has as a document of its own, moved down by the number
of the breaks in front. So whatever other lines stand around it, the same options are offered, to
replace the same columns, and the same option is shown. -/
theorem answers_surrounded (hl : Unbroken line) (hb : Closed before) (ha : Opens after)
    (hk : k.toNat = breakCount before) (column : UInt32) (settings : Settings) :
    let text := before ++ line ++ after
    completion text ⟨k, column⟩ settings =
      (completion line ⟨0, column⟩ settings).map (List.map (Offer.mapRange (Range.movedDown k))) ∧
    hover text ⟨k, column⟩ settings =
      (hover line ⟨0, column⟩ settings).map (Description.mapRange (Range.movedDown k)) ∧
    ∀ before' after' k', Closed before' → Opens after' → k'.toNat = breakCount before' →
      let text' := before' ++ line ++ after'
      completion text' ⟨k', column⟩ settings =
        (completion text ⟨k, column⟩ settings).map
          (List.map (Offer.mapRange (Range.movedTo k'))) ∧
      hover text' ⟨k', column⟩ settings =
        (hover text ⟨k, column⟩ settings).map (Description.mapRange (Range.movedTo k')) := by
  have halone : line? (before ++ line ++ after) k.toNat = line? line 0 := by
    rw [hk, line?_surrounded hb hl ha]
  refine ⟨completion_eq_mapRange halone Range.movedDown_onLine,
    hover_eq_mapRange halone Range.movedDown_onLine, fun before' after' k' hb' ha' hk' => ?_⟩
  have hsame : line? (before' ++ line ++ after') k'.toNat =
      line? (before ++ line ++ after) k.toNat := by
    rw [halone, hk', line?_surrounded hb' hl ha']
  exact ⟨completion_eq_mapRange hsame Range.movedTo_onLine,
    hover_eq_mapRange hsame Range.movedTo_onLine⟩

/-- A modeline with an option behind a character of two columns. -/
def traitLine : List Char := "# camel-k: 😀 trait".toList

/-- Lines in front of it, one of which is ended by a line separator. -/
def linesAbove : List Char := "one\r\ntwo\u2028three\n".toList

/-- The end of its line, and another modeline. -/
def linesBelow : List Char := "\r\n# camel-k: name".toList

/-- On the fourth line the option is offered and shown as in the modeline alone, three lines further
down, and where the lines in front are gone, in the same columns of the first line. -/
theorem answers_surrounded_traitLine :
    (completion (linesAbove ++ traitLine ++ linesBelow) ⟨3, 17⟩ .default).map
      (List.map Offer.range) = some [⟨⟨3, 14⟩, ⟨3, 19⟩⟩] ∧
    (hover (linesAbove ++ traitLine ++ linesBelow) ⟨3, 17⟩ .default).map Description.range =
      some ⟨⟨3, 14⟩, ⟨3, 19⟩⟩ ∧
    (completion ([] ++ traitLine ++ linesBelow) ⟨0, 17⟩ .default).map (List.map Offer.range) =
      some [⟨⟨0, 14⟩, ⟨0, 19⟩⟩] := by
  have unbroken : Unbroken traitLine := by decide
  have closed : Closed linesAbove := by decide
  have opens : Opens linesBelow := by decide
  obtain ⟨offers, shown, others⟩ :=
    answers_surrounded unbroken closed opens (k := 3) rfl 17 .default
  refine ⟨?_, ?_, ?_⟩
  · rw [offers]
    rfl
  · rw [shown]
    rfl
  · rw [(others [] linesBelow 0 (by decide) opens rfl).1, offers]
    rfl

end ModelineAssist
