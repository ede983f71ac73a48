import ModelineAssist.Proofs.Modeline.Cut

/-!
A modeline with another stretch in place of the one around the cursor. Replacing the stretch, typing
on at the cursor and moving the cursor within the stretch all give a cut again that differs in its
stretch alone.
-/
namespace ModelineAssist.Modeline
open Text

namespace Cut

variable {k : Cut} {before after : List Char} {column : Nat}

/-- The cut with other solid characters around the cursor. -/
def refill (k : Cut) (before after : List Char) (hb : Solid before) (ha : Solid after) : Cut :=
  { k with before, after, before_solid := hb, after_solid := ha }

theorem line_refill {hb : Solid before} {ha : Solid after} :
    (k.refill before after hb ha).line = k.marker ++ k.front ++ (before ++ after) ++ k.rest := rfl

theorem left_refill {hb : Solid before} {ha : Solid after} :
    (k.refill before after hb ha).left = k.marker ++ k.front ++ before := rfl

theorem start_refill {hb : Solid before} {ha : Solid after} :
    (k.refill before after hb ha).start = k.start := rfl

theorem stretch_refill {hb : Solid before} {ha : Solid after} :
    (k.refill before after hb ha).stretch = before ++ after := rfl

/-! ### Replacing the stretch -/

theorem leftOf_start (k : Cut) : leftOf k.start k.line = k.marker ++ k.front := by
  rw [line, List.append_assoc]
  exact leftOf_columns_append _ _

theorem rightOf_stop (k : Cut) : rightOf k.stop k.line = k.rest := by
  rw [line, stop]
  exact rightOf_columns_append _ _

/-- Writing over the stretch refills the cut. -/
theorem replace_stretch (k : Cut) (hb : Solid before) :
    leftOf k.start k.line ++ before ++ rightOf k.stop k.line =
      (k.refill before [] hb solid_nil).line := by
  rw [leftOf_start, rightOf_stop, line_refill, List.append_nil]

/-- The pieces of a refilled cut are those of the parts around the stretch and the new stretch. -/
theorem pieces_refill (hb : Solid before) (hne : before ≠ []) :
    pieces ((k.refill before [] hb solid_nil).line.drop k.marker.length) =
      pieces k.front ++ [before] ++ pieces k.rest := by
  have htoken : (k.refill before [] hb solid_nil).token? = some ⟨k.start, before⟩ := by
    simp [token?, stretch, refill, start, hne]
  have htokens := congrArg (List.map Token.text) (k.refill before [] hb solid_nil).tokens_line
  rw [htoken, map_text_tokens, List.map_append, List.map_append, map_text_tokens,
    map_text_tokens] at htokens
  exact htokens

/-! ### Typing on -/

/-- Typing at the cursor adds to the part of the stretch left of it. -/
theorem insert_cursor {typed : List Char} (h : leftOf column k.line = k.left)
    (hb : Solid (k.before ++ typed)) :
    leftOf column k.line ++ typed ++ rightOf column k.line =
      (k.refill (k.before ++ typed) k.after hb k.after_solid).line := by
  rw [h, rightOf_line h, line_refill, left]
  simp only [List.append_assoc]

/-! ### Moving the cursor -/

/-- At a column of the stretch the line is cut at the same stretch. -/
theorem exists_move (k : Cut) (hstart : k.start ≤ column) (hstop : column ≤ k.stop) :
    ∃ k' : Cut, k'.line = k.line ∧ k'.left = leftOf column k.line ∧ k'.start = k.start ∧
      k'.stretch = k.stretch ∧ k'.cursor ≤ column := by
  have hsplit : leftOf (column - k.start) k.stretch ++ rightOf (column - k.start) k.stretch =
      k.stretch := leftOf_append_rightOf _ _
  obtain ⟨hb, ha⟩ : Solid (leftOf (column - k.start) k.stretch) ∧
      Solid (rightOf (column - k.start) k.stretch) := by
    rw [← solid_append, hsplit]
    exact k.solid_stretch
  refine ⟨k.refill _ _ hb ha, ?_, ?_, rfl, hsplit, ?_⟩
  · rw [line_refill, hsplit]
    rfl
  · have hle : columns (k.marker ++ k.front) ≤ column := hstart
    have hge : column - columns (k.marker ++ k.front) ≤ columns k.stretch := by
      have := k.stop_eq
      rw [start] at this
      omega
    have hline : k.line = k.marker ++ k.front ++ (k.stretch ++ k.rest) := List.append_assoc _ _ _
    rw [left_refill, hline, leftOf_append_of_le hle, leftOf_append_of_ge hge]
    rfl
  · have := columns_leftOf_le (column - k.start) k.stretch
    rw [cursor_eq]
    show k.start + columns (leftOf (column - k.start) k.stretch) ≤ column
    omega

end Cut

end ModelineAssist.Modeline
