import ModelineAssist.Proofs.Text.EditorLines

/-!
A line among others. A text that ends in a line feed is a number of whole lines, whatever comes
behind it, and what it consists of does not show in the lines of the rest. So a line that other
lines surround is the one that it is by itself, and its number is that of the breaks in front.
-/
namespace ModelineAssist.Text

/-- The number of breaks in a text; a carriage return and the line feed behind it are one. -/
def breakCount : List Char → Nat
  | [] => 0
  | '\r' :: '\n' :: cs => breakCount cs + 1
  | c :: cs => breakCount cs + if isLineBreak c then 1 else 0

/-- Consists of whole lines: it is empty or ends in a line feed. -/
def Closed (text : List Char) : Prop := text = [] ∨ text.getLast? = some '\n'

/-- Leaves a line in front of it alone: it is empty or begins with what ends a line. -/
def Opens (text : List Char) : Prop :=
  text = [] ∨ text.head? = some '\n' ∨ text.head? = some '\r'

/-- Holds none of the breaks. -/
def Unbroken (line : List Char) : Prop := ∀ c ∈ line, isLineBreak c = false

instance (text : List Char) : Decidable (Closed text) := inferInstanceAs (Decidable (_ ∨ _))

instance (text : List Char) : Decidable (Opens text) := inferInstanceAs (Decidable (_ ∨ _))

instance (line : List Char) : Decidable (Unbroken line) := List.decidableBAll _ line

variable {before line after cs : List Char} {c : Char}

theorem Closed.of_cons (h : Closed (c :: cs)) (hc : c ≠ '\n') : cs ≠ [] ∧ Closed cs := by
  have hlast : (c :: cs).getLast? = some '\n' := h.resolve_left (List.cons_ne_nil c cs)
  cases cs with
  | nil => exact absurd (Option.some.inj hlast) hc
  | cons d ds => exact ⟨List.cons_ne_nil d ds, .inr (by rwa [List.getLast?_cons_cons] at hlast)⟩

theorem Closed.tail (h : Closed (c :: cs)) : Closed cs := by
  cases cs with
  | nil => exact .inl rfl
  | cons d ds =>
    refine .inr ?_
    rw [← List.getLast?_cons_cons]
    exact h.resolve_left (List.cons_ne_nil c _)

theorem consFirst_append {ls : List (List Char)} (h : ls ≠ []) (ms : List (List Char)) :
    consFirst c (ls ++ ms) = consFirst c ls ++ ms := by
  obtain ⟨l, ls, rfl⟩ := List.exists_cons_of_ne_nil h
  rfl

theorem length_consFirst {ls : List (List Char)} (h : ls ≠ []) :
    (consFirst c ls).length = ls.length := by
  obtain ⟨l, ls, rfl⟩ := List.exists_cons_of_ne_nil h
  rfl

/-- There is a line more than there are breaks. -/
theorem length_brokenLines (text : List Char) :
    (brokenLines text).length = breakCount text + 1 := by
  fun_induction brokenLines text with
  | case1 => rfl
  | case2 cs ih => rw [List.length_cons, ih, breakCount]
  | case3 c cs hpair hc ih =>
    rw [List.length_cons, ih, breakCount, if_pos hc]
    exact hpair
  | case4 c cs hpair hc ih =>
    rw [length_consFirst (brokenLines_ne_nil cs), ih, breakCount, if_neg hc]
    exact hpair

/-- A carriage return in a text of whole lines is a break of its own if no line feed is next. -/
theorem Closed.head?_ne (h : Closed (c :: cs)) (hpair : ∀ ds, c = '\r' → cs = '\n' :: ds → False)
    (rest : List Char) : c = '\r' → (cs ++ rest).head? ≠ some '\n' := by
  rintro rfl hhead
  obtain ⟨d, ds, rfl⟩ := List.exists_cons_of_ne_nil (h.of_cons (by decide)).1
  obtain rfl := Option.some.inj hhead
  exact hpair ds rfl rfl

/-- Whole lines stay as they are in front of any rest, and leave the lines of the rest alone. -/
theorem exists_brokenLines_append (h : Closed before) :
    ∃ ls, ls.length = breakCount before ∧
      ∀ rest, brokenLines (before ++ rest) = ls ++ brokenLines rest := by
  fun_induction breakCount before with
  | case1 => exact ⟨[], rfl, fun rest => rfl⟩
  | case2 cs ih =>
    obtain ⟨ls, hlength, happend⟩ := ih h.tail.tail
    exact ⟨['\r', '\n'] :: ls, by simp [hlength], fun rest => by simp [brokenLines, happend]⟩
  | case3 c cs hpair ih =>
    obtain ⟨ls, hlength, happend⟩ := ih h.tail
    by_cases hc : isLineBreak c = true
    · refine ⟨[c] :: ls, by simp [hlength, hc], fun rest => ?_⟩
      rw [List.cons_append, brokenLines_cons (h.head?_ne hpair rest), if_pos hc, happend]
      rfl
    · -- The character joins the first of the whole lines behind it, and there is one.
      have hls : ls ≠ [] := by
        rintro rfl
        have hcs : cs = [] := by
          rw [← flatten_brokenLines cs, ← List.append_nil cs, happend]
          rfl
        exact (h.of_cons fun hn => hc (isLineBreak_iff.mpr (.inl (.inr hn)))).1 hcs
      refine ⟨consFirst c ls, by simp [length_consFirst hls, hlength, hc], fun rest => ?_⟩
      rw [List.cons_append, brokenLines_cons (h.head?_ne hpair rest), if_neg hc, happend,
        consFirst_append hls]

/-- Lines are counted on behind whole lines. -/
theorem line?_append (h : Closed before) (rest : List Char) (n : Nat) :
    line? (before ++ rest) (breakCount before + n) = line? rest n := by
  obtain ⟨ls, hlength, happend⟩ := exists_brokenLines_append h
  rw [line?, lines, happend, List.map_append, ← hlength, line?, lines,
    List.getElem?_append_right (by simp)]
  simp

theorem Opens.exists_lineEnd (h : Opens after) :
    after = [] ∨ ∃ e rest, after = e ++ rest ∧ LineEnd e rest := by
  rcases h with h | h | h
  · exact .inl h
  · obtain ⟨rest, rfl⟩ := List.head?_eq_some_iff.mp h
    exact .inr ⟨['\n'], rest, rfl, .feed⟩
  · obtain ⟨rest, rfl⟩ := List.head?_eq_some_iff.mp h
    by_cases hn : rest.head? = some '\n'
    · obtain ⟨rest, rfl⟩ := List.head?_eq_some_iff.mp hn
      exact .inr ⟨['\r', '\n'], rest, rfl, .pair⟩
    · exact .inr ⟨['\r'], rest, rfl, .ret hn⟩

theorem Unbroken.oneLine (h : Unbroken line) : OneLine line := fun c hc => by
  constructor <;> rintro rfl <;> exact absurd (h _ hc) (by decide)

theorem Unbroken.plain (h : Unbroken line) : ∀ c ∈ line, c ∉ otherBreaks := fun c hc hother =>
  absurd (isLineBreak_iff.mpr (.inr hother)) (by simp [h c hc])

/-- The first line ends where the rest begins. -/
theorem line?_zero (hl : Unbroken line) (ha : Opens after) :
    line? (line ++ after) 0 = some line := by
  obtain rfl | ⟨e, rest, rfl, he⟩ := ha.exists_lineEnd
  · rw [List.append_nil]
    exact line?_of_plain (.last hl.oneLine) (by simpa using hl.plain)
  · exact line?_of_plain (.cons hl.oneLine he (editorLines_spec rest)) (by simpa using hl.plain)

/-- A line that other lines surround is the one that it is by itself. -/
theorem line?_surrounded (hb : Closed before) (hl : Unbroken line) (ha : Opens after) :
    line? (before ++ line ++ after) (breakCount before) = line? line 0 := by
  have halone := line?_zero hl (.inl rfl : Opens [])
  rw [List.append_nil] at halone
  rw [List.append_assoc, halone]
  exact (line?_append hb (line ++ after) 0).trans (line?_zero hl ha)

end ModelineAssist.Text
