import ModelineAssist.Text.Lines

/-!
Lines as editors count them. In an editor a line is ended by a line feed, by a carriage return or by
the pair of the two, and by nothing else, and a place in a document names its line by that count.
The lines that a document is cut into here are ended by five more characters. So the two counts
agree up to the first line with one of these, and agree throughout if and only if there is none.
-/
namespace ModelineAssist.Text

/-- Holds nothing that ends a line in an editor. -/
def OneLine (l : List Char) : Prop := ∀ c ∈ l, c ≠ '\r' ∧ c ≠ '\n'

/-- What ends a line in an editor, in front of the rest of the text: a carriage return does so alone
only where no line feed follows. -/
inductive LineEnd : List Char → List Char → Prop
  | feed {rest} : LineEnd ['\n'] rest
  | pair {rest} : LineEnd ['\r', '\n'] rest
  | ret {rest} : rest.head? ≠ some '\n' → LineEnd ['\r'] rest

/-- The lines of a text in an editor, without what ends them. -/
inductive EditorLines : List Char → List (List Char) → Prop
  | last {l} : OneLine l → EditorLines l [l]
  | cons {l e rest ls} : OneLine l → LineEnd e rest → EditorLines rest ls →
      EditorLines (l ++ (e ++ rest)) (l :: ls)

/-- The characters that end a line of a document but not of an editor: the vertical tab, the form
feed, the next line, and the separators of lines and of paragraphs. -/
def otherBreaks : List Char := ['\x0b', '\x0c', '\u0085', '\u2028', '\u2029']

variable {text l rest e : List Char} {ls : List (List Char)} {c : Char} {n : Nat}

theorem isLineBreak_iff : isLineBreak c = true ↔ (c = '\r' ∨ c = '\n') ∨ c ∈ otherBreaks := by
  have eq_iff (d : Char) : c = d ↔ c.toNat = d.toNat := Char.toNat_inj.symm
  simp only [isLineBreak, otherBreaks, eq_iff, List.mem_cons, List.not_mem_nil, Bool.or_eq_true,
    Bool.and_eq_true, decide_eq_true_eq, beq_iff_eq, Char.reduceToNat, or_false]
  omega

/-- Within a line of an editor, a line of the document is ended by the other breaks alone. -/
theorem isLineBreak_of_ne (h : c ≠ '\r' ∧ c ≠ '\n') : isLineBreak c = decide (c ∈ otherBreaks) := by
  rw [Bool.eq_iff_iff, isLineBreak_iff, decide_eq_true_iff]
  simp [h]

theorem oneLine_nil : OneLine [] := fun _ hc => absurd hc List.not_mem_nil

theorem oneLine_cons : OneLine (c :: l) ↔ (c ≠ '\r' ∧ c ≠ '\n') ∧ OneLine l := List.forall_mem_cons

theorem LineEnd.ends (h : LineEnd e rest) : ∀ c ∈ e, c = '\r' ∨ c = '\n' := by
  cases h <;> simp

theorem foldr_consFirst (l m : List Char) (ms : List (List Char)) :
    l.foldr consFirst (m :: ms) = (l ++ m) :: ms := by
  induction l with
  | nil => rfl
  | cons c l ih => rw [List.foldr_cons, ih, consFirst, List.cons_append]

/-! ### Every text has its lines in an editor -/

/-- The lines of a text in an editor, by recursion on the text. -/
def editorLines : List Char → List (List Char)
  | [] => [[]]
  | '\r' :: '\n' :: cs => [] :: editorLines cs
  | c :: cs => if c = '\r' ∨ c = '\n' then [] :: editorLines cs else consFirst c (editorLines cs)

theorem editorLines_cons (h : c = '\r' → rest.head? ≠ some '\n') : editorLines (c :: rest) =
    if c = '\r' ∨ c = '\n' then [] :: editorLines rest else consFirst c (editorLines rest) := by
  rw [editorLines]
  rintro cs rfl rfl
  exact h rfl rfl

theorem editorLines_append (hl : OneLine l) :
    editorLines (l ++ rest) = l.foldr consFirst (editorLines rest) := by
  induction l with
  | nil => rfl
  | cons c l ih =>
    obtain ⟨hc, hl⟩ := oneLine_cons.mp hl
    rw [List.cons_append, editorLines_cons fun h => absurd h hc.1, if_neg (by simp [hc]), ih hl]
    rfl

theorem LineEnd.editorLines (h : LineEnd e rest) :
    editorLines (e ++ rest) = [] :: editorLines rest := by
  cases h with
  | feed => simp [editorLines_cons]
  | pair => simp [Text.editorLines]
  | ret hhead => simp [editorLines_cons fun _ => hhead]

theorem EditorLines.eq_editorLines (h : EditorLines text ls) : ls = editorLines text := by
  induction h with
  | @last l hl =>
    rw [← List.append_nil l, editorLines_append hl, editorLines, foldr_consFirst, List.append_nil]
  | cons hl he _ ih =>
    rw [editorLines_append hl, he.editorLines, foldr_consFirst, List.append_nil, ih]

/-- A character that ends no line belongs to the first one. -/
theorem EditorLines.consFirst (h : EditorLines rest ls) (hc : c ≠ '\r' ∧ c ≠ '\n') :
    EditorLines (c :: rest) (consFirst c ls) := by
  cases h with
  | last hl => exact .last (oneLine_cons.mpr ⟨hc, hl⟩)
  | cons hl he hrest => exact .cons (oneLine_cons.mpr ⟨hc, hl⟩) he hrest

theorem editorLines_spec (text : List Char) : EditorLines text (editorLines text) := by
  fun_induction editorLines text with
  | case1 => exact .last oneLine_nil
  | case2 cs ih => exact .cons oneLine_nil .pair ih
  | case3 c cs hpair hc ih =>
    rcases hc with rfl | rfl
    · refine .cons oneLine_nil (.ret fun hhead => ?_) ih
      obtain ⟨cs', rfl⟩ := List.head?_eq_some_iff.mp hhead
      exact hpair cs' rfl rfl
    · exact .cons oneLine_nil .feed ih
  | case4 c cs _ hc ih => exact ih.consFirst (not_or.mp hc)

theorem editorLines_iff : EditorLines text ls ↔ ls = editorLines text :=
  ⟨EditorLines.eq_editorLines, fun h => h ▸ editorLines_spec text⟩

/-! ### The lines of a document -/

theorem brokenLines_cons (h : c = '\r' → rest.head? ≠ some '\n') : brokenLines (c :: rest) =
    if isLineBreak c then [c] :: brokenLines rest else consFirst c (brokenLines rest) := by
  rw [brokenLines]
  rintro cs rfl rfl
  exact h rfl rfl

/-- Without another break, a line of an editor is not cut. -/
theorem brokenLines_append (hl : OneLine l) (hplain : ∀ c ∈ l, c ∉ otherBreaks) :
    brokenLines (l ++ rest) = l.foldr consFirst (brokenLines rest) := by
  induction l with
  | nil => rfl
  | cons c l ih =>
    obtain ⟨hc, hl⟩ := oneLine_cons.mp hl
    obtain ⟨hother, hplain⟩ := List.forall_mem_cons.mp hplain
    have hbreak : ¬ isLineBreak c = true := by simp [isLineBreak_of_ne hc, hother]
    rw [List.cons_append, brokenLines_cons fun h => absurd h hc.1, if_neg hbreak, ih hl hplain]
    rfl

/-- Each of the other breaks in a line of an editor makes one more line of the document. -/
theorem length_brokenLines_append (hl : OneLine l) (rest : List Char) :
    (brokenLines (l ++ rest)).length =
      l.countP (· ∈ otherBreaks) + (brokenLines rest).length := by
  induction l with
  | nil => simp
  | cons c l ih =>
    obtain ⟨hc, hl⟩ := oneLine_cons.mp hl
    rw [List.cons_append, brokenLines_cons fun h => absurd h hc.1, isLineBreak_of_ne hc,
      List.countP_cons]
    by_cases hother : c ∈ otherBreaks
    · simp only [hother, decide_true, if_true, List.length_cons, ih hl]
      omega
    · obtain ⟨m, ms, hm⟩ := List.exists_cons_of_ne_nil (brokenLines_ne_nil (l ++ rest))
      have := ih hl
      rw [hm] at this
      simpa [hother, hm, consFirst] using this

/-- What ends a line is dropped, and nothing else. -/
theorem dropLineEnd_append (hl : OneLine l) (he : ∀ c ∈ e, c = '\r' ∨ c = '\n') :
    dropLineEnd (l ++ e) = l := by
  have hend : ∀ c ∈ e.reverse, (c == '\r' || c == '\n') = true := fun c hc => by
    simpa using he c (List.mem_reverse.mp hc)
  have hline : l.reverse.dropWhile (fun c => c == '\r' || c == '\n') = l.reverse := by
    cases h : l.reverse with
    | nil => rfl
    | cons c cs =>
      have hc := hl c (List.mem_reverse.mp (h ▸ List.mem_cons_self))
      exact List.dropWhile_cons_of_neg (by simp [hc])
  rw [dropLineEnd, List.reverse_append, List.dropWhile_append_of_pos hend, hline,
    List.reverse_reverse]

theorem LineEnd.brokenLines (h : LineEnd e rest) :
    brokenLines (e ++ rest) = e :: brokenLines rest := by
  cases h with
  | feed => simp [brokenLines_cons, isLineBreak_iff]
  | pair => simp [Text.brokenLines]
  | ret hhead => simp [brokenLines_cons fun _ => hhead, isLineBreak_iff]

/-- A line without another break is the only one in its text. -/
theorem lines_of_plain (hl : OneLine l) (hplain : ∀ c ∈ l, c ∉ otherBreaks) : lines l = [l] := by
  have hbroken : brokenLines (l ++ []) = l.foldr consFirst [[]] := brokenLines_append hl hplain
  have hdrop := dropLineEnd_append hl (e := []) (by simp)
  rw [List.append_nil] at hbroken hdrop
  rw [lines, hbroken, foldr_consFirst, List.append_nil, List.map_singleton, hdrop]

/-- A line without another break is the first one of a text in which it ends. -/
theorem lines_append_of_plain (hl : OneLine l) (hplain : ∀ c ∈ l, c ∉ otherBreaks)
    (he : LineEnd e rest) : lines (l ++ (e ++ rest)) = l :: lines rest := by
  rw [lines, brokenLines_append hl hplain, he.brokenLines, foldr_consFirst, List.map_cons,
    dropLineEnd_append hl he.ends, lines]

/-! ### The two counts -/

/-- Lines consist of what their text consists of. -/
theorem EditorLines.mem (h : EditorLines text ls) (hl : l ∈ ls) (hc : c ∈ l) : c ∈ text := by
  induction h with
  | last _ => rwa [List.mem_singleton.mp hl] at hc
  | cons _ _ _ ih =>
    rcases List.mem_cons.mp hl with rfl | hl
    · exact List.mem_append_left _ hc
    · exact List.mem_append_right _ (List.mem_append_right _ (ih hl))

/-- Up to the first line with another break, lines are the same for a document and an editor. -/
theorem line?_of_plain (h : EditorLines text ls)
    (hplain : ∀ l ∈ ls.take (n + 1), ∀ c ∈ l, c ∉ otherBreaks) : line? text n = ls[n]? := by
  induction h generalizing n with
  | @last l hl =>
    have hl' : ∀ c ∈ l, c ∉ otherBreaks := hplain l (by simp)
    rw [line?, lines_of_plain hl hl']
  | @cons l e rest ls hl he _ ih =>
    have hl' : ∀ c ∈ l, c ∉ otherBreaks := hplain l (by simp)
    rw [line?, lines_append_of_plain hl hl' he]
    cases n with
    | zero => rfl
    | succ n => exact ih fun l' hl' => hplain l' (List.mem_cons_of_mem _ hl')

/-- A document has a line more than in an editor for each of the other breaks. -/
theorem length_lines (h : EditorLines text ls) :
    (lines text).length = text.countP (· ∈ otherBreaks) + ls.length := by
  induction h with
  | @last l hl =>
    have := length_brokenLines_append hl []
    rw [List.append_nil] at this
    rw [lines, List.length_map, this]
    rfl
  | @cons l e rest ls hl he _ ih =>
    have hend : e.countP (· ∈ otherBreaks) = 0 := by
      cases he <;> rfl
    rw [lines, List.length_map] at ih ⊢
    rw [length_brokenLines_append hl, he.brokenLines, List.length_cons, List.length_cons, ih,
      List.countP_append, List.countP_append, hend]
    omega

/-- Every text has its lines in an editor, and they are those of the document up to the first one
with another break; they are the same throughout if and only if the text has no such break. -/
theorem lines_eq_editorLines_iff (text : List Char) :
    ∃ ls, (∀ ls', EditorLines text ls' ↔ ls' = ls) ∧
      (∀ n, (∀ l ∈ ls.take (n + 1), ∀ c ∈ l, c ∉ otherBreaks) → line? text n = ls[n]?) ∧
      ((∀ n, line? text n = ls[n]?) ↔ ∀ c ∈ text, c ∉ otherBreaks) := by
  have hls := editorLines_spec text
  refine ⟨editorLines text, fun ls' => editorLines_iff, fun n => line?_of_plain hls, ?_⟩
  constructor
  · intro hsame c hc hother
    have hlength := length_lines hls
    have hpos : 0 < text.countP (· ∈ otherBreaks) :=
      List.countP_pos_iff.mpr ⟨c, hc, by simpa using hother⟩
    -- The document has a line where the editor has none any more.
    have hnone := hsame (editorLines text).length
    rw [line?, List.getElem?_eq_none (Nat.le_refl _), List.getElem?_eq_none_iff] at hnone
    omega
  · intro hplain n
    exact line?_of_plain hls fun l hl c hc => hplain c (hls.mem (List.mem_of_mem_take hl) hc)

/-- A text whose second line in an editor holds a line separator. -/
def separated : List Char := "one\r\ntwo\u2028three\rfour".toList

/-- The first line is the same for the document as in an editor, but not all lines are. -/
theorem lines_separated :
    EditorLines separated ["one".toList, "two\u2028three".toList, "four".toList] ∧
    line? separated 0 = some "one".toList ∧
    ¬ ∀ n, line? separated n = ["one".toList, "two\u2028three".toList, "four".toList][n]? := by
  obtain ⟨ls, hls, first, whole⟩ := lines_eq_editorLines_iff separated
  obtain rfl := (hls _).mp (editorLines_spec separated)
  have heditor : editorLines separated =
      ["one".toList, "two\u2028three".toList, "four".toList] := rfl
  refine ⟨(hls _).mpr heditor.symm, first 0 ?_, fun hsame => ?_⟩
  · simp [heditor, otherBreaks]
  · rw [← heditor] at hsame
    exact whole.mp hsame '\u2028' (by decide) (by decide)

/-- A vertical tab ends a line of the document, of which it stays a part, but no line of an editor:
there the text is one line, and there is no second one. -/
theorem lines_verticalTab :
    EditorLines "a\x0bb".toList ["a\x0bb".toList] ∧
    line? "a\x0bb".toList 0 = some "a\x0b".toList ∧ line? "a\x0bb".toList 1 = some "b".toList :=
  ⟨editorLines_iff.mpr rfl, rfl, rfl⟩

end ModelineAssist.Text
