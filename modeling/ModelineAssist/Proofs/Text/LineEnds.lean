import ModelineAssist.Proofs.Text.Lines

/-!
Nothing is lost between lines and nothing is added. A text is cut into its lines and what ends them:
a line feed, a carriage return or the pair of the two is dropped from a line, any other break stays
its last character, and the last line is ended by nothing. With what has been dropped put back, the
lines are the text again.
-/
namespace ModelineAssist.Text

/-- The lines of a text as they are handed out, each with what is dropped behind it. -/
inductive CutLines : List Char → List (List Char × List Char) → Prop
  | last {l} : Unbroken l → CutLines l [(l, [])]
  | dropped {l e rest ps} : Unbroken l → LineEnd e rest → CutLines rest ps →
      CutLines (l ++ (e ++ rest)) ((l, e) :: ps)
  | kept {l c rest ps} : Unbroken l → c ∈ otherBreaks → CutLines rest ps →
      CutLines (l ++ (c :: rest)) ((l ++ [c], []) :: ps)

variable {text l e : List Char} {c : Char} {ps : List (List Char × List Char)} {n : Nat}

theorem unbroken_nil : Unbroken [] := fun _ hc => absurd hc List.not_mem_nil

theorem unbroken_cons : Unbroken (c :: l) ↔ isLineBreak c = false ∧ Unbroken l :=
  List.forall_mem_cons

theorem isLineBreak_of_mem_otherBreaks (h : c ∈ otherBreaks) : isLineBreak c = true :=
  isLineBreak_iff.mpr (.inr h)

/-- Another break ends no line of an editor. -/
theorem ne_of_mem_otherBreaks (h : c ∈ otherBreaks) : c ≠ '\r' ∧ c ≠ '\n' := by
  constructor <;> rintro rfl <;> exact absurd h (by decide)

/-- A line and another break behind it hold nothing that ends a line of an editor. -/
theorem Unbroken.oneLine_append_break (h : Unbroken l) (hc : c ∈ otherBreaks) :
    OneLine (l ++ [c]) := by
  intro d hd
  rcases List.mem_append.mp hd with hd | hd
  · exact h.oneLine d hd
  · rw [List.mem_singleton.mp hd]
    exact ne_of_mem_otherBreaks hc

/-! ### Every text is cut -/

/-- A character that is no break belongs to the first line. -/
theorem CutLines.exists_cons (h : CutLines text ps) (hc : isLineBreak c = false) :
    ∃ ps', CutLines (c :: text) ps' := by
  cases h with
  | last hl => exact ⟨_, .last (unbroken_cons.mpr ⟨hc, hl⟩)⟩
  | dropped hl he hrest => exact ⟨_, .dropped (unbroken_cons.mpr ⟨hc, hl⟩) he hrest⟩
  | kept hl hother hrest => exact ⟨_, .kept (unbroken_cons.mpr ⟨hc, hl⟩) hother hrest⟩

theorem exists_cutLines (text : List Char) : ∃ ps, CutLines text ps := by
  fun_induction brokenLines text with
  | case1 => exact ⟨_, .last unbroken_nil⟩
  | case2 cs ih =>
    obtain ⟨ps, hps⟩ := ih
    exact ⟨_, .dropped unbroken_nil .pair hps⟩
  | case3 c cs hpair hc ih =>
    obtain ⟨ps, hps⟩ := ih
    obtain (rfl | rfl) | hother := isLineBreak_iff.mp hc
    · refine ⟨_, .dropped unbroken_nil (.ret fun hhead => ?_) hps⟩
      obtain ⟨cs', rfl⟩ := List.head?_eq_some_iff.mp hhead
      exact hpair cs' rfl rfl
    · exact ⟨_, .dropped unbroken_nil .feed hps⟩
    · exact ⟨_, .kept unbroken_nil hother hps⟩
  | case4 c cs _ hc ih =>
    obtain ⟨ps, hps⟩ := ih
    exact hps.exists_cons (Bool.eq_false_iff.mpr hc)

/-! ### What a cut says -/

/-- Another break ends a line and stays its last character. -/
theorem lines_append_otherBreak {rest : List Char} (hl : Unbroken l) (hc : c ∈ otherBreaks) :
    lines (l ++ (c :: rest)) = (l ++ [c]) :: lines rest := by
  have hreturn : c ≠ '\r' := (ne_of_mem_otherBreaks hc).1
  have hdrop := dropLineEnd_append (hl.oneLine_append_break hc) (e := []) (by simp)
  rw [List.append_nil] at hdrop
  rw [lines, brokenLines_append hl.oneLine hl.plain, brokenLines_cons fun hr => absurd hr hreturn,
    if_pos (isLineBreak_of_mem_otherBreaks hc), foldr_consFirst, List.map_cons, hdrop, lines]

theorem CutLines.lines_eq (h : CutLines text ps) : lines text = ps.map Prod.fst := by
  induction h with
  | last hl => exact lines_of_plain hl.oneLine hl.plain
  | dropped hl he _ ih =>
    rw [lines_append_of_plain hl.oneLine hl.plain he, ih]
    rfl
  | kept hl hother _ ih =>
    rw [lines_append_otherBreak hl hother, ih]
    rfl

/-- With what was dropped put back, the lines are the text. -/
theorem CutLines.flatten_eq (h : CutLines text ps) :
    (ps.map fun p => p.1 ++ p.2).flatten = text := by
  induction h with
  | last => simp
  | dropped _ _ _ ih => simp [ih]
  | kept _ _ _ ih => simp [ih]

/-- A text has a line more than breaks. -/
theorem length_lines_eq (text : List Char) : (lines text).length = breakCount text + 1 := by
  rw [lines, List.length_map, length_brokenLines]

theorem CutLines.length_eq (h : CutLines text ps) : ps.length = breakCount text + 1 := by
  rw [← length_lines_eq, h.lines_eq, List.length_map]

theorem CutLines.line?_eq (h : CutLines text ps) (n : Nat) :
    line? text n = ps[n]?.map Prod.fst := by
  rw [line?, h.lines_eq, List.getElem?_map]

theorem LineEnd.cases_eq {rest : List Char} (h : LineEnd e rest) :
    e = ['\n'] ∨ e = ['\r'] ∨ e = ['\r', '\n'] := by
  cases h <;> simp

/-- Every line but the last is ended by what is dropped behind it, or by its last character. -/
theorem CutLines.cases_getElem? (h : CutLines text ps) (hn : ps[n]? = some (l, e)) :
    (n + 1 = ps.length ∧ Unbroken l ∧ e = []) ∨
    (n + 1 < ps.length ∧ Unbroken l ∧ (e = ['\n'] ∨ e = ['\r'] ∨ e = ['\r', '\n'])) ∨
    (n + 1 < ps.length ∧ ∃ m c, l = m ++ [c] ∧ Unbroken m ∧ c ∈ otherBreaks ∧ e = []) := by
  induction h generalizing n with
  | last hl =>
    cases n with
    | zero =>
      cases hn
      exact .inl ⟨rfl, hl, rfl⟩
    | succ n => cases hn
  | dropped hl he hrest ih =>
    cases n with
    | zero =>
      cases hn
      exact .inr (.inl ⟨by simp [hrest.length_eq], hl, he.cases_eq⟩)
    | succ n => simpa using ih hn
  | kept hl hother hrest ih =>
    cases n with
    | zero =>
      cases hn
      exact .inr (.inr ⟨by simp [hrest.length_eq], _, _, rfl, hl, hother, rfl⟩)
    | succ n => simpa using ih hn

/-- What is dropped behind a line of a cut. -/
def droppedAt (ps : List (List Char × List Char)) (n : Nat) : List Char :=
  (ps[n]?.map Prod.snd).getD []

theorem CutLines.cases_line? (h : CutLines text ps) (hl : line? text n = some l) :
    (n = breakCount text ∧ Unbroken l ∧ droppedAt ps n = []) ∨
    (n < breakCount text ∧ Unbroken l ∧ (droppedAt ps n = ['\n'] ∨ droppedAt ps n = ['\r'] ∨
      droppedAt ps n = ['\r', '\n'])) ∨
    (n < breakCount text ∧ ∃ m c, l = m ++ [c] ∧ Unbroken m ∧ c ∈ otherBreaks ∧
      droppedAt ps n = []) := by
  rw [h.line?_eq] at hl
  obtain ⟨⟨l', e⟩, hn, rfl⟩ := Option.map_eq_some_iff.mp hl
  have he : droppedAt ps n = e := by simp [droppedAt, hn]
  have hcases := h.cases_getElem? hn
  rw [h.length_eq, Nat.succ_inj, Nat.succ_lt_succ_iff] at hcases
  rw [he]
  exact hcases

theorem CutLines.flatMap_range (h : CutLines text ps) :
    ((List.range (breakCount text + 1)).flatMap fun n =>
      (line? text n).getD [] ++ droppedAt ps n) = text := by
  have hmap : (List.range ps.length).map (fun n =>
      (line? text n).getD [] ++ droppedAt ps n) = ps.map fun p => p.1 ++ p.2 := by
    refine List.ext_getElem (by simp) fun n hn _ => ?_
    have hn' : n < ps.length := by simpa using hn
    simp [h.line?_eq, droppedAt, hn']
  rw [List.flatMap_def, ← h.length_eq, hmap, h.flatten_eq]

theorem isSome_line?_iff : (line? text n).isSome = true ↔ n ≤ breakCount text := by
  rw [line?, Option.isSome_iff_ne_none, ne_eq, List.getElem?_eq_none_iff, length_lines_eq,
    Nat.not_le, Nat.lt_succ_iff]

/-! ### The breaks that stay -/

theorem Unbroken.not_mem (h : Unbroken l) (hc : c ∈ otherBreaks) : c ∉ l := fun hmem =>
  h.plain c hmem hc

/-- A break that is the end of a line stands nowhere else in it. -/
theorem eq_nil_of_mem_otherBreaks {m front back : List Char} {d : Char} (hm : Unbroken m)
    (h : m ++ [d] = front ++ c :: back) (hc : c ∈ otherBreaks) : back = [] := by
  rcases List.eq_nil_or_concat back with rfl | ⟨b, x, rfl⟩
  · rfl
  · have hfront : m ++ [d] = (front ++ c :: b) ++ [x] := by simpa using h
    have hm' : m = front ++ c :: b := (List.append_inj' hfront rfl).1
    exact absurd (by simp [hm']) (hm.not_mem hc)

/-- Picking lines loses nothing and adds nothing. A text has a line more than breaks. Behind each
line stands what has been dropped there, and with that put back the lines are the text: behind the
last line nothing, behind any other one a line feed, a carriage return or the pair of the two,
unless the line ends in another break. No line holds a carriage return or a line feed, and another
break is the last character of its line, which is not the last line. -/
theorem lines_lossless (text : List Char) : ∃ dropped : Nat → List Char,
    (∀ n, (line? text n).isSome = true ↔ n ≤ breakCount text) ∧
    ((List.range (breakCount text + 1)).flatMap fun n =>
      (line? text n).getD [] ++ dropped n) = text ∧
    dropped (breakCount text) = [] ∧
    ∀ n l, line? text n = some l →
      (dropped n = [] ∨ dropped n = ['\n'] ∨ dropped n = ['\r'] ∨ dropped n = ['\r', '\n']) ∧
      (n < breakCount text → (dropped n = [] ↔ ∃ c ∈ otherBreaks, l.getLast? = some c)) ∧
      (∀ c ∈ l, c ≠ '\r' ∧ c ≠ '\n') ∧
      ∀ front c back, l = front ++ c :: back → c ∈ otherBreaks →
        back = [] ∧ n < breakCount text := by
  obtain ⟨ps, h⟩ := exists_cutLines text
  refine ⟨droppedAt ps, fun n => isSome_line?_iff, h.flatMap_range, ?_, fun n l hl => ?_⟩
  · obtain ⟨l, hl⟩ := Option.isSome_iff_exists.mp (isSome_line?_iff.mpr (Nat.le_refl _))
    obtain ⟨-, -, he⟩ | ⟨hlt, -⟩ | ⟨hlt, -⟩ := h.cases_line? hl
    · exact he
    · exact absurd hlt (Nat.lt_irrefl _)
    · exact absurd hlt (Nat.lt_irrefl _)
  · obtain ⟨hn, hwhole, he⟩ | ⟨hlt, hwhole, he⟩ | ⟨hlt, m, d, rfl, hm, hd, he⟩ := h.cases_line? hl
    · -- the last line
      refine ⟨.inl he, fun hlt => absurd hn (Nat.ne_of_lt hlt), hwhole.oneLine, ?_⟩
      rintro front c back rfl hc
      exact absurd (by simp) (hwhole.not_mem hc)
    · -- a line that lost its end
      refine ⟨.inr he, fun _ => ⟨fun hnil => ?_, ?_⟩, hwhole.oneLine, ?_⟩
      · rw [hnil] at he
        simp at he
      · rintro ⟨c, hc, hlast⟩
        exact absurd (List.mem_of_getLast? hlast) (hwhole.not_mem hc)
      · rintro front c back rfl hc
        exact absurd (by simp) (hwhole.not_mem hc)
    · -- a line that ends in another break
      refine ⟨.inl he, fun _ => ⟨fun _ => ⟨d, hd, by simp⟩, fun _ => he⟩, ?_, ?_⟩
      · exact hm.oneLine_append_break hd
      · intro front c back hsplit hc
        exact ⟨eq_nil_of_mem_otherBreaks hm hsplit hc, hlt⟩

/-- A text with the pair of a carriage return and a line feed, and with the two the other way round
behind a vertical tab. -/
def mixedText : List Char := "\r\na\x0b\n\rb".toList

/-- The pair is one break, the other two are two, and the vertical tab stays in its line. -/
theorem lines_mixedText :
    breakCount mixedText = 4 ∧ line? mixedText 1 = some "a\x0b".toList ∧
    line? mixedText 2 = some [] ∧ (line? mixedText 5).isSome = false ∧
    ∃ dropped : Nat → List Char, dropped 1 = [] ∧ dropped 2 ≠ [] ∧ dropped 4 = [] ∧
      ((List.range 5).flatMap fun n => (line? mixedText n).getD [] ++ dropped n) = mixedText := by
  obtain ⟨dropped, -, whole, last, behind⟩ := lines_lossless mixedText
  have one : line? mixedText 1 = some "a\x0b".toList := rfl
  have two : line? mixedText 2 = some [] := rfl
  refine ⟨rfl, one, two, rfl, dropped, ?_, fun hnil => ?_, last, whole⟩
  · exact ((behind 1 _ one).2.1 (by decide)).mpr ⟨'\x0b', by decide, rfl⟩
  · obtain ⟨c, -, hlast⟩ := ((behind 2 _ two).2.1 (by decide)).mp hnil
    cases hlast

end ModelineAssist.Text
