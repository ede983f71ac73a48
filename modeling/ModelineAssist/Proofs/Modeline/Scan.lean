import Mathlib.Data.List.Dedup
import Mathlib.Data.List.Destutter
import ModelineAssist.Proofs.Completion.Pointing

/-!
Reading a line from its first column to the one behind its end. The columns see the names of the
tokens behind the marker, each token that has one once and in the order of the line, and each name
is seen from its first column to the one just behind it. No column sees two, for there is white
space between tokens.
-/
namespace ModelineAssist.Modeline
open Text

variable {line : List Char} {column column' : Nat} {t u : Token} {s s' : NameSpan}

/-- The name of a token, where it stands. -/
def Token.span (t : Token) : NameSpan := ⟨t.name, t.start, t.nameStop⟩

/-- The names that the columns of a line see, from the first one to the one behind its end, each
row of equal ones once. -/
def scan (line : List Char) : List NameSpan :=
  ((List.range (columns line + 2)).filterMap (nameAt line)).destutter (· ≠ ·)

/-! ### Tokens and cuts -/

theorem name_isPrefix (t : Token) : t.name <+: t.text := List.takeWhile_prefix _

theorem start_le_nameStop (t : Token) : t.start ≤ t.nameStop := Nat.le_add_right _ _

theorem nameStop_le_stop (t : Token) : t.nameStop ≤ t.stop :=
  Nat.add_le_add_left (columns_le_of_isPrefix (name_isPrefix t)) _

/-- A line is cut at the start of each of its tokens. -/
theorem exists_cut_of_hasToken (h : HasToken line t) :
    ∃ k : Cut, k.line = line ∧ k.start = t.start ∧ k.stretch = t.text ∧ k.stop = t.stop := by
  obtain ⟨marker, front, rest, marked, hfront, hrest, hsolid, -, hline, hstart⟩ := h
  refine ⟨⟨marker, front, [], t.text, rest, marked, hfront, solid_nil, hsolid, hrest⟩,
    ?_, hstart.symm, rfl, ?_⟩
  · rw [hline]
    rfl
  · rw [Cut.stop_eq, Token.stop, hstart]
    rfl

/-- A character that is not solid takes one column. -/
theorem width_of_not_solid {c : Char} (h : isSolid c = false) : width c = 1 := by
  simp only [isSolid, isWhiteSpace, Bool.not_eq_false', Bool.or_eq_true, Bool.and_eq_true,
    decide_eq_true_eq, beq_iff_eq] at h
  rw [width, if_pos (by omega)]

/-- What stands behind a name starts with a `=` or with white space, or is empty. -/
theorem head?_behind_name {k : Cut} {c : Char}
    (h : c ∈ (k.stretch.dropWhile (· != '=') ++ k.rest).head?) : width c = 1 := by
  cases hd : k.stretch.dropWhile (· != '=') with
  | nil =>
    rw [hd, List.nil_append] at h
    exact width_of_not_solid (k.rest_loose c h)
  | cons d ds =>
    have hnot := List.head?_dropWhile_not (· != '=') k.stretch
    rw [hd] at h hnot
    obtain rfl : d = c := Option.some.inj h
    obtain rfl : d = '=' := by simpa using hnot
    rfl

/-- The columns that see the name of a cut do not lie behind it. -/
theorem min_le_of_cursor_le {k : Cut} (hleft : k.left = leftOf column k.line)
    (h : k.cursor ≤ k.start + columns k.name) :
    min column (columns k.line) ≤ k.start + columns k.name := by
  have hline : k.line = k.marker ++ k.front ++ k.name ++
      (k.stretch.dropWhile (· != '=') ++ k.rest) := by
    rw [Cut.name, List.append_assoc _ (k.stretch.takeWhile _), ← List.append_assoc
      (k.stretch.takeWhile _), List.takeWhile_append_dropWhile, ← List.append_assoc]
    rfl
  have hstop : k.start + columns k.name = columns (k.marker ++ k.front ++ k.name) :=
    (columns_append _ _).symm
  rw [Cut.cursor, hleft] at h
  rw [hstop, hline] at h ⊢
  exact min_le_of_columns_leftOf_le (fun c => head?_behind_name) h

/-- A column sees the name of a token exactly if it lies on it or just behind it. -/
theorem nameAt_eq_some_iff_hasToken : nameAt line column = some s ↔
    ∃ t, HasToken line t ∧ t.name ≠ [] ∧ t.start ≤ min column (columns line) ∧
      min column (columns line) ≤ t.nameStop ∧ s = t.span := by
  constructor
  · intro h
    obtain ⟨k, rfl, hleft, hne, hcursor, rfl⟩ := Cut.nameAt_eq_some_iff.mp h
    refine ⟨⟨k.start, k.stretch⟩, hasToken_stretch (Cut.stretch_ne_nil hne), hne, ?_,
      min_le_of_cursor_le hleft hcursor, rfl⟩
    have hcut := isLeftOf_leftOf column k.line
    rw [← hleft] at hcut
    exact Nat.le_trans k.start_le_cursor hcut.2.1
  · rintro ⟨t, ht, hne, hstart, hstop, rfl⟩
    obtain ⟨k, rfl, hkstart, hkstretch, hkstop⟩ := exists_cut_of_hasToken ht
    obtain ⟨k', hline, hleft, hstart', hstretch', hcursor⟩ :=
      k.exists_move (hkstart ▸ hstart) (hkstop ▸ Nat.le_trans hstop (nameStop_le_stop t))
    have hname : k'.name = t.name := by rw [Cut.name, hstretch', hkstretch]; rfl
    rw [leftOf_min] at hleft
    refine Cut.nameAt_eq_some_iff.mpr ⟨k', hline, hleft, hname ▸ hne, ?_, ?_⟩
    · rw [hstart', hkstart, hname]
      exact Nat.le_trans hcursor hstop
    · rw [hname, hstart', hkstart]
      rfl

/-! ### Tokens lie apart -/

/-- The tokens of a line are those behind its marker. -/
theorem mem_tokens_of_hasToken {k : Cut} (h : HasToken k.line t) :
    t ∈ tokens (columns k.marker) (k.line.drop k.marker.length) := by
  obtain ⟨k', hline, hstart, hstretch, -⟩ := exists_cut_of_hasToken h
  obtain ⟨-, -, -, -, -, -, -, hne, -, -⟩ := h
  have hmarker : k'.marker = k.marker :=
    k'.marked.eq_of_isPrefix k.marked (hline ▸ k'.marker_isPrefix) k.marker_isPrefix
  have htoken : k'.token? = some t := by
    rw [Cut.token?, hstretch, if_neg hne, hstart]
  have hmem : t ∈ tokens (columns k'.marker) (k'.line.drop k'.marker.length) := by
    rw [k'.tokens_line, htoken]
    simp
  rwa [hmarker, hline] at hmem

/-- Between two tokens of a line there is room. -/
theorem eq_or_apart (ht : HasToken line t) (hu : HasToken line u) :
    t = u ∨ t.stop < u.start ∨ u.stop < t.start := by
  obtain ⟨k, rfl, hstart, hstretch, hstop⟩ := exists_cut_of_hasToken ht
  have hmem := mem_tokens_of_hasToken hu
  rw [k.tokens_line, List.mem_append, List.mem_append] at hmem
  rcases hmem with (hfront | hstretch') | hrest
  · have := Cut.stop_lt_start hfront
    omega
  · left
    rw [Option.mem_toList, Cut.token?] at hstretch'
    split at hstretch'
    · simp at hstretch'
    · rw [Option.some_inj, hstart, hstretch] at hstretch'
      exact hstretch'
  · have := Cut.stop_lt_of_mem_rest hrest
    omega

/-! ### From column to column -/

/-- A name is the same as another or starts in front of it. -/
def UpTo (s s' : NameSpan) : Prop := s = s' ∨ s.start < s'.start

instance : Std.Antisymm UpTo where
  antisymm s s' h h' := by
    rcases h with h | h
    · exact h
    · rcases h' with h' | h'
      · exact h'.symm
      · omega

/-- Later columns see the same name or a later one. -/
theorem upTo_of_lt (hlt : column < column') (h : nameAt line column = some s)
    (h' : nameAt line column' = some s') : UpTo s s' := by
  obtain ⟨t, ht, -, hstart, -, rfl⟩ := nameAt_eq_some_iff_hasToken.mp h
  obtain ⟨u, hu, -, -, hstop, rfl⟩ := nameAt_eq_some_iff_hasToken.mp h'
  have := start_le_nameStop t
  have := nameStop_le_stop t
  have := nameStop_le_stop u
  rcases eq_or_apart ht hu with rfl | hlt' | hgt
  · exact .inl rfl
  · exact .inr (show t.start < u.start by omega)
  · omega

theorem pairwise_upTo (line : List Char) (n : Nat) :
    ((List.range n).filterMap (nameAt line)).Pairwise UpTo := by
  refine List.Pairwise.filterMap _ (fun i j hlt s hs s' hs' => ?_) List.pairwise_lt_range
  exact upTo_of_lt hlt hs hs'

/-- A name that was left behind is not seen again. -/
theorem scan_eq_dedup (line : List Char) :
    scan line = ((List.range (columns line + 2)).filterMap (nameAt line)).dedup :=
  (pairwise_upTo line _).destutter_eq_dedup

/-- The names that are seen are those of the tokens that have one. -/
theorem mem_scan_iff : s ∈ scan line ↔ ∃ t, HasToken line t ∧ t.name ≠ [] ∧ s = t.span := by
  rw [scan_eq_dedup, List.mem_dedup, List.mem_filterMap]
  constructor
  · rintro ⟨column, -, h⟩
    obtain ⟨t, ht, hne, -, -, rfl⟩ := nameAt_eq_some_iff_hasToken.mp h
    exact ⟨t, ht, hne, rfl⟩
  · rintro ⟨t, ht, hne, rfl⟩
    obtain ⟨k, rfl, hstart, -⟩ := exists_cut_of_hasToken ht
    have hle : t.start ≤ columns k.line := hstart ▸ k.start_le
    have := start_le_nameStop t
    refine ⟨t.start, List.mem_range.mpr (by omega), ?_⟩
    exact nameAt_eq_some_iff_hasToken.mpr ⟨t, ht, hne, by omega, by omega, rfl⟩

/-- The names that are seen come in the order of the line, and no two of them touch. -/
theorem pairwise_scan (line : List Char) :
    (scan line).Pairwise fun s s' => s.stop < s'.start := by
  have hseen : (scan line).Pairwise UpTo :=
    (pairwise_upTo line _).sublist (List.destutter_sublist _ _)
  have hnodup : (scan line).Nodup := by
    rw [scan_eq_dedup]
    exact List.nodup_dedup _
  refine (hseen.and hnodup).imp_of_mem fun {s s'} hs hs' ⟨hle, hne⟩ => ?_
  obtain ⟨t, ht, -, rfl⟩ := mem_scan_iff.mp hs
  obtain ⟨u, hu, -, rfl⟩ := mem_scan_iff.mp hs'
  have hstart : t.start < u.start := hle.resolve_left hne
  have := nameStop_le_stop t
  have := start_le_nameStop u
  have := nameStop_le_stop u
  rcases eq_or_apart ht hu with rfl | hlt | hgt
  · exact absurd rfl hne
  · exact show t.nameStop < u.start by omega
  · omega

/-- The columns that see a name are those from its first one to the one just behind it. -/
theorem nameAt_eq_some_iff_of_mem_scan (h : s ∈ scan line) : nameAt line column = some s ↔
    s.start ≤ min column (columns line) ∧ min column (columns line) ≤ s.stop := by
  constructor
  · intro hs
    obtain ⟨t, -, -, hstart, hstop, rfl⟩ := nameAt_eq_some_iff_hasToken.mp hs
    exact ⟨hstart, hstop⟩
  · rintro ⟨hstart, hstop⟩
    obtain ⟨t, ht, hne, rfl⟩ := mem_scan_iff.mp h
    exact nameAt_eq_some_iff_hasToken.mpr ⟨t, ht, hne, hstart, hstop, rfl⟩

/-- A name stands between two borders of the line. -/
theorem cut_name_of_mem_scan (h : s ∈ scan line) : s.start < s.stop ∧
    columns (leftOf s.start line) = s.start ∧ columns (leftOf s.stop line) = s.stop ∧
    rightOf s.start (leftOf s.stop line) = s.name := by
  obtain ⟨t, ⟨marker, front, rest, -, -, -, -, -, rfl, hstart⟩, hne, rfl⟩ := mem_scan_iff.mp h
  obtain ⟨value, htext⟩ := name_isPrefix t
  have hstop : t.nameStop = columns (marker ++ front ++ t.name) := by
    rw [columns_append, ← hstart]
    rfl
  have hfront : leftOf t.start (marker ++ front ++ t.text ++ rest) = marker ++ front := by
    rw [hstart, List.append_assoc _ t.text]
    exact leftOf_columns_append _ _
  have hname : leftOf t.nameStop (marker ++ front ++ t.text ++ rest) =
      marker ++ front ++ t.name := by
    rw [hstop, ← htext, ← List.append_assoc, List.append_assoc _ value]
    exact leftOf_columns_append _ _
  have hpos := columns_pos hne
  refine ⟨Nat.lt_add_of_pos_right hpos, ?_, ?_, ?_⟩
  · show columns (leftOf t.start _) = t.start
    rw [hfront, hstart]
  · show columns (leftOf t.nameStop _) = t.nameStop
    rw [hname, hstop]
  · show rightOf t.start (leftOf t.nameStop _) = t.name
    rw [hname, hstart]
    exact rightOf_columns_append _ _

/-- Reading a line column by column finds its options, each once, in the order of the line, and
nothing else. A line without a marker shows no name. The names that are seen are those of the tokens
behind the marker that do not start with a `=`, each the token up to its first `=`. A name is what
stands in the line between its two columns. It is seen from just those columns, the one behind its
last included, where columns behind the line count as its end; and between two names there is
room. -/
theorem scan_exact (line : List Char) :
    ((¬ ∃ marker, IsMarker marker ∧ marker <+: line) → ∀ column, nameAt line column = none) ∧
    (scan line).Pairwise (fun s s' => s.stop < s'.start) ∧
    (∀ s, s ∈ scan line ↔ ∃ t, HasToken line t ∧ t.text.takeWhile (· != '=') ≠ [] ∧
      s = ⟨t.text.takeWhile (· != '='), t.start,
        t.start + columns (t.text.takeWhile (· != '='))⟩) ∧
    ∀ s ∈ scan line,
      (∀ column, nameAt line column = some s ↔
        s.start ≤ min column (columns line) ∧ min column (columns line) ≤ s.stop) ∧
      s.start < s.stop ∧ columns (leftOf s.start line) = s.start ∧
      columns (leftOf s.stop line) = s.stop ∧ rightOf s.start (leftOf s.stop line) = s.name := by
  refine ⟨fun h column => ?_, pairwise_scan line, fun s => mem_scan_iff, fun s hs =>
    ⟨fun column => nameAt_eq_some_iff_of_mem_scan hs, cut_name_of_mem_scan hs⟩⟩
  rw [Option.eq_none_iff_forall_ne_some]
  intro s hs
  obtain ⟨k, rfl, -⟩ := Cut.nameAt_eq_some_iff.mp hs
  exact h ⟨k.marker, k.marked, k.marker_isPrefix⟩

/-- A modeline whose first token has no name, and whose others have a character of two columns. -/
def namesLine : List Char := "//camel-k:=x 😀=1=2 y😀".toList

/-- Two names are seen, with room between them, the second one also from far behind the line, and
there is nothing to be seen in a line that is not a modeline. -/
theorem scan_exact_namesLine :
    scan namesLine = [⟨['😀'], 13, 15⟩, ⟨['y', '😀'], 20, 23⟩] ∧
    nameAt namesLine 1000 = some ⟨['y', '😀'], 20, 23⟩ ∧
    rightOf 13 (leftOf 15 namesLine) = ['😀'] ∧
    nameAt "// x=1".toList 3 = none := by
  have seen : scan namesLine = [⟨['😀'], 13, 15⟩, ⟨['y', '😀'], 20, 23⟩] := by decide +kernel
  have first : ⟨['😀'], 13, 15⟩ ∈ scan namesLine := seen ▸ by simp
  have second : ⟨['y', '😀'], 20, 23⟩ ∈ scan namesLine := seen ▸ by simp
  obtain ⟨-, -, -, spans⟩ := scan_exact namesLine
  refine ⟨seen, ?_, ?_, ?_⟩
  · exact ((spans _ second).1 1000).mpr (by decide)
  · exact (spans _ first).2.2.2.2
  · refine (scan_exact "// x=1".toList).1 ?_ 3
    rintro ⟨marker, marked, rest, hrest⟩
    have hnone : markerLength? "// x=1".toList = none := rfl
    have hsome := markerLength?_append marked rest
    rw [hrest, hnone] at hsome
    cases hsome

end ModelineAssist.Modeline
