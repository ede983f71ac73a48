import Mathlib.Data.List.Find
import ModelineAssist.Modeline.ByOffset
import ModelineAssist.Proofs.Modeline.Cut
import ModelineAssist.Proofs.Text.Offsets

/-!
Searching a modeline by offsets. Every place that the search cuts the line at or asks the column of
is a border, so it never goes wrong, and it finds what the characters of the line tell.
-/
namespace ModelineAssist.Modeline
open Text

variable {line text marker typed right : List Char} {column n offset : Nat} {s : Stretch}

/-! ### Stretches -/

/-- The token that a stretch makes in a text that starts at a column. -/
def Stretch.token (n : Nat) (s : Stretch) : Token := ⟨n + columns s.front, s.text⟩

theorem token_start (marker : List Char) (s : Stretch) :
    (s.token (columns marker)).start = columns (marker ++ s.front) :=
  (columns_append _ _).symm

theorem token_name (n : Nat) (s : Stretch) : (s.token n).name = s.name := rfl

theorem token_nameStop (marker : List Char) (s : Stretch) :
    (s.token (columns marker)).nameStop = columns (marker ++ s.front ++ s.name) := by
  rw [Token.nameStop, token_start, token_name, columns_append (marker ++ s.front)]

theorem token_shift (n : Nat) (c : Char) (s : Stretch) :
    (s.shift c).token n = s.token (n + width c) := by
  simp [Stretch.token, Stretch.shift, Nat.add_assoc]

theorem map_token_shift (n : Nat) (c : Char) (ss : List Stretch) :
    (ss.map (.shift c)).map (Stretch.token n) = ss.map (Stretch.token (n + width c)) := by
  rw [List.map_map]
  exact List.map_congr_left fun s _ => token_shift n c s

theorem map_token_prependSolid (n : Nat) (c : Char) (ss : List Stretch) :
    (prependSolid c ss).map (Stretch.token n) =
      consSolid n c (ss.map (Stretch.token (n + width c))) := by
  cases ss with
  | nil => rfl
  | cons s ss =>
    by_cases hfront : s.front = []
    · have hstart : (s.token (n + width c)).start = n + width c := by simp [Stretch.token, hfront]
      rw [prependSolid, if_pos hfront, List.map_cons, List.map_cons, map_token_shift, consSolid,
        if_pos hstart]
      rfl
    · have hstart : (s.token (n + width c)).start ≠ n + width c :=
        Nat.ne_of_gt (Nat.lt_add_of_pos_right (columns_pos hfront))
      rw [prependSolid, if_neg hfront, List.map_cons, map_token_shift, List.map_cons, consSolid,
        if_neg hstart]
      rfl

/-- The tokens of a text are its stretches, each at the column behind what stands in front of it. -/
theorem tokens_eq (n : Nat) (text : List Char) :
    tokens n text = (stretches text).map (Stretch.token n) := by
  induction text generalizing n with
  | nil => rfl
  | cons c cs ih =>
    rw [tokens, stretches, ih]
    cases isSolid c with
    | false => exact (map_token_shift n c _).symm
    | true => exact (map_token_prependSolid n c _).symm

theorem mem_prependSolid {c : Char} {ss : List Stretch} (h : s ∈ prependSolid c ss) :
    s = ⟨[], [c]⟩ ∨ (∃ u ∈ ss, u.front = [] ∧ s = ⟨[], c :: u.text⟩) ∨ ∃ u ∈ ss, s = u.shift c := by
  cases ss with
  | nil => exact .inl (List.mem_singleton.mp h)
  | cons u us =>
    by_cases hu : u.front = []
    · rw [prependSolid, if_pos hu] at h
      rcases List.mem_cons.mp h with rfl | h
      · exact .inr (.inl ⟨u, List.mem_cons_self, hu, rfl⟩)
      · obtain ⟨v, hv, rfl⟩ := List.mem_map.mp h
        exact .inr (.inr ⟨v, List.mem_cons_of_mem _ hv, rfl⟩)
    · rw [prependSolid, if_neg hu] at h
      rcases List.mem_cons.mp h with rfl | h
      · exact .inl rfl
      · obtain ⟨v, hv, rfl⟩ := List.mem_map.mp h
        exact .inr (.inr ⟨v, hv, rfl⟩)

/-- A stretch stands in the text behind what is in front of it. -/
theorem isPrefix_of_mem_stretches (h : s ∈ stretches text) : s.front ++ s.text <+: text := by
  induction text generalizing s with
  | nil => cases h
  | cons c cs ih =>
    have shifted {u : Stretch} (hu : u ∈ stretches cs) :
        (u.shift c).front ++ (u.shift c).text <+: c :: cs :=
      List.cons_prefix_cons.mpr ⟨rfl, ih hu⟩
    rw [stretches] at h
    split at h
    · rcases mem_prependSolid h with rfl | ⟨u, hu, hfront, rfl⟩ | ⟨u, hu, rfl⟩
      · exact List.cons_prefix_cons.mpr ⟨rfl, List.nil_prefix⟩
      · have htext := ih hu
        rw [hfront] at htext
        exact List.cons_prefix_cons.mpr ⟨rfl, htext⟩
      · exact shifted hu
    · obtain ⟨u, hu, rfl⟩ := List.mem_map.mp h
      exact shifted hu

/-- Behind a marker, a stretch starts at a border. -/
theorem front_isPrefix (h : s ∈ stretches text) (marker : List Char) :
    marker ++ s.front <+: marker ++ text :=
  (List.prefix_append_right_inj marker).mpr
    ((List.prefix_append _ _).trans (isPrefix_of_mem_stretches h))

/-- What a stretch starts with ends at a border. -/
theorem front_append_isPrefix {part : List Char} (h : s ∈ stretches text) (hp : part <+: s.text)
    (marker : List Char) : marker ++ s.front ++ part <+: marker ++ text := by
  rw [List.append_assoc]
  exact (List.prefix_append_right_inj marker).mpr
    (((List.prefix_append_right_inj _).mpr hp).trans (isPrefix_of_mem_stretches h))

theorem Stretch.name_isPrefix (s : Stretch) : s.name <+: s.text := List.takeWhile_prefix _

theorem start_byteLength (marker : List Char) (s : Stretch) :
    s.start (byteLength marker) = byteLength (marker ++ s.front) :=
  (byteLength_append _ _).symm

/-- Offsets and columns agree on which stretch a cursor touches. -/
theorem find?_touches_token {left : List Char} (hleft : left <+: marker ++ text) :
    (tokens (columns marker) text).find? (·.touches (columns left)) =
      ((stretches text).find? (·.touches (byteLength marker) (byteLength left))).map
        (Stretch.token (columns marker)) := by
  rw [tokens_eq, List.find?_map]
  refine congrArg _ (List.find?_congr fun s hs => ?_)
  have hstart := byteLength_le_iff (front_isPrefix hs marker) hleft
  have hstop := byteLength_le_iff hleft (front_append_isPrefix hs List.prefix_rfl marker)
  simp only [Function.comp, Token.touches, Token.stop, Stretch.touches, Stretch.token,
    start_byteLength, ← byteLength_append, ← columns_append, hstart, hstop]

/-! ### Where a column stands -/

/-- Where a column of a line can stand: in a line without a marker, in front of the end of the
marker, or behind it. -/
inductive Stands (line : List Char) (column : Nat) : Prop
  | unmarked : markerLength? line = none → markerStop? line = none → Stands line column
  | inFront (n offset : Nat) : markerLength? line = some n → markerStop? line = some offset →
      (leftOf column line).length < n → byteLength (leftOf column line) < offset →
      Stands line column
  | behind (marker typed right : List Char) : line = marker ++ typed ++ right →
      markerLength? line = some marker.length → markerStop? line = some (byteLength marker) →
      leftOf column line = marker ++ typed → rightOf column line = right → Stands line column

theorem stands (line : List Char) (column : Nat) : Stands line column := by
  cases hm : markerLength? line with
  | none => exact .unmarked hm (by rw [markerStop?, hm, Option.map_none])
  | some n =>
    obtain ⟨marker, options, marked, rfl, rfl⟩ := exists_marker_of_markerLength? hm
    have hmarker : marker <+: marker ++ options := List.prefix_append marker options
    have hleft := leftOf_isPrefix column (marker ++ options)
    by_cases hlt : (leftOf column (marker ++ options)).length < marker.length
    · exact .inFront _ _ hm (markerStop?_append marked options) hlt
        ((byteLength_lt_iff_length_lt hleft hmarker).mpr hlt)
    · obtain ⟨typed, htyped⟩ :=
        List.prefix_of_prefix_length_le hmarker hleft (Nat.le_of_not_lt hlt)
      refine .behind marker typed _ ?_ hm (markerStop?_append marked options) htyped.symm rfl
      rw [htyped, leftOf_append_rightOf]

/-! ### The parts that are cut out -/

theorem slice_left (marker typed right : List Char) : slice (marker ++ typed ++ right)
    (byteLength marker) (byteLength (marker ++ typed)) = .ok typed :=
  slice_eq_ok_iff.mpr ⟨marker, right, rfl, rfl, rfl⟩

theorem slice_right (left right : List Char) :
    slice (left ++ right) (byteLength left) (byteLength (left ++ right)) = .ok right :=
  slice_eq_ok_iff.mpr ⟨left, [], (List.append_nil _).symm, rfl, rfl⟩

theorem slice_options (marker typed right : List Char) : slice (marker ++ typed ++ right)
    (byteLength marker) (byteLength (marker ++ typed ++ right)) = .ok (typed ++ right) := by
  rw [List.append_assoc]
  exact slice_right marker (typed ++ right)

theorem exists_front_append_solidEnd (typed : List Char) :
    ∃ front before, typed = front ++ before ∧ solidEnd typed = before := by
  obtain ⟨front, -, -, hsplit⟩ := Cut.exists_append_solidEnd typed
  exact ⟨front, solidEnd typed, hsplit, rfl⟩

/-- Every place that a search behind a marker cuts the line at or asks the column of: the parts that
it takes lie between borders, one behind the other, and each offset that it computes from the length
of a part is a border again. -/
structure OnBorders (line : List Char) (marker cursor : Nat) : Prop where
  marker_isBorder : IsBorder line marker
  cursor_isBorder : IsBorder line cursor
  marker_le : marker ≤ cursor
  cursor_le : cursor ≤ byteLength line
  left : ∃ left, slice line marker cursor = .ok left ∧ byteLength (solidEnd left) ≤ cursor ∧
    IsBorder line (cursor - byteLength (solidEnd left))
  right : ∃ right, slice line cursor (byteLength line) = .ok right ∧
    IsBorder line (cursor + byteLength (right.takeWhile isSolid))
  options : ∃ options, slice line marker (byteLength line) = .ok options ∧
    ∀ s ∈ stretches options, IsBorder line (s.start marker) ∧
      IsBorder line (s.start marker + byteLength s.name)

theorem onBorders (marker typed right : List Char) :
    OnBorders (marker ++ typed ++ right) (byteLength marker) (byteLength (marker ++ typed)) where
  marker_isBorder := isBorder_of_isPrefix ⟨typed ++ right, (List.append_assoc ..).symm⟩
  cursor_isBorder := isBorder_of_isPrefix (List.prefix_append _ _)
  marker_le := byteLength_le_of_isPrefix (List.prefix_append _ _)
  cursor_le := byteLength_le_of_isPrefix (List.prefix_append _ _)
  left := by
    obtain ⟨front, before, rfl, hbefore⟩ := exists_front_append_solidEnd typed
    refine ⟨_, slice_left _ _ _, ?_, ?_⟩ <;>
      rw [hbefore, ← List.append_assoc, byteLength_append (marker ++ front)]
    · exact Nat.le_add_left _ _
    · rw [Nat.add_sub_cancel]
      exact isBorder_of_isPrefix ⟨before ++ right, by simp only [List.append_assoc]⟩
  right := by
    refine ⟨right, slice_right _ _, ?_⟩
    rw [← byteLength_append]
    exact isBorder_of_isPrefix ((List.prefix_append_right_inj _).mpr (List.takeWhile_prefix _))
  options := by
    refine ⟨_, slice_options marker typed right, fun s hs => ?_⟩
    rw [start_byteLength, ← byteLength_append, List.append_assoc marker typed]
    exact ⟨isBorder_of_isPrefix (front_isPrefix hs marker),
      isBorder_of_isPrefix (front_append_isPrefix hs s.name_isPrefix marker)⟩

/-- A search comes behind the marker only at such places. -/
theorem onBorders_of_le (hstop : markerStop? line = some offset)
    (hle : offset ≤ byteLength (leftOf column line)) :
    OnBorders line offset (byteLength (leftOf column line)) := by
  cases stands line column with
  | unmarked hlength hnone =>
    rw [hnone] at hstop
    cases hstop
  | inFront n offset' hlength hoffset hlt hlt' =>
    obtain rfl := Option.some.inj (hoffset.symm.trans hstop)
    exact absurd hle (Nat.not_le.mpr hlt')
  | behind marker typed right hline hlength hoffset hleft hright =>
    obtain rfl := Option.some.inj (hoffset.symm.trans hstop)
    rw [hleft, hline]
    exact onBorders marker typed right

/-! ### The search -/

/-- Searching by offsets never goes wrong, and finds the name that is being typed. -/
theorem typedNameByOffset_eq (line : List Char) (column : Nat) :
    typedNameByOffset line column = .ok (typedNameAt line column) := by
  cases stands line column with
  | unmarked hlength hstop =>
    simp only [typedNameByOffset, offsetOfColumn_eq, typedNameAt, hlength, hstop]
    rfl
  | inFront n offset hlength hstop hlt hlt' =>
    simp only [typedNameByOffset, offsetOfColumn_eq, typedNameAt, hlength, hstop, bind,
      Except.bind, if_pos hlt, if_pos hlt']
    rfl
  | behind marker typed right hline hlength hstop hleft hright =>
    subst hline
    obtain ⟨front, before, rfl, hbefore⟩ := exists_front_append_solidEnd typed
    have hbehind : ¬ (marker ++ (front ++ before)).length < marker.length := by simp
    -- The stretch around the cursor starts and stops at borders, whose columns are told.
    have hback : goBack (byteLength (marker ++ (front ++ before))) (byteLength before) =
        .ok (byteLength (marker ++ front)) := by
      rw [← List.append_assoc]
      exact goBack_append _ _
    have hfront : columnOfOffset (marker ++ (front ++ before) ++ right)
        (byteLength (marker ++ front)) =
          .ok (columns (marker ++ (front ++ before)) - columns before) := by
      rw [← List.append_assoc, columns_append (marker ++ front), Nat.add_sub_cancel]
      exact columnOfOffset_of_isPrefix ⟨before ++ right, (List.append_assoc _ _ _).symm⟩
    have hafter : columnOfOffset (marker ++ (front ++ before) ++ right)
        (byteLength (marker ++ (front ++ before)) + byteLength (right.takeWhile isSolid)) =
          .ok (columns (marker ++ (front ++ before)) + columns (right.takeWhile isSolid)) := by
      rw [← byteLength_append, ← columns_append]
      exact columnOfOffset_of_isPrefix
        ((List.prefix_append_right_inj _).mpr (List.takeWhile_prefix _))
    simp only [typedNameByOffset, offsetOfColumn_eq, typedNameAt, hlength, hstop, hleft, hright,
      if_neg (not_byteLength_append_lt _ _), if_neg hbehind, slice_left, slice_right,
      List.drop_left, hbefore, hback, hfront, hafter, bind, Except.bind]
    split <;> rfl

/-- And it finds the name that the column lies on. -/
theorem nameByOffset_eq (line : List Char) (column : Nat) :
    nameByOffset line column = .ok (nameAt line column) := by
  cases stands line column with
  | unmarked hlength hstop =>
    simp only [nameByOffset, nameAt, hlength, hstop]
    rfl
  | inFront n offset hlength hstop hlt hlt' =>
    simp only [nameByOffset, offsetOfColumn_eq, nameAt, hlength, hstop, bind,
      Except.bind, if_pos hlt, if_pos hlt']
    rfl
  | behind marker typed right hline hlength hstop hleft hright =>
    have hoptions := slice_options marker typed right
    rw [← hline] at hoptions
    rw [List.append_assoc] at hline
    have hleft' : marker ++ typed <+: marker ++ (typed ++ right) :=
      ⟨right, List.append_assoc _ _ _⟩
    have hbehind : ¬ (marker ++ typed).length < marker.length := by simp
    have htake : line.take marker.length = marker := by rw [hline, List.take_left]
    have hdrop : line.drop marker.length = typed ++ right := by rw [hline, List.drop_left]
    simp only [nameByOffset, offsetOfColumn_eq, nameAt, hlength, hstop, hleft, htake, hdrop,
      if_neg (not_byteLength_append_lt _ _), if_neg hbehind, hoptions,
      find?_touches_token hleft', bind, Except.bind]
    cases hfind : (stretches (typed ++ right)).find?
        (·.touches (byteLength marker) (byteLength (marker ++ typed))) with
    | none => rfl
    | some s =>
      have hs : s ∈ stretches (typed ++ right) := List.mem_of_find?_eq_some hfind
      have hfront := front_isPrefix hs marker
      have hname := front_append_isPrefix hs s.name_isPrefix marker
      -- Whether the cursor lies behind the name is the same in bytes and in columns.
      have hbeyond := byteLength_lt_iff hname hleft'
      rw [← hline] at hfront hname
      simp only [Option.map_some, Bool.or_eq_true, decide_eq_true_eq]
      simp only [start_byteLength, ← byteLength_append, hbeyond, token_start, token_name,
        token_nameStop, columnOfOffset_of_isPrefix hfront, columnOfOffset_of_isPrefix hname]
      split <;> rfl

/-- Offsets and columns of a line tell the same places. A column, however far behind the line,
becomes the last border that it reaches; a later column never becomes an earlier border; a border
becomes a column that becomes the same border again; and later borders have later columns. Every
place that a search behind the marker cuts the line at or asks the column of is a border, and both
searches end well at every column, with what the characters of the line tell. -/
theorem offsets_onBorders (line : List Char) :
    (∀ column, ∃ offset, offsetOfColumn line column = .ok offset ∧ offset ≤ byteLength line ∧
      IsGreatest {b | IsBorder line b ∧ ∃ n, columnOfOffset line b = .ok n ∧
        n ≤ min column (columns line)} offset) ∧
    (∀ column column' offset offset', column ≤ column' →
      offsetOfColumn line column = .ok offset → offsetOfColumn line column' = .ok offset' →
        offset ≤ offset') ∧
    (∀ offset, IsBorder line offset →
      ∃ n, columnOfOffset line offset = .ok n ∧ offsetOfColumn line n = .ok offset) ∧
    (∀ offset offset' n n', IsBorder line offset → IsBorder line offset' →
      columnOfOffset line offset = .ok n → columnOfOffset line offset' = .ok n' →
        offset < offset' → n < n') ∧
    (∀ column marker cursor, markerStop? line = some marker →
      offsetOfColumn line column = .ok cursor → marker ≤ cursor →
        OnBorders line marker cursor) ∧
    ∀ column, typedNameByOffset line column = .ok (typedNameAt line column) ∧
      nameByOffset line column = .ok (nameAt line column) := by
  refine ⟨fun column => ?_, fun column column' offset offset' hle h h' => ?_,
    fun offset h => h.exists_column, fun _ _ _ _ h h' hn hn' hlt => h.column_lt h' hn hn' hlt,
    fun column stop cursor hstop hcursor hle => ?_,
    fun column => ⟨typedNameByOffset_eq line column, nameByOffset_eq line column⟩⟩
  · have hgreatest := isGreatest_byteLength_leftOf line column
    exact ⟨_, offsetOfColumn_eq line column, hgreatest.1.1.le, hgreatest⟩
  · rw [offsetOfColumn_eq] at h h'
    obtain rfl := Except.ok.inj h
    obtain rfl := Except.ok.inj h'
    exact byteLength_leftOf_le hle line
  · rw [offsetOfColumn_eq] at hcursor
    obtain rfl := Except.ok.inj hcursor
    exact onBorders_of_le hstop hle

/-- A modeline with a wide blank, a wide character in its first option, and a value. -/
def wideNameLine : List Char := "\u3000# camel-k:a😀b\u2003x=1".toList

/-- A column in the middle of the wide character becomes the border in front of it, where both
searches cut the line at borders and end well. -/
theorem offsets_onBorders_wideNameLine :
    (offsetOfColumn wideNameLine 13 = .ok 14 ∧ offsetOfColumn wideNameLine 1000 = .ok 25 ∧
      14 ≤ 25) ∧
    (IsBorder wideNameLine 14 ∧
      ∃ n, columnOfOffset wideNameLine 14 = .ok n ∧ offsetOfColumn wideNameLine n = .ok 14) ∧
    (columnOfOffset wideNameLine 14 = .ok 12 ∧ columnOfOffset wideNameLine 18 = .ok 14 ∧
      12 < 14) ∧
    (markerStop? wideNameLine = some 13 ∧ OnBorders wideNameLine 13 14) ∧
    typedNameByOffset wideNameLine 13 = .ok (some ⟨['a'], 11, 15⟩) ∧
    nameByOffset wideNameLine 13 = .ok (some ⟨['a', '😀', 'b'], 11, 15⟩) := by
  have inside : offsetOfColumn wideNameLine 13 = .ok 14 := rfl
  have beyond : offsetOfColumn wideNameLine 1000 = .ok 25 := rfl
  have inFront : IsBorder wideNameLine 14 :=
    isBorder_iff.mpr ⟨wideNameLine.take 12, List.take_prefix 12 wideNameLine, rfl⟩
  have behind : IsBorder wideNameLine 18 :=
    isBorder_iff.mpr ⟨wideNameLine.take 13, List.take_prefix 13 wideNameLine, rfl⟩
  have inFrontColumn : columnOfOffset wideNameLine 14 = .ok 12 := rfl
  have behindColumn : columnOfOffset wideNameLine 18 = .ok 14 := rfl
  have marked : markerStop? wideNameLine = some 13 := rfl
  obtain ⟨-, grows, returns, apart, borders, found⟩ := offsets_onBorders wideNameLine
  have grown := grows 13 1000 14 25 (by decide) inside beyond
  have parted := apart 14 18 12 14 inFront behind inFrontColumn behindColumn (by decide)
  exact ⟨⟨inside, beyond, grown⟩, ⟨inFront, returns 14 inFront⟩,
    ⟨inFrontColumn, behindColumn, parted⟩, ⟨marked, borders 13 13 14 marked inside (by decide)⟩,
    found 13⟩

end ModelineAssist.Modeline
