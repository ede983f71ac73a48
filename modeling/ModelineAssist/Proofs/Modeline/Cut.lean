import ModelineAssist.Modeline.Cursor
import ModelineAssist.Proofs.Modeline.Marker
import ModelineAssist.Proofs.Modeline.Token

/-!
A modeline cut at a cursor: the marker, the options in front of the stretch of solid characters
around the cursor, the two parts of that stretch, and the rest. Every column behind the marker is
such a cut, and what the cursor points at can be read off it. Other texts in place of the stretch
make other modelines, cut at the same place.
-/
namespace ModelineAssist.Modeline
open Text

/-- A modeline and a place in it behind the marker. -/
structure Cut where
  marker : List Char
  /-- What stands between the marker and the stretch around the cursor. -/
  front : List Char
  /-- The part of the stretch left of the cursor. -/
  before : List Char
  /-- The part of the stretch right of it. -/
  after : List Char
  /-- What stands behind the stretch. -/
  rest : List Char
  marked : IsMarker marker
  front_loose : EndsLoose front
  before_solid : Solid before
  after_solid : Solid after
  rest_loose : StartsLoose rest

namespace Cut

/-- The stretch around the cursor. -/
def stretch (k : Cut) : List Char := k.before ++ k.after

/-- What stands left of the cursor. -/
def left (k : Cut) : List Char := k.marker ++ k.front ++ k.before

/-- The whole line. -/
def line (k : Cut) : List Char := k.marker ++ k.front ++ k.stretch ++ k.rest

/-- The column at which the stretch starts. -/
def start (k : Cut) : Nat := columns (k.marker ++ k.front)

/-- The column of the cursor. -/
def cursor (k : Cut) : Nat := columns k.left

/-- The column at which the stretch stops. -/
def stop (k : Cut) : Nat := columns (k.marker ++ k.front ++ k.stretch)

theorem solid_stretch (k : Cut) : Solid k.stretch :=
  solid_append.mpr ⟨k.before_solid, k.after_solid⟩

theorem cursor_eq (k : Cut) : k.cursor = k.start + columns k.before := columns_append _ _

theorem stop_eq (k : Cut) : k.stop = k.start + columns k.stretch := columns_append _ _

theorem start_le_cursor (k : Cut) : k.start ≤ k.cursor := by
  rw [cursor_eq]
  exact Nat.le_add_right _ _

theorem cursor_le_stop (k : Cut) : k.cursor ≤ k.stop := by
  rw [cursor_eq, stop_eq, stretch, columns_append, ← Nat.add_assoc]
  exact Nat.le_add_right _ _

theorem start_lt_stop_iff {k : Cut} : k.start < k.stop ↔ k.stretch ≠ [] := by
  rw [stop_eq]
  constructor
  · intro h hnil
    simp [hnil] at h
  · intro h
    have := columns_pos h
    omega

theorem stop_le (k : Cut) : k.stop ≤ columns k.line := by
  rw [line, columns_append, ← stop]
  exact Nat.le_add_right _ _

theorem start_le (k : Cut) : k.start ≤ columns k.line :=
  Nat.le_trans k.start_le_cursor (Nat.le_trans k.cursor_le_stop k.stop_le)

theorem line_eq_left_append (k : Cut) : k.line = k.left ++ (k.after ++ k.rest) := by
  simp [line, left, stretch]

theorem markerLength?_line (k : Cut) : markerLength? k.line = some k.marker.length := by
  simp only [line, List.append_assoc]
  exact markerLength?_append k.marked _

theorem take_line (k : Cut) : k.line.take k.marker.length = k.marker := by
  simp [line]

theorem drop_line (k : Cut) : k.line.drop k.marker.length = k.front ++ k.stretch ++ k.rest := by
  simp [line]

theorem marker_isPrefix (k : Cut) : k.marker <+: k.line :=
  ⟨k.front ++ k.stretch ++ k.rest, by simp [line]⟩

/-! ### Every place behind the marker is a cut -/

variable {text : List Char} {column n : Nat}

theorem solidEnd_append {front before : List Char} (hf : EndsLoose front) (hb : Solid before) :
    solidEnd (front ++ before) = before := by
  have hreverse : ∀ c ∈ before.reverse, isSolid c = true := fun c hc =>
    hb c (List.mem_reverse.mp hc)
  have hfront : front.reverse.takeWhile isSolid = [] := by
    cases h : front.reverse with
    | nil => rfl
    | cons c cs =>
      have hc : front.getLast? = some c := by rw [← List.head?_reverse, h]; rfl
      rw [List.takeWhile_cons_of_neg (by simp [hf c hc])]
  rw [solidEnd, List.reverse_append, List.takeWhile_append_of_pos hreverse, hfront,
    List.append_nil, List.reverse_reverse]

/-- What stands in front of the solid characters at the end of a text ends in white space. -/
theorem exists_append_solidEnd (text : List Char) :
    ∃ front, EndsLoose front ∧ Solid (solidEnd text) ∧ text = front ++ solidEnd text := by
  refine ⟨(text.reverse.dropWhile isSolid).reverse, ?_, ?_, ?_⟩
  · intro c hc
    rw [List.getLast?_reverse] at hc
    have := List.head?_dropWhile_not isSolid text.reverse
    rw [Option.mem_def.mp hc] at this
    simpa using this
  · intro c hc
    exact List.all_eq_true.mp List.all_takeWhile c (List.mem_reverse.mp hc)
  · rw [solidEnd, ← List.reverse_append, List.takeWhile_append_dropWhile, List.reverse_reverse]

/-- A text falls into solid characters and what does not start with one. -/
theorem startsLoose_dropWhile (text : List Char) : StartsLoose (text.dropWhile isSolid) := by
  intro c hc
  have := List.head?_dropWhile_not isSolid text
  rw [Option.mem_def.mp hc] at this
  simpa using this

/-- A column that does not lie in the marker cuts the line. -/
theorem exists_cut (hm : markerLength? text = some n) (hn : n ≤ (leftOf column text).length) :
    ∃ k : Cut, k.line = text ∧ k.left = leftOf column text := by
  obtain ⟨marker, options, marked, rfl, rfl⟩ := exists_marker_of_markerLength? hm
  have hprefix : marker <+: leftOf column (marker ++ options) :=
    List.prefix_of_prefix_length_le (List.prefix_append marker options)
      ⟨_, leftOf_append_rightOf _ _⟩ hn
  obtain ⟨typed, htyped⟩ := hprefix
  obtain ⟨front, hfront, hbefore, hsplit⟩ := exists_append_solidEnd typed
  have hleft : marker ++ front ++ solidEnd typed = leftOf column (marker ++ options) := by
    rw [List.append_assoc, ← hsplit, htyped]
  refine ⟨⟨marker, front, solidEnd typed, (rightOf column (marker ++ options)).takeWhile isSolid,
    (rightOf column (marker ++ options)).dropWhile isSolid, marked, hfront, hbefore,
    List.all_eq_true.mp List.all_takeWhile, startsLoose_dropWhile _⟩, ?_, hleft⟩
  rw [line_eq_left_append, List.takeWhile_append_dropWhile]
  exact (congrArg (· ++ _) hleft).trans (leftOf_append_rightOf _ _)

/-! ### What the cursor points at -/

/-- Right of a column that cuts the line as a cut does stands what the cut has there. -/
theorem rightOf_line {k : Cut} (h : leftOf column k.line = k.left) :
    rightOf column k.line = k.after ++ k.rest := by
  rw [rightOf, h, line_eq_left_append, List.drop_left]

theorem takeWhile_isSolid_append {stretch rest : List Char} (hs : Solid stretch)
    (hr : StartsLoose rest) : (stretch ++ rest).takeWhile isSolid = stretch := by
  rw [List.takeWhile_append_of_pos hs]
  cases rest with
  | nil => simp
  | cons c cs => rw [List.takeWhile_cons_of_neg (by simp [hr c rfl]), List.append_nil]

/-- The name that is being typed at a cut: the stretch around the cursor, unless it holds a `=`. -/
theorem typedNameAt_line {k : Cut} (h : leftOf column k.line = k.left) :
    typedNameAt k.line column =
      if '=' ∈ k.stretch then none else some ⟨k.before, k.start, k.stop⟩ := by
  have hdrop : k.left.drop k.marker.length = k.front ++ k.before := by simp [left]
  have hlength : ¬ k.left.length < k.marker.length := by simp [left]
  have hstart : columns k.left - columns k.before = k.start := by
    rw [← cursor, cursor_eq, Nat.add_sub_cancel]
  have hstop : columns k.left + columns k.after = k.stop := by
    rw [← cursor, cursor_eq, stop_eq, stretch, columns_append, Nat.add_assoc]
  simp only [typedNameAt, markerLength?_line, h, if_neg hlength, rightOf_line h, hdrop,
    solidEnd_append k.front_loose k.before_solid,
    takeWhile_isSolid_append k.after_solid k.rest_loose, hstart, hstop]
  simp [stretch]

/-- A name is being typed exactly where the line is cut at a stretch without a `=`. -/
theorem typedNameAt_eq_some_iff {typed : TypedName} : typedNameAt text column = some typed ↔
    ∃ k : Cut, k.line = text ∧ k.left = leftOf column text ∧ '=' ∉ k.stretch ∧
      typed = ⟨k.before, k.start, k.stop⟩ := by
  constructor
  · intro h
    have hcut : ∃ k : Cut, k.line = text ∧ k.left = leftOf column text := by
      unfold typedNameAt at h
      split at h
      · simp at h
      · rename_i n hm
        by_cases hn : (leftOf column text).length < n
        · simp [hn] at h
        · exact exists_cut hm (Nat.le_of_not_lt hn)
    obtain ⟨k, rfl, hk⟩ := hcut
    rw [typedNameAt_line hk.symm] at h
    split at h
    · simp at h
    · exact ⟨k, rfl, hk, ‹_›, (Option.some.inj h).symm⟩
  · rintro ⟨k, rfl, hk, heq, rfl⟩
    rw [typedNameAt_line hk.symm, if_neg heq]

/-! ### Tokens -/

/-- The token that a stretch makes, if there is any. -/
def token? (k : Cut) : Option Token := if k.stretch = [] then none else some ⟨k.start, k.stretch⟩

/-- The tokens of a cut: those in front of the stretch, the stretch, and those behind it. -/
theorem tokens_line (k : Cut) :
    tokens (columns k.marker) (k.line.drop k.marker.length) =
      tokens (columns k.marker) k.front ++ k.token?.toList ++ tokens k.stop k.rest := by
  have hstretch : tokens k.start k.stretch = k.token?.toList := by
    unfold token?
    split
    · rw [‹k.stretch = []›]; rfl
    · exact tokens_solid k.solid_stretch ‹_›
  rw [drop_line, tokens_append (.inr k.rest_loose), tokens_append (.inl k.front_loose),
    ← columns_append, ← start, hstretch, stop_eq, start, columns_append, columns_append]
  simp only [Nat.add_assoc]

/-- The tokens in front of the stretch stop before it starts. -/
theorem stop_lt_start {k : Cut} {t : Token} (h : t ∈ tokens (columns k.marker) k.front) :
    t.stop < k.start := by
  rw [start, columns_append]
  exact stop_lt_of_mem_tokens k.front_loose h

/-- The tokens behind the stretch start after it stops. -/
theorem stop_lt_of_mem_rest {k : Cut} {t : Token} (h : t ∈ tokens k.stop k.rest) :
    k.stop < t.start :=
  lt_start_of_mem_tokens k.rest_loose h

/-- The cursor touches the stretch around it. -/
theorem touches_of_mem_token? {k : Cut} {t : Token} (h : t ∈ k.token?) :
    t.touches k.cursor = true := by
  unfold token? at h
  split at h
  · simp at h
  · obtain rfl := Option.some.inj h
    have hstop : k.cursor ≤ (⟨k.start, k.stretch⟩ : Token).stop := by
      rw [Token.stop, ← stop_eq]
      exact k.cursor_le_stop
    simp [Token.touches, k.start_le_cursor, hstop]

/-- The only token that the cursor touches is the stretch around it. -/
theorem find?_touches (k : Cut) :
    (tokens (columns k.marker) (k.line.drop k.marker.length)).find? (·.touches k.cursor) =
      k.token? := by
  have hfront : (tokens (columns k.marker) k.front).find? (·.touches k.cursor) = none := by
    refine List.find?_eq_none.mpr fun t ht => ?_
    have := stop_lt_start ht
    have := k.start_le_cursor
    simp only [Token.touches, Bool.and_eq_true, decide_eq_true_eq]
    omega
  have hrest : (tokens k.stop k.rest).find? (·.touches k.cursor) = none := by
    refine List.find?_eq_none.mpr fun t ht => ?_
    have := stop_lt_of_mem_rest ht
    have := k.cursor_le_stop
    simp only [Token.touches, Bool.and_eq_true, decide_eq_true_eq]
    omega
  rw [tokens_line, List.find?_append, List.find?_append, hfront, hrest]
  cases ht : k.token? with
  | none => rfl
  | some t => simp [touches_of_mem_token? (Option.mem_def.mpr ht)]

/-- The name at a cut: the stretch up to its first `=`, unless the cursor lies behind that. -/
theorem nameAt_line {k : Cut} (h : leftOf column k.line = k.left) :
    nameAt k.line column =
      let name := k.stretch.takeWhile (· != '=')
      if name = [] ∨ k.start + columns name < k.cursor then none
      else some ⟨name, k.start, k.start + columns name⟩ := by
  have hlength : ¬ k.left.length < k.marker.length := by simp [left]
  simp only [nameAt, markerLength?_line, h, if_neg hlength, take_line]
  rw [← cursor, find?_touches, token?]
  by_cases hs : k.stretch = []
  · simp [hs]
  · by_cases hn : k.stretch.takeWhile (· != '=') = []
    · simp [hs, Token.name, hn]
    · by_cases hc : k.start + columns (k.stretch.takeWhile (· != '=')) < k.cursor
      · simp [hs, Token.name, Token.nameStop, hc]
      · simp [hs, Token.name, Token.nameStop, hn, hc]

/-- The name of the option at a cut: its stretch up to the first `=`. -/
def name (k : Cut) : List Char := k.stretch.takeWhile (· != '=')

/-- An option with a name is more than nothing. -/
theorem stretch_ne_nil {k : Cut} (h : k.name ≠ []) : k.stretch ≠ [] := fun hnil => h (by
  rw [name, hnil, List.takeWhile_nil])

/-- Without a `=` the name of an option is all of it. -/
theorem name_eq_stretch {k : Cut} (h : '=' ∉ k.stretch) : k.name = k.stretch := by
  have hplain : ∀ c ∈ k.stretch, (c != '=') = true := fun c hc =>
    bne_iff_ne.mpr fun heq => h (heq ▸ hc)
  rw [name, ← List.append_nil k.stretch, List.takeWhile_append_of_pos hplain, List.takeWhile_nil]

/-- Where the stretch holds no `=`, all of it is read. -/
theorem nameAt_line_of_not_mem {k : Cut} (h : leftOf column k.line = k.left)
    (hplain : '=' ∉ k.stretch) : nameAt k.line column =
      if k.stretch = [] then none else some ⟨k.stretch, k.start, k.stop⟩ := by
  have hcursor : ¬ k.start + columns k.stretch < k.cursor := by
    rw [← stop_eq]
    exact Nat.not_lt.mpr k.cursor_le_stop
  rw [nameAt_line h, ← name, name_eq_stretch hplain]
  simp only [hcursor, or_false, stop_eq]

/-- A name is read exactly where the line is cut within the name of an option or just behind it. -/
theorem nameAt_eq_some_iff {span : NameSpan} : nameAt text column = some span ↔
    ∃ k : Cut, k.line = text ∧ k.left = leftOf column text ∧ k.name ≠ [] ∧
      k.cursor ≤ k.start + columns k.name ∧ span = ⟨k.name, k.start, k.start + columns k.name⟩ := by
  constructor
  · intro h
    have hcut : ∃ k : Cut, k.line = text ∧ k.left = leftOf column text := by
      unfold nameAt at h
      split at h
      · simp at h
      · rename_i n hm
        by_cases hn : (leftOf column text).length < n
        · simp [hn] at h
        · exact exists_cut hm (Nat.le_of_not_lt hn)
    obtain ⟨k, rfl, hk⟩ := hcut
    rw [nameAt_line hk.symm, ← name] at h
    simp only at h
    split at h
    · simp at h
    · rename_i hname
      rw [not_or, Nat.not_lt] at hname
      exact ⟨k, rfl, hk, hname.1, hname.2, (Option.some.inj h).symm⟩
  · rintro ⟨k, rfl, hk, hne, hcursor, rfl⟩
    rw [nameAt_line hk.symm, ← name]
    simp only
    rw [if_neg (not_or.mpr ⟨hne, Nat.not_lt.mpr hcursor⟩)]

end Cut

end ModelineAssist.Modeline
