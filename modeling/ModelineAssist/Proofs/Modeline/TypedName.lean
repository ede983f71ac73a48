import ModelineAssist.Proofs.Modeline.Refill

/-!
What is being typed, told by the line alone. A column cuts a line at the last border between
characters that it reaches. If that is not in front of the end of a marker, the name that is being
typed is the longest stretch of solid characters that touches the cut, and there is one unless the
stretch holds a `=`. All columns of the stretch see the same one.
-/
namespace ModelineAssist.Modeline
open Text

variable {line left right marker front before after rest : List Char} {column : Nat}
  {typed : TypedName}

/-- The longest stretch of solid characters that touches the border between two texts. -/
structure IsStretch (left right before after : List Char) : Prop where
  before_isSuffix : before <:+ left
  after_isPrefix : after <+: right
  solid : Solid (before ++ after)
  longest : ∀ b a, b <:+ left → a <+: right → Solid (b ++ a) → b <:+ before ∧ a <+: after

/-- A line that a column cuts behind its marker, in or at a stretch of solid characters. -/
structure CutInto (line : List Char) (column : Nat) (marker front before after rest : List Char) :
    Prop where
  whole : line = marker ++ front ++ before ++ after ++ rest
  marked : IsMarker marker
  cursor : IsLeftOf column line (marker ++ front ++ before)
  stretch : IsStretch (front ++ before) (after ++ rest) before after

/-! ### Longest stretches -/

/-- Solid characters at the start of a text lie in front of what starts with white space. -/
theorem isPrefix_of_startsLoose (hr : StartsLoose rest) (h : right <+: after ++ rest)
    (hs : Solid right) : right <+: after := by
  rcases List.prefix_or_prefix_of_prefix h (List.prefix_append after rest) with h' | ⟨a, ha⟩
  · exact h'
  · -- More solid characters would be the start of what starts with white space.
    obtain ⟨b, hb⟩ := h
    have hrest : a ++ b = rest := by
      rw [← ha, List.append_assoc] at hb
      exact List.append_cancel_left hb
    cases a with
    | nil =>
      rw [List.append_nil] at ha
      exact ha ▸ List.prefix_rfl
    | cons c cs =>
      have hloose : isSolid c = false := hr c (by rw [← hrest]; rfl)
      have hsolid : isSolid c = true := hs c (ha ▸ List.mem_append_right _ List.mem_cons_self)
      rw [hloose] at hsolid
      exact absurd hsolid Bool.false_ne_true

/-- Solid characters at the end of a text lie behind what ends in white space. -/
theorem isSuffix_of_endsLoose (hf : EndsLoose front) (h : left <:+ front ++ before)
    (hs : Solid left) : left <:+ before := by
  have hloose : StartsLoose front.reverse := by
    rw [StartsLoose, List.head?_reverse]
    exact hf
  have hsolid : Solid left.reverse := fun c hc => hs c (List.mem_reverse.mp hc)
  rw [← List.reverse_prefix, List.reverse_append] at h
  exact List.reverse_prefix.mp (isPrefix_of_startsLoose hloose h hsolid)

/-- A stretch is the longest one if white space or an end is next to it. -/
theorem isStretch_iff : IsStretch (front ++ before) (after ++ rest) before after ↔
    EndsLoose front ∧ Solid (before ++ after) ∧ StartsLoose rest := by
  constructor
  · intro h
    refine ⟨fun c hc => ?_, h.solid, fun c hc => ?_⟩
    · obtain ⟨a, rfl⟩ := List.getLast?_eq_some_iff.mp hc
      rw [← Bool.not_eq_true]
      intro hsolid
      have hlonger : Solid (c :: before ++ after) := List.forall_mem_cons.mpr ⟨hsolid, h.solid⟩
      have hsuffix : c :: before <:+ a ++ [c] ++ before := ⟨a, by simp⟩
      have := (h.longest _ _ hsuffix h.after_isPrefix hlonger).1.length_le
      rw [List.length_cons] at this
      omega
    · obtain ⟨b, rfl⟩ := List.head?_eq_some_iff.mp hc
      rw [← Bool.not_eq_true]
      intro hsolid
      have hlonger : Solid (before ++ (after ++ [c])) := by
        rw [← List.append_assoc]
        exact solid_append.mpr ⟨h.solid, fun d hd => List.mem_singleton.mp hd ▸ hsolid⟩
      have hprefix : after ++ [c] <+: after ++ c :: b := ⟨b, by simp⟩
      have := (h.longest _ _ h.before_isSuffix hprefix hlonger).2.length_le
      rw [List.length_append, List.length_singleton] at this
      omega
  · rintro ⟨hf, hs, hr⟩
    refine ⟨List.suffix_append _ _, List.prefix_append _ _, hs, fun b a hb ha hsolid => ?_⟩
    obtain ⟨hb', ha'⟩ := solid_append.mp hsolid
    exact ⟨isSuffix_of_endsLoose hf hb hb', isPrefix_of_startsLoose hr ha ha'⟩

/-! ### The cut at a column -/

theorem CutInto.exists_cut (h : CutInto line column marker front before after rest) :
    ∃ k : Cut, k.line = line ∧ k.left = leftOf column line ∧ k.stretch = before ++ after ∧
      k.before = before ∧ k.start = columns (marker ++ front) ∧
      k.stop = columns (marker ++ front ++ before ++ after) := by
  obtain ⟨rfl, marked, cursor, stretch⟩ := h
  obtain ⟨hfront, hsolid, hrest⟩ := isStretch_iff.mp stretch
  obtain ⟨hbefore, hafter⟩ := solid_append.mp hsolid
  refine ⟨⟨marker, front, before, after, rest, marked, hfront, hbefore, hafter, hrest⟩,
    ?_, isLeftOf_iff.mp cursor, rfl, rfl, rfl, ?_⟩
  · simp [Cut.line, Cut.stretch]
  · simp [Cut.stop, Cut.stretch]

/-- A cut at a column is one behind the marker in a longest stretch. -/
theorem Cut.cutInto {k : Cut} (h : k.left = leftOf column k.line) :
    CutInto k.line column k.marker k.front k.before k.after k.rest where
  whole := by simp [Cut.line, Cut.stretch]
  marked := k.marked
  cursor := isLeftOf_iff.mpr h
  stretch := isStretch_iff.mpr ⟨k.front_loose, k.solid_stretch, k.rest_loose⟩

/-- What is being typed where a column cuts the line. -/
theorem CutInto.typedNameAt_eq (h : CutInto line column marker front before after rest) :
    typedNameAt line column = if '=' ∈ before ++ after then none else
      some ⟨before, columns (marker ++ front), columns (marker ++ front ++ before ++ after)⟩ := by
  obtain ⟨k, rfl, hleft, hstretch, rfl, hstart, hstop⟩ := h.exists_cut
  rw [Cut.typedNameAt_line hleft.symm, hstretch, hstart, hstop]

/-- A name is being typed where the line is cut in a stretch without a `=`. -/
theorem typedNameAt_eq_some_iff_cutInto : typedNameAt line column = some typed ↔
    ∃ marker front before after rest,
      CutInto line column marker front before after rest ∧ '=' ∉ before ++ after ∧
      typed = ⟨before, columns (marker ++ front),
        columns (marker ++ front ++ before ++ after)⟩ := by
  constructor
  · intro h
    obtain ⟨k, rfl, hleft, hplain, rfl⟩ := Cut.typedNameAt_eq_some_iff.mp h
    refine ⟨_, _, _, _, _, k.cutInto hleft, hplain, ?_⟩
    simp [Cut.start, Cut.stop, Cut.stretch]
  · rintro ⟨marker, front, before, after, rest, hcut, hplain, rfl⟩
    rw [hcut.typedNameAt_eq, if_neg hplain]

/-- Every column that does not lie in front of the end of a marker cuts the line behind it. -/
theorem exists_cutInto {part : List Char} (hm : IsMarker marker) (hp : marker <+: line)
    (hpart : IsLeftOf column line part) (hlength : marker.length ≤ part.length) :
    ∃ front before after rest, CutInto line column marker front before after rest := by
  obtain rfl := isLeftOf_iff.mp hpart
  have hlen : markerLength? line = some marker.length := by
    obtain ⟨options, rfl⟩ := hp
    exact markerLength?_append hm options
  obtain ⟨k, rfl, hleft⟩ := Cut.exists_cut hlen hlength
  obtain rfl := hm.eq_of_isPrefix k.marked hp k.marker_isPrefix
  exact ⟨_, _, _, _, k.cutInto hleft⟩

/-- All columns of the stretch see the same name, each its own part of it. -/
theorem exists_typedNameAt_of_within (h : typedNameAt line column = some typed) {column' : Nat}
    (hstart : typed.start ≤ column') (hstop : column' ≤ typed.stop) :
    ∃ typed', typedNameAt line column' = some typed' ∧ typed'.start = typed.start ∧
      typed'.stop = typed.stop := by
  obtain ⟨k, rfl, -, hplain, rfl⟩ := Cut.typedNameAt_eq_some_iff.mp h
  obtain ⟨k', hline, hleft, hstart', hstretch, -⟩ := k.exists_move hstart hstop
  refine ⟨⟨k'.before, k'.start, k'.stop⟩, ?_, hstart', ?_⟩
  · exact Cut.typedNameAt_eq_some_iff.mpr ⟨k', hline, hleft, hstretch ▸ hplain, rfl⟩
  · show k'.stop = k.stop
    rw [Cut.stop_eq, Cut.stop_eq, hstart', hstretch]

/-- A name is being typed at a column if and only if the column cuts the line behind a marker, which
it does where it does not lie in front of the end of one, and the longest stretch of solid
characters at the cut holds no `=`. What has been typed is the part of the stretch left of the cut,
and the name starts and stops where the stretch does. So the cut lies between the two, no white
space and no `=` has been typed, and from each column in between the name starts and stops at the
same places. -/
theorem typedNameAt_exact (line : List Char) (column : Nat) :
    (∀ typed, typedNameAt line column = some typed ↔
      ∃ marker front before after rest,
        CutInto line column marker front before after rest ∧ '=' ∉ before ++ after ∧
        typed = ⟨before, columns (marker ++ front),
          columns (marker ++ front ++ before ++ after)⟩) ∧
    (∀ marker part, IsMarker marker → marker <+: line → IsLeftOf column line part →
      marker.length ≤ part.length →
        ∃ front before after rest, CutInto line column marker front before after rest) ∧
    ∀ typed, typedNameAt line column = some typed →
      (∀ part, IsLeftOf column line part →
        typed.start ≤ columns part ∧ columns part ≤ typed.stop) ∧
      (∀ c ∈ typed.text, isWhiteSpace c = false ∧ c ≠ '=') ∧
      ∀ column', typed.start ≤ column' → column' ≤ typed.stop →
        ∃ typed', typedNameAt line column' = some typed' ∧ typed'.start = typed.start ∧
          typed'.stop = typed.stop := by
  refine ⟨fun typed => typedNameAt_eq_some_iff_cutInto, fun _ _ => exists_cutInto,
    fun typed h => ⟨fun part hpart => ?_, fun c hc => ?_,
      fun _ => exists_typedNameAt_of_within h⟩⟩
  · obtain ⟨k, rfl, hleft, -, rfl⟩ := Cut.typedNameAt_eq_some_iff.mp h
    obtain rfl := isLeftOf_iff.mp hpart
    rw [← hleft]
    exact ⟨k.start_le_cursor, k.cursor_le_stop⟩
  · obtain ⟨k, rfl, -, hplain, rfl⟩ := Cut.typedNameAt_eq_some_iff.mp h
    refine ⟨by simpa [isSolid] using k.before_solid c hc, ?_⟩
    rintro rfl
    exact hplain (List.mem_append_left _ hc)

/-- A modeline with blanks beyond ASCII and a name with a character of two columns. -/
def blankLine : List Char := "\u00a0#\u3000camel-k:a😀b\u2003x=1".toList

/-- A column in the middle of the wide character cuts the line in front of it. What stands there has
been typed, and from the end of the name the same name is seen; in the option behind the blank
nothing is being typed. -/
theorem typedNameAt_exact_blankLine :
    (∃ front before after rest,
      CutInto blankLine 13 (blankLine.take 11) front before after rest) ∧
    typedNameAt blankLine 13 = some ⟨['a'], 11, 15⟩ ∧
    (∃ typed, typedNameAt blankLine 15 = some typed ∧ typed.start = 11 ∧ typed.stop = 15) ∧
    typedNameAt blankLine 18 = none := by
  have typed : typedNameAt blankLine 13 = some ⟨['a'], 11, 15⟩ := rfl
  have marked : IsMarker (blankLine.take 11) :=
    ⟨['\u00a0'], hash, ['\u3000'], rfl, rfl, .inr rfl, rfl⟩
  obtain ⟨-, cuts, within⟩ := typedNameAt_exact blankLine 13
  refine ⟨?_, typed, (within _ typed).2.2 15 (by decide) (by decide), rfl⟩
  exact cuts _ (blankLine.take 12) marked (List.take_prefix 11 blankLine)
    (isLeftOf_leftOf 13 blankLine) (by decide)

end ModelineAssist.Modeline
