import ModelineAssist.Modeline.Marker

/-!
The grammar of the marker. A line is a modeline if and only if it starts with a marker, it falls
into the parts of a marker and the options in one way only, and what stands behind the marker does
not matter for where it ends.
-/
namespace ModelineAssist.Modeline
open Text

variable {marker line rest : List Char} {n : Nat}

/-- The markers: blanks, a comment leader, blanks and the word. -/
def IsMarker (marker : List Char) : Prop :=
  ∃ indent leader gap, marker = indent ++ leader ++ gap ++ keyword ∧
    isBlank indent = true ∧ (leader = slashes ∨ leader = hash) ∧ isBlank gap = true

theorem dropWhile_isWhiteSpace_append {blank : List Char} (h : isBlank blank = true)
    (rest : List Char) : (blank ++ rest).dropWhile isWhiteSpace = rest.dropWhile isWhiteSpace := by
  induction blank with
  | nil => rfl
  | cons c cs ih =>
    rw [isBlank_cons, Bool.and_eq_true] at h
    rw [List.cons_append, List.dropWhile_cons_of_pos h.1, ih h.2]

/-- A text is blank up to where its white space ends. -/
theorem exists_blank_append (text : List Char) :
    ∃ blank, isBlank blank = true ∧ text = blank ++ text.dropWhile isWhiteSpace :=
  ⟨text.takeWhile isWhiteSpace, by simp [isBlank], List.takeWhile_append_dropWhile.symm⟩

theorem afterLeader?_eq_some_iff : afterLeader? line = some rest ↔
    line = slashes ++ rest ∨ line = hash ++ rest := by
  unfold afterLeader?
  rw [Option.or_eq_some_iff]
  constructor
  · rintro (h | ⟨-, h⟩)
    · exact .inl (afterWord?_eq_some_iff.mp h)
    · exact .inr (afterWord?_eq_some_iff.mp h)
  · rintro (rfl | rfl)
    · exact .inl (afterWord?_eq_some_iff.mpr rfl)
    · exact .inr ⟨rfl, afterWord?_eq_some_iff.mpr rfl⟩

/-- The options are what stands behind a marker. -/
theorem options?_eq_some_iff :
    options? line = some rest ↔ ∃ marker, IsMarker marker ∧ line = marker ++ rest := by
  unfold options?
  rw [Option.bind_eq_some_iff]
  constructor
  · rintro ⟨comment, hleader, hword⟩
    obtain ⟨indent, hindent, hline⟩ := exists_blank_append line
    obtain ⟨gap, hgap, hcomment⟩ := exists_blank_append comment
    rw [afterWord?_eq_some_iff.mp hword] at hcomment
    rcases afterLeader?_eq_some_iff.mp hleader with h | h
    · refine ⟨_, ⟨indent, slashes, gap, rfl, hindent, .inl rfl, hgap⟩, ?_⟩
      rw [hline, h, hcomment]
      simp only [List.append_assoc]
    · refine ⟨_, ⟨indent, hash, gap, rfl, hindent, .inr rfl, hgap⟩, ?_⟩
      rw [hline, h, hcomment]
      simp only [List.append_assoc]
  · rintro ⟨_, ⟨indent, leader, gap, rfl, hindent, hleader, hgap⟩, rfl⟩
    refine ⟨gap ++ keyword ++ rest, afterLeader?_eq_some_iff.mpr ?_, ?_⟩
    · -- No leader starts with white space.
      simp only [List.append_assoc]
      rw [dropWhile_isWhiteSpace_append hindent]
      rcases hleader with rfl | rfl
      · exact .inl rfl
      · exact .inr rfl
    · rw [List.append_assoc, dropWhile_isWhiteSpace_append hgap]
      exact afterWord?_eq_some_iff.mpr rfl

/-- Behind a marker may stand anything. -/
theorem markerLength?_append (h : IsMarker marker) (rest : List Char) :
    markerLength? (marker ++ rest) = some marker.length := by
  have hoptions : options? (marker ++ rest) = some rest :=
    options?_eq_some_iff.mpr ⟨marker, h, rfl⟩
  simp [markerLength?, hoptions]

/-- A line starts with one marker at most. -/
theorem IsMarker.eq_of_isPrefix {other : List Char} (h : IsMarker marker) (h' : IsMarker other)
    (hp : marker <+: line) (hp' : other <+: line) : marker = other := by
  have hlength : marker.length = other.length := by
    obtain ⟨rest, rfl⟩ := hp
    obtain ⟨rest', hline⟩ := hp'
    have hother := markerLength?_append h' rest'
    rw [hline, markerLength?_append h] at hother
    exact Option.some.inj hother
  exact (List.prefix_of_prefix_length_le hp hp' (Nat.le_of_eq hlength)).eq_of_length hlength

theorem exists_marker_of_markerLength? (h : markerLength? line = some n) :
    ∃ marker rest, IsMarker marker ∧ marker.length = n ∧ line = marker ++ rest := by
  obtain ⟨rest, hoptions, hn⟩ := Option.map_eq_some_iff.mp h
  obtain ⟨marker, hm, rfl⟩ := options?_eq_some_iff.mp hoptions
  exact ⟨marker, rest, hm, by simpa using hn, rfl⟩

/-! ### Where the marker stops -/

theorem markerStop?_append (h : IsMarker marker) (rest : List Char) :
    markerStop? (marker ++ rest) = some (byteLength marker) := by
  rw [markerStop?, markerLength?_append h, Option.map_some, List.take_left]

/-- The marker that a line starts with stops where its bytes do. -/
theorem markerStop?_eq_some_iff :
    markerStop? line = some n ↔ ∃ marker, IsMarker marker ∧ marker <+: line ∧
      byteLength marker = n := by
  constructor
  · intro h
    obtain ⟨length, hlength, rfl⟩ := Option.map_eq_some_iff.mp h
    obtain ⟨marker, rest, hm, rfl, rfl⟩ := exists_marker_of_markerLength? hlength
    exact ⟨marker, hm, List.prefix_append marker rest, by rw [List.take_left]⟩
  · rintro ⟨marker, hm, ⟨rest, rfl⟩, rfl⟩
    exact markerStop?_append hm rest

/-- How a modeline opens: blanks, a comment leader, blanks, the word, and behind it the options. -/
structure Opening (line indent leader gap options : List Char) : Prop where
  whole : line = indent ++ leader ++ gap ++ keyword ++ options
  indent_blank : isBlank indent = true
  leader_eq : leader = slashes ∨ leader = hash
  gap_blank : isBlank gap = true

section Opening

variable {indent leader gap options indent' leader' gap' options' : List Char}

theorem Opening.isMarker (h : Opening line indent leader gap options) :
    IsMarker (indent ++ leader ++ gap ++ keyword) :=
  ⟨indent, leader, gap, rfl, h.indent_blank, h.leader_eq, h.gap_blank⟩

theorem exists_opening (hm : IsMarker marker) (hp : marker <+: line) :
    ∃ indent leader gap options, Opening line indent leader gap options ∧
      marker = indent ++ leader ++ gap ++ keyword := by
  obtain ⟨indent, leader, gap, rfl, hindent, hleader, hgap⟩ := hm
  obtain ⟨options, rfl⟩ := hp
  exact ⟨indent, leader, gap, options, ⟨rfl, hindent, hleader, hgap⟩, rfl⟩

/-- Blanks end where the first character stands that is not white space. -/
theorem blank_append_inj {blank blank' text text' : List Char} (hb : isBlank blank = true)
    (hb' : isBlank blank' = true) (ht : text.dropWhile isWhiteSpace = text)
    (ht' : text'.dropWhile isWhiteSpace = text') (h : blank ++ text = blank' ++ text') :
    blank = blank' ∧ text = text' := by
  have htext : text = text' := by
    rw [← ht, ← ht', ← dropWhile_isWhiteSpace_append hb, h, dropWhile_isWhiteSpace_append hb']
  rw [htext] at h
  exact ⟨List.append_cancel_right h, htext⟩

/-- Neither comment leader starts the other one. -/
theorem leader_append_inj {text text' : List Char} (hl : leader = slashes ∨ leader = hash)
    (hl' : leader' = slashes ∨ leader' = hash) (h : leader ++ text = leader' ++ text') :
    leader = leader' ∧ text = text' := by
  have hleader : leader = leader' := by
    rcases hl with rfl | rfl <;> rcases hl' with rfl | rfl
    · rfl
    · cases h
    · cases h
    · rfl
  rw [hleader] at h
  exact ⟨hleader, List.append_cancel_left h⟩

/-- A line opens in one way. -/
theorem Opening.unique (h : Opening line indent leader gap options)
    (h' : Opening line indent' leader' gap' options') :
    indent = indent' ∧ leader = leader' ∧ gap = gap' ∧ options = options' := by
  obtain ⟨rfl, hindent, hleader, hgap⟩ := h
  obtain ⟨hline, hindent', hleader', hgap'⟩ := h'
  simp only [List.append_assoc] at hline
  -- A comment leader and the word are not white space, so they end the blanks in front of them.
  have hsolid {leader text : List Char} (hl : leader = slashes ∨ leader = hash) :
      (leader ++ text).dropWhile isWhiteSpace = leader ++ text := by
    rcases hl with rfl | rfl <;> rfl
  obtain ⟨hindents, hline⟩ :=
    blank_append_inj hindent hindent' (hsolid hleader) (hsolid hleader') hline
  obtain ⟨hleaders, hline⟩ := leader_append_inj hleader hleader' hline
  obtain ⟨hgaps, hline⟩ := blank_append_inj hgap hgap' rfl rfl hline
  exact ⟨hindents, hleaders, hgaps, List.append_cancel_left hline⟩

end Opening

/-- The marker of a line stops at an offset if and only if the line opens with blanks, a comment
leader, blanks and the word, and these take as many bytes. The line opens in one way only, also
where a marker stands among its options, and other options in their place leave the marker where it
is. -/
theorem markerStop_exact (line : List Char) :
    (∀ offset, markerStop? line = some offset ↔
      ∃ indent leader gap options, Opening line indent leader gap options ∧
        offset = byteLength (indent ++ leader ++ gap ++ keyword)) ∧
    (∀ indent leader gap options indent' leader' gap' options',
      Opening line indent leader gap options → Opening line indent' leader' gap' options' →
        indent = indent' ∧ leader = leader' ∧ gap = gap' ∧ options = options') ∧
    ∀ indent leader gap options, Opening line indent leader gap options →
      ∀ other, markerStop? (indent ++ leader ++ gap ++ keyword ++ other) = markerStop? line := by
  refine ⟨fun offset => ?_, fun _ _ _ _ _ _ _ _ h h' => h.unique h',
    fun indent leader gap options h other => ?_⟩
  · rw [markerStop?_eq_some_iff]
    constructor
    · rintro ⟨marker, hm, hp, rfl⟩
      obtain ⟨indent, leader, gap, options, hopening, rfl⟩ := exists_opening hm hp
      exact ⟨indent, leader, gap, options, hopening, rfl⟩
    · rintro ⟨indent, leader, gap, options, hopening, rfl⟩
      exact ⟨_, hopening.isMarker, ⟨options, hopening.whole.symm⟩, rfl⟩
  · have hstop := markerStop?_append h.isMarker
    rw [hstop, h.whole, hstop]

/-- A modeline with blanks beyond ASCII, a line break within its marker, and another marker among
its options. -/
def twoMarkersLine : List Char := "\u3000//\n\u00a0camel-k:env=A // camel-k:trait".toList

/-- The first marker counts, with its blanks, and it stops at the same place with nothing behind
it. -/
theorem markerStop_twoMarkersLine :
    markerStop? twoMarkersLine = some 16 ∧
    (∀ indent leader gap options, Opening twoMarkersLine indent leader gap options →
      options = "env=A // camel-k:trait".toList) ∧
    markerStop? (twoMarkersLine.take 13) = some 16 := by
  have whole : twoMarkersLine = ['\u3000'] ++ slashes ++ ['\n', '\u00a0'] ++ keyword ++
      "env=A // camel-k:trait".toList := by decide +kernel
  have opening := Opening.mk whole rfl (.inl rfl) rfl
  obtain ⟨stops, unique, behind⟩ := markerStop_exact twoMarkersLine
  have stop : markerStop? twoMarkersLine = some 16 := (stops 16).mpr ⟨_, _, _, _, opening, rfl⟩
  refine ⟨stop, fun indent leader gap options h => ?_, ?_⟩
  · exact (unique _ _ _ _ _ _ _ _ h opening).2.2.2
  · exact (behind _ _ _ _ opening []).trans stop

/-- One slash more makes it another comment, and a byte order mark is no blank. -/
example : markerStop? "/// camel-k:".toList = none ∧ markerStop? "\ufeff# camel-k:".toList = none :=
  ⟨rfl, rfl⟩

end ModelineAssist.Modeline
