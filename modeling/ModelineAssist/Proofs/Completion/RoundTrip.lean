import ModelineAssist.Hover
import ModelineAssist.Proofs.Completion.Accepting

/-!
What a line shows once an offer has been taken. The name that was written is read there from its
first column to just behind its last one, and hovering over it describes the option that was
offered. Nothing is typed there any more, so nothing is offered again through the column behind the
`=`.
-/
namespace ModelineAssist
open Text Modeline Registry

variable {text line : List Char} {place : Position} {settings : Settings} {offers : List Offer}
  {o : Offer} {column : Nat}

/-! ### A name with a `=` behind it -/

section Written

variable {k : Cut} {label : List Char}

/-- On a name in front of a `=`, and just behind it, the name is read. -/
theorem nameAt_of_stretch (hk : k.stretch = label ++ ['=']) (hne : label ≠ [])
    (hlabel : '=' ∉ label) (hstart : k.start ≤ column) (hstop : column ≤ k.start + columns label) :
    nameAt k.line column = some ⟨label, k.start, k.start + columns label⟩ := by
  have hle : column ≤ k.stop := by
    rw [Cut.stop_eq, hk, columns_append, ← Nat.add_assoc]
    exact Nat.le_trans hstop (Nat.le_add_right _ _)
  obtain ⟨k', hline, hleft, hstart', hstretch, hcursor⟩ := k.exists_move hstart hle
  have hname : k'.stretch.takeWhile (· != '=') = label := by
    have hplain : ∀ c ∈ label, (c != '=') = true := fun c hc =>
      bne_iff_ne.mpr fun heq => hlabel (heq ▸ hc)
    rw [hstretch, hk, List.takeWhile_append_of_pos hplain]
    simp
  have hnot : ¬ (label = [] ∨ k.start + columns label < k'.cursor) := by
    rintro (h | h)
    · exact hne h
    · omega
  rw [← hline, Cut.nameAt_line (by rw [hline, hleft])]
  simp only [hname, hstart', if_neg hnot]

/-- On a name in front of a `=`, and just behind the `=`, no name is being typed. -/
theorem typedNameAt_of_stretch (hk : k.stretch = label ++ ['=']) (hstart : k.start ≤ column)
    (hstop : column ≤ k.start + columns label + 1) : typedNameAt k.line column = none := by
  have hle : column ≤ k.stop := by
    rw [Cut.stop_eq, hk, columns_append, ← Nat.add_assoc]
    exact hstop
  obtain ⟨k', hline, hleft, -, hstretch, -⟩ := k.exists_move hstart hle
  have hmem : '=' ∈ k'.stretch := by
    rw [hstretch, hk]
    exact List.mem_append_right _ List.mem_cons_self
  rw [← hline, Cut.typedNameAt_line (by rw [hline, hleft]), if_pos hmem]

end Written

/-! ### Hovering and completing -/

theorem hover_of_nameAt {span : NameSpan} {e : Entry} (hs : settings.hover = true)
    (hl : line? text place.line.toNat = some line)
    (hn : nameAt line place.character.toNat = some span)
    (he : builtin.get? (String.ofList span.name) = some e) :
    hover text place settings = some ⟨e, Range.onLine place.line span.start span.stop⟩ := by
  rw [hover, if_pos hs, hl, Option.bind_some, hn, Option.bind_some, he, Option.map_some]

theorem completion_of_typedNameAt_none (hl : line? text place.line.toNat = some line)
    (hn : typedNameAt line place.character.toNat = none) :
    completion text place settings = none := by
  rw [completion, hl, Option.bind_some, hn, Option.map_none, ite_self]

/-- A description carries its note if and only if the candidate of its entry is tagged. -/
theorem markdown_eq (d : Description) :
    d.markdown = s!"**{d.entry.name}**\n\n{d.entry.description}" ++
      if Tag.deprecated ∈ d.entry.candidate.tags then "\n\n*Deprecated*" else "" := by
  simp only [mem_tags_candidate]
  rfl

/-- Taking an offer makes a cut with the name and a `=` as its stretch, where the offer starts. -/
theorem exists_cut_applyTo (h : completion text place settings = some offers)
    (hl : line? text place.line.toNat = some line) (short : columns line < 2 ^ 32)
    (ho : o ∈ offers) :
    ∃ k : Cut, k.line = o.applyTo line ∧ k.stretch = o.candidate.label.toList ++ ['='] ∧
      k.start = o.range.start.character.toNat := by
  obtain ⟨k, rfl, -, -, hoffers⟩ := exists_cut_of_completion h hl
  obtain ⟨hmem, hr⟩ := hoffers o ho
  refine ⟨k.refill o.newText.toList [] (solid_newText hmem) solid_nil,
    (applyTo_eq short hr (solid_newText hmem)).symm, ?_, ?_⟩
  · rw [Cut.stretch_refill, newText_eq, List.append_nil]
  · have hlt : k.start < 2 ^ 32 := Nat.lt_of_le_of_lt k.start_le short
    rw [Cut.start_refill, hr, toNat_start_onLine _ hlt]

/-- What taking an offer has written is read as the name of the option that was offered: at each of
its columns and just behind the last one, hovering describes that option, and from there through the
column behind the `=` nothing is offered. -/
theorem hover_applyTo (h : completion text place settings = some offers)
    (hl : line? text place.line.toNat = some line) (short : columns line < 2 ^ 32)
    (ho : o ∈ offers) :
    let label := o.candidate.label.toList
    let start := o.range.start.character.toNat
    let stop := start + columns label
    (∀ column, start ≤ column → column ≤ stop →
      nameAt (o.applyTo line) column = some ⟨label, start, stop⟩) ∧
    (∃ entry, builtin.get? o.candidate.label = some entry ∧ entry.name = o.candidate.label ∧
      entry.description = o.candidate.documentation ∧
      ∀ text' place' settings', line? text' place'.line.toNat = some (o.applyTo line) →
        start ≤ place'.character.toNat → place'.character.toNat ≤ stop →
        settings'.hover = true →
        ∃ d, hover text' place' settings' = some d ∧ d.entry = entry ∧
          d.range = Range.onLine place'.line start stop ∧
          d.markdown = s!"**{entry.name}**\n\n{entry.description}" ++
            if Tag.deprecated ∈ o.candidate.tags then "\n\n*Deprecated*" else "") ∧
    (∀ column, start ≤ column → column ≤ stop + 1 →
      typedNameAt (o.applyTo line) column = none) ∧
    (∀ text' place' settings', line? text' place'.line.toNat = some (o.applyTo line) →
      start ≤ place'.character.toNat → place'.character.toNat ≤ stop + 1 →
      completion text' place' settings' = none) := by
  have hmem := mem_candidates_of_mem_completion h hl ho
  intro label start stop
  obtain ⟨k, hline, hstretch, hstart⟩ : ∃ k : Cut, k.line = o.applyTo line ∧
    k.stretch = label ++ ['='] ∧ k.start = start := exists_cut_applyTo h hl short ho
  have hname : ∀ column, start ≤ column → column ≤ stop →
      nameAt (o.applyTo line) column = some ⟨label, start, stop⟩ := by
    intro column hge hle
    have := nameAt_of_stretch hstretch (builtin_label_ne_nil hmem) (not_mem_builtin_label hmem)
      (hstart ▸ hge) (hstart ▸ hle)
    rwa [hline, hstart] at this
  have htyped : ∀ column, start ≤ column → column ≤ stop + 1 →
      typedNameAt (o.applyTo line) column = none := by
    intro column hge hle
    rw [← hline]
    exact typedNameAt_of_stretch hstretch (hstart ▸ hge) (hstart ▸ hle)
  refine ⟨hname, ?_, htyped, ?_⟩
  · obtain ⟨entry, hget, hcandidate⟩ := exists_entry_of_mem_candidates hmem
    refine ⟨entry, hget, by rw [← hcandidate]; rfl, by rw [← hcandidate]; rfl, ?_⟩
    intro text' place' settings' hl' hge hle hs
    have hread := hover_of_nameAt hs hl' (hname _ hge hle) (by rwa [String.ofList_toList])
    refine ⟨_, hread, rfl, rfl, ?_⟩
    rw [← hcandidate]
    exact markdown_eq _
  · intro text' place' settings' hl' hge hle
    exact completion_of_typedNameAt_none hl' (htyped _ hge hle)

/-- The name that the one offer made in the draft writes is read just behind its last column,
hovering within it describes it, and behind its `=` nothing is offered. -/
theorem hover_draftOffer :
    completion draft ⟨1, 21⟩ .default = some [draftOffer] ∧ line? draft 1 = some (draft.drop 2) ∧
    nameAt (draftOffer.applyTo (draft.drop 2)) 28 = some ⟨"dependency".toList, 18, 28⟩ ∧
    (∃ d, hover "// camel-k: env=a dependency= name=b".toList ⟨0, 20⟩ .default = some d ∧
      d.entry.name = "dependency" ∧ d.range = Range.onLine 0 18 28) ∧
    completion "// camel-k: env=a dependency= name=b".toList ⟨0, 29⟩ .default = none := by
  obtain ⟨hname, ⟨entry, -, hentry, -, hhover⟩, -, hcompletion⟩ :=
    hover_applyTo completion_draft rfl (by decide) List.mem_cons_self
  refine ⟨completion_draft, rfl, hname 28 (by decide) (by decide), ?_, ?_⟩
  · obtain ⟨d, hd, rfl, hrange, -⟩ := hhover "// camel-k: env=a dependency= name=b".toList ⟨0, 20⟩
      .default rfl (by decide) (by decide) rfl
    exact ⟨d, hd, hentry, hrange⟩
  · exact hcompletion "// camel-k: env=a dependency= name=b".toList ⟨0, 29⟩ .default rfl (by decide)
      (by decide)

end ModelineAssist
