import ModelineAssist.Proofs.Matching.Narrowing
import ModelineAssist.Proofs.Modeline.Refill
import ModelineAssist.Proofs.Registry.Builtin
import ModelineAssist.Proofs.Registry.Lookup

/-!
Typing on while the offers are shown. The name that is being typed grows by what is typed and starts
where it did, and under no policy is an option offered for it that was not offered before. So
editors need not ask again.
-/
namespace ModelineAssist
open Text Matching Modeline Registry

variable {line more : List Char} {column : Nat} {typed : TypedName}

/-- What can be typed without ending the name. -/
def GoesOn (more : List Char) : Prop := ∀ c ∈ more, isWhiteSpace c = false ∧ c ≠ '='

/-- The line after typing at a column. -/
def typeAt (column : Nat) (more line : List Char) : List Char :=
  leftOf column line ++ more ++ rightOf column line

/-- The column of the cursor after typing at a column. -/
def columnAfter (column : Nat) (more line : List Char) : Nat := columns (leftOf column line ++ more)

theorem GoesOn.solid (h : GoesOn more) : Solid more := fun c hc => by simp [isSolid, (h c hc).1]

theorem GoesOn.not_mem (h : GoesOn more) : '=' ∉ more := fun hmem => (h '=' hmem).2 rfl

/-- Typing on makes the name longer and leaves its start where it was. -/
theorem typedNameAt_typeAt (h : typedNameAt line column = some typed) (hm : GoesOn more) :
    Solid typed.text ∧ typedNameAt (typeAt column more line) (columnAfter column more line) =
      some ⟨typed.text ++ more, typed.start, typed.stop + columns more⟩ := by
  obtain ⟨k, rfl, hleft, heq, rfl⟩ := Cut.typedNameAt_eq_some_iff.mp h
  have hb : Solid (k.before ++ more) := solid_append.mpr ⟨k.before_solid, hm.solid⟩
  refine ⟨k.before_solid, Cut.typedNameAt_eq_some_iff.mpr
    ⟨k.refill (k.before ++ more) k.after hb k.after_solid, ?_, ?_, ?_, ?_⟩⟩
  · exact (Cut.insert_cursor hleft.symm hb).symm
  · rw [Cut.left_refill, typeAt, columnAfter, leftOf_columns_append, ← hleft, Cut.left,
      List.append_assoc _ k.before]
  · rw [Cut.stretch_refill]
    simp only [Cut.stretch, List.mem_append, not_or] at heq ⊢
    exact ⟨⟨heq.1, hm.not_mem⟩, heq.2⟩
  · have hstop : k.stop + columns more =
        (k.refill (k.before ++ more) k.after hb k.after_solid).stop := by
      rw [Cut.stop_eq, Cut.stop_eq, Cut.stretch_refill, Cut.start_refill, Cut.stretch]
      simp only [columns_append]
      omega
    rw [hstop]
    rfl

/-- Typing on only narrows what is offered. Whatever is typed at a name, as long as it is no white
space and no `=`, is added to the name, and under every policy the candidates for the longer name
are among those for the shorter one, in the same order. -/
theorem candidatesFor_typeAt (h : typedNameAt line column = some typed) (hm : GoesOn more) :
    ∃ typed', typedNameAt (typeAt column more line) (columnAfter column more line) = some typed' ∧
      typed'.text = typed.text ++ more ∧ typed'.start = typed.start ∧
      typed'.stop = typed.stop + columns more ∧
      ∀ policy, (builtin.candidatesFor policy (String.ofList typed'.text)).Sublist
        (builtin.candidatesFor policy (String.ofList typed.text)) := by
  obtain ⟨hsolid, htyped⟩ := typedNameAt_typeAt h hm
  refine ⟨_, htyped, rfl, rfl, rfl, fun policy => candidatesFor_sublist fun c hc hlonger => ?_⟩
  rw [String.toList_ofList] at hlonger ⊢
  have hspace : ' ' ∉ typed.text ++ more := fun hmem =>
    absurd (solid_append.mpr ⟨hsolid, hm.solid⟩ ' ' hmem) (by decide)
  exact accepts_of_append (ascii_builtin_label hc) hspace hlonger

/-- Where `pr` has been typed in front of an `x`, `op` can be typed on. -/
theorem candidatesFor_prop :
    typedNameAt "# camel-k: prx".toList 13 = some ⟨"pr".toList, 11, 14⟩ ∧ GoesOn "op".toList ∧
    typedNameAt "# camel-k: propx".toList 15 = some ⟨"prop".toList, 11, 16⟩ ∧
    ∀ policy, (builtin.candidatesFor policy (String.ofList "prop".toList)).Sublist
      (builtin.candidatesFor policy (String.ofList "pr".toList)) := by
  have typed : typedNameAt "# camel-k: prx".toList 13 = some ⟨"pr".toList, 11, 14⟩ := rfl
  have goesOn : GoesOn "op".toList := by
    intro c hc
    obtain rfl | rfl : c = 'o' ∨ c = 'p' := by simpa using hc
    · decide
    · decide
  obtain ⟨⟨text, start, stop⟩, htyped, rfl, rfl, rfl, narrows⟩ := candidatesFor_typeAt typed goesOn
  exact ⟨typed, goesOn, htyped, narrows⟩

end ModelineAssist
