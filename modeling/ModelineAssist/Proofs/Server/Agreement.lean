import ModelineAssist.Proofs.Server.Handling

/-!
Sessions that agree about a document: they have come to the same stage, work under the same settings
and have the same text for it, whatever they know of other documents. A message keeps them in
agreement, and a question about the document is answered alike by both. So what a session does about
a document cannot depend on the others.
-/
namespace ModelineAssist.Server
open Settings

variable {around : Surroundings} {s t : Session} {j : Json} {m : Message} {uri : Uri}

/-- Two sessions that differ at most in other documents. -/
structure SameFor (uri : Uri) (s t : Session) : Prop where
  stage : s.stage = t.stage
  settings : s.settings = t.settings
  text : s.documents.get? uri = t.documents.get? uri

theorem SameFor.refl (uri : Uri) (s : Session) : SameFor uri s s := ⟨rfl, rfl, rfl⟩

/-- An action keeps sessions in agreement. -/
theorem SameFor.act (around : Surroundings) (h : SameFor uri s t) (a : Action) :
    SameFor uri (s.act around a).session (t.act around a).session := by
  cases ht : a.turns with
  | false =>
    rw [session_act ht, session_act ht]
    exact ⟨h.stage, h.settings, by simp only [get?_follow, h.text]⟩
  | true =>
    cases a with
    | start w => exact ⟨rfl, rfl, h.text⟩
    | stop => exact ⟨rfl, h.settings, h.text⟩
    | exit => exact ⟨rfl, h.settings, h.text⟩
    | _ => simp [Action.turns] at ht

theorem SameFor.perform (h : SameFor uri s t) (method : Method) (m : Message) :
    SameFor uri (s.perform around method m).session (t.perform around method m).session := by
  rw [session_perform, session_perform]
  cases m.actionUnder? method with
  | none => exact h
  | some a => exact h.act around a

/-- A message keeps sessions in agreement. -/
theorem SameFor.handle (h : SameFor uri s t) (j : Json) :
    SameFor uri (s.handle around j).session (t.handle around j).session := by
  cases hm : methodOf? j with
  | none => rwa [session_handle_of_none hm, session_handle_of_none hm]
  | some method =>
    by_cases he : s.stage = .exited
    · rwa [session_handle_exited he, session_handle_exited (h.stage ▸ he)]
    obtain ⟨m, hj, -, hs⟩ := exists_handle_eq_dispatch around hm he
    obtain ⟨n, hj', -, ht⟩ := exists_handle_eq_dispatch (s := t) around hm (h.stage ▸ he)
    obtain rfl : m = n := Option.some.inj (hj.symm.trans hj')
    rw [hs, ht]
    cases method with
    | exit => exact h.act around .exit
    | cancel => exact h.perform .cancel m
    | start =>
      simp only [Session.dispatch, ← h.stage]
      split
      · exact h.perform .start m
      · exact h
    | stop =>
      simp only [Session.dispatch, ← h.stage]
      split
      · exact h
      · exact ⟨rfl, h.settings, h.text⟩
      · exact h
    | _ =>
      simp only [Session.dispatch, ← h.stage]
      split
      · exact h
      · exact h.perform _ m
      · exact h

/-- An action that leaves a document as it is keeps the session in agreement with itself. -/
theorem sameFor_handle_self {a : Action} (ha : asked? j = some a) (ht : a.turns = false)
    (hf : a.fate? uri = none) : SameFor uri (s.handle around j).session s := by
  rw [session_handle_of_asked? ha ht]
  split
  · exact ⟨rfl, rfl, by simp only [get?_follow, hf, Option.getD_none]⟩
  · exact SameFor.refl uri s

/-- Sessions in agreement answer a question about the document alike. -/
theorem SameFor.answer {a : Action} (h : SameFor uri s t) (ha : asked? j = some a)
    (hq : a.AsksAbout uri) : (s.handle around j).answer = (t.handle around j).answer := by
  obtain ⟨id, -, hanswer⟩ := exists_answer_question around ha hq
  rw [hanswer s, hanswer t, h.stage]
  have houtcome : (s.act around a).outcome = (t.act around a).outcome := by
    obtain ⟨place, rfl | rfl⟩ := hq
    · simp [Session.act, Session.quietly, Session.completion, h.text, h.settings]
    · simp [Session.act, Session.quietly, Session.hover, h.text, h.settings]
  rw [houtcome]

end ModelineAssist.Server
