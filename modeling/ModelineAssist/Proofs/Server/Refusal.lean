import ModelineAssist.Proofs.Server.History

/-!
Refused messages. A message that is none, comes out of turn, names no method that is answered, is of
the wrong kind or has the wrong parameters has no effect: the session after it is the session before
it, so without the message every other one is answered in the same way. Every message that is told a
failure is one of these. And whatever comes, no session ever returns to an earlier stage.
-/
namespace ModelineAssist.Server
open Settings

variable {around : Surroundings} {s : Session} {stage : Stage} {j : Json} {m : Message}
  {method : Method}

/-- The messages that are refused, or passed over, at a stage. -/
inductive Refused (stage : Stage) (j : Json) : Prop
  /-- It is no message of the protocol. -/
  | undecodable : Message.ofJson? j = none → Refused stage j
  /-- It comes before the start and is no request for one. -/
  | early : stage = .uninitialized → methodOf? j ≠ some .start → Refused stage j
  /-- It asks for a start after the start. -/
  | restart : stage ≠ .uninitialized → methodOf? j = some .start → Refused stage j
  /-- It comes after the end. -/
  | late : stage = .shutDown ∨ stage = .exited → Refused stage j
  /-- Its method is not known. -/
  | unknown (m : Message) : Message.ofJson? j = some m → Method.ofName? m.method = none →
      Refused stage j
  /-- Its method is known but not answered. -/
  | unanswered (u : Unanswered) : methodOf? j = some (.unanswered u) → Refused stage j
  /-- It is a request where a notification is wanted, or the other way round. -/
  | wrongKind (m : Message) (method : Method) : Message.ofJson? j = some m →
      methodOf? j = some method → m.fits method = false → Refused stage j
  /-- Its parameters cannot be read. -/
  | wrongParams (m : Message) (method : Method) : Message.ofJson? j = some m →
      methodOf? j = some method → method.action? m.params = none → Refused stage j

/-! ### What a refused message asks for -/

theorem asked?_eq_actionUnder? (hj : Message.ofJson? j = some m)
    (hm : methodOf? j = some method) : asked? j = m.actionUnder? method := by
  have hn : Method.ofName? m.method = some method := by simpa [methodOf?, hj] using hm
  simp [asked?, hj, hn]

theorem asked?_of_wrongKind (hj : Message.ofJson? j = some m) (hm : methodOf? j = some method)
    (hk : m.fits method = false) : asked? j = none := by
  rw [asked?_eq_actionUnder? hj hm, Message.actionUnder?, hk]
  rfl

theorem asked?_of_wrongParams (hj : Message.ofJson? j = some m) (hm : methodOf? j = some method)
    (hp : method.action? m.params = none) : asked? j = none := by
  rw [asked?_eq_actionUnder? hj hm, Message.actionUnder?, hp, ite_self]

theorem methodOf?_of_starts {w : Workspace} (h : Starts w j) : methodOf? j = some .start := by
  obtain ⟨method, hm, hy⟩ := exists_method_of_asked? h
  cases method <;> first | exact hm | cases hy

/-- A refused message asks for nothing, unless it comes out of turn or its method is not
answered. -/
theorem Refused.asked?_eq_none_or (h : Refused stage j) : asked? j = none ∨
    (stage = .uninitialized ∧ methodOf? j ≠ some .start) ∨
    (stage ≠ .uninitialized ∧ methodOf? j = some .start) ∨
    (stage = .shutDown ∨ stage = .exited) ∨ ∃ u, methodOf? j = some (.unanswered u) := by
  cases h with
  | undecodable h => exact .inl (by rw [asked?, h]; rfl)
  | early hs h => exact .inr (.inl ⟨hs, h⟩)
  | restart hs h => exact .inr (.inr (.inl ⟨hs, h⟩))
  | late h => exact .inr (.inr (.inr (.inl h)))
  | unknown m hj hn => exact .inl (by simp [asked?, hj, hn])
  | unanswered u h => exact .inr (.inr (.inr (.inr ⟨u, h⟩)))
  | wrongKind m method hj hm hk => exact .inl (asked?_of_wrongKind hj hm hk)
  | wrongParams m method hj hm hp => exact .inl (asked?_of_wrongParams hj hm hp)

/-- What a refused message asks for while a session is going on, if it asks for anything, has no
effect on the documents. -/
theorem Refused.follow_eq (h : Refused .initialized j) (ds : Documents) :
    (asked? j).elim ds ds.follow = ds := by
  cases ha : asked? j with
  | none => rfl
  | some a =>
    obtain ⟨method, hm, hy⟩ := exists_method_of_asked? ha
    -- A start or an unanswered method asks for an action that is not about documents.
    have hmethod : method = .start ∨ ∃ u, method = .unanswered u := by
      rcases h.asked?_eq_none_or with h | ⟨h, -⟩ | ⟨-, h⟩ | h | ⟨u, h⟩
      · cases ha.symm.trans h
      · cases h
      · exact .inl (Option.some.inj (hm.symm.trans h))
      · rcases h with h | h <;> cases h
      · exact .inr ⟨u, Option.some.inj (hm.symm.trans h)⟩
    obtain rfl | ⟨u, rfl⟩ := hmethod <;> cases a <;> first | rfl | cases hy

/-- A message that is refused before the start does not ask for a start. -/
theorem Refused.not_starts (h : Refused .uninitialized j) (w : Workspace) : ¬ Starts w j := by
  intro hw
  have hstart := methodOf?_of_starts hw
  rcases h.asked?_eq_none_or with h | ⟨-, h⟩ | ⟨h, -⟩ | h | ⟨u, h⟩
  · cases hw.symm.trans h
  · exact h hstart
  · exact h rfl
  · rcases h with h | h <;> cases h
  · cases hstart.symm.trans h

/-- A refused message leaves the session as it is, unless it is an order to exit or a request for
the end of a session that is going on: these end the session even if they are refused. -/
theorem Refused.session_handle (around : Surroundings) (h : Refused s.stage j) (stays : ¬ Exits j)
    (goes : s.stage = .initialized → ¬ Stops j) : (s.handle around j).session = s := by
  by_cases hs : s.stage = .initialized
  · rw [session_handle_initialized around hs stays (goes hs)]
    rw [hs] at h
    rw [h.follow_eq]
  · refine session_handle_idle hs stays fun hu w => ?_
    rw [hu] at h
    exact h.not_starts w

/-! ### What is told a failure is refused -/

/-- An answer by which a client is told that its message has failed. -/
def Answer.Refuses : Answer → Prop
  | .undecodable | .gone | .handled (some ⟨_, .error _⟩) => True
  | _ => False

/-- An action fails only if its method is not answered. -/
theorem exists_unanswered_of_outcome {a : Action} {f : Failure}
    (h : (s.act around a).outcome = .error f) : ∃ name kind, a = .unanswered name kind := by
  cases a with
  | unanswered name kind => exact ⟨name, kind, rfl⟩
  | _ => cases h

theorem refused_of_perform (hj : Message.ofJson? j = some m) (hm : methodOf? j = some method)
    (h : (s.perform around method m).answer.Refuses) : Refused stage j := by
  cases hk : m.fits method with
  | false => exact .wrongKind m method hj hm hk
  | true =>
    cases ha : method.action? m.params with
    | none => exact .wrongParams m method hj hm ha
    | some a =>
      simp only [Session.perform, hk, if_true, ha] at h
      cases hid : m.id with
      | none => simp [hid, Answer.Refuses] at h
      | some id =>
        cases ho : (s.act around a).outcome with
        | ok result => simp [hid, ho, Answer.Refuses] at h
        | error f =>
          obtain ⟨name, kind, rfl⟩ := exists_unanswered_of_outcome ho
          have hy := yields_of_action? ha
          cases method with
          | unanswered u => exact .unanswered u hm
          | _ => cases hy

theorem refused_of_dispatch (hj : Message.ofJson? j = some m) (hm : methodOf? j = some method)
    (h : (s.dispatch around m method).answer.Refuses) : Refused s.stage j := by
  cases method with
  | exit => cases h
  | cancel => exact refused_of_perform hj hm h
  | start =>
    by_cases hs : s.stage = .uninitialized
    · simp only [Session.dispatch, hs, if_true] at h
      exact refused_of_perform hj hm h
    · exact .restart hs hm
  | _ =>
    cases hs : s.stage with
    | uninitialized => exact .early rfl (by simp [hm])
    | initialized =>
      -- A request for the end is answered as it is performed, like all the rest.
      simp only [Session.dispatch, hs] at h
      exact refused_of_perform hj hm h
    | shutDown => exact .late (.inl rfl)
    | exited => exact .late (.inr rfl)

/-- A message that is told a failure is refused. -/
theorem refused_of_refuses (h : (s.handle around j).answer.Refuses) : Refused s.stage j := by
  cases hj : Message.ofJson? j with
  | none => exact .undecodable hj
  | some m =>
    cases hn : Method.ofName? m.method with
    | none => exact .unknown m hj hn
    | some method =>
      by_cases he : s.stage = .exited
      · exact .late (.inr he)
      · have hm : methodOf? j = some method := by rw [methodOf?, hj]; exact hn
        simp only [Session.handle, hj, he, if_false, Session.receive, hn] at h
        exact refused_of_dispatch hj hm h

/-! ### Stages -/

/-- How far on a stage is. -/
def Stage.rank : Stage → Nat
  | .uninitialized => 0
  | .initialized => 1
  | .shutDown => 2
  | .exited => 3

/-- A message takes a session no stage back. -/
theorem rank_le_rank_handle (around : Surroundings) (s : Session) (j : Json) :
    s.stage.rank ≤ (s.handle around j).session.stage.rank := by
  cases hs : s.stage with
  | uninitialized => exact Nat.zero_le _
  | initialized =>
    by_cases hexits : Exits j
    · rw [stage_handle_exits hexits]; decide
    by_cases hstops : Stops j
    · rw [stage_handle_stops hs hstops]; decide
    · rw [session_handle_initialized around hs hexits hstops]
      exact Nat.le_of_eq (congrArg Stage.rank hs.symm)
  | shutDown =>
    have hover : (s.handle around j).session.stage = .shutDown ∨
        (s.handle around j).session.stage = .exited := stage_handle_over (.inl hs)
    rcases hover with h | h
    · exact Nat.le_of_eq (congrArg Stage.rank h.symm)
    · rw [h]; decide
  | exited =>
    rw [session_handle_exited hs]
    exact Nat.le_of_eq (congrArg Stage.rank hs.symm)

theorem rank_le_rank_after (around : Surroundings) (s : Session) (since : List Json) :
    s.stage.rank ≤ (s.after around since).stage.rank := by
  induction since generalizing s with
  | nil => exact Nat.le_refl _
  | cons j since ih => exact Nat.le_trans (rank_le_rank_handle around s j) (ih _)

/-! ### Runs without a refused message -/

theorem length_run (past : List Json) : (s.run around past).length = past.length := by
  induction past generalizing s with
  | nil => rfl
  | cons j past ih => simp only [Session.run, List.length_cons, ih]

theorem run_append (past future : List Json) : s.run around (past ++ future) =
    s.run around past ++ (s.after around past).run around future := by
  induction past generalizing s with
  | nil => rfl
  | cons j past ih =>
    simp only [List.cons_append, Session.run]
    rw [ih]
    rfl

/-- A message after which the session is as it was before can be left out. -/
theorem run_eraseIdx_of_idle (past future : List Json)
    (idle : ((s.after around past).handle around j).session = s.after around past) :
    (s.run around (past ++ j :: future)).eraseIdx past.length = s.run around (past ++ future) := by
  have hlen : (s.run around past).length ≤ past.length := Nat.le_of_eq (length_run past)
  rw [run_append, run_append, List.eraseIdx_append_of_length_le hlen, length_run, Nat.sub_self,
    Session.run, List.eraseIdx_cons_zero, idle]

/-- A refused message has no effect. It leaves the session as it is, so that in any conversation
without it every other message gets the same answer, and all else that comes of it is the same. Only
the messages that end a session do so even if they are refused. What is told a failure is refused,
and a session never goes back to an earlier stage. -/
theorem run_eraseIdx_of_refused (around : Surroundings) :
    (∀ past j future, Refused (Session.fresh.after around past).stage j → ¬ Exits j →
      ((Session.fresh.after around past).stage = .initialized → ¬ Stops j) →
      Session.fresh.after around (past ++ [j]) = Session.fresh.after around past ∧
      (Session.fresh.run around (past ++ j :: future)).eraseIdx past.length =
        Session.fresh.run around (past ++ future)) ∧
    (∀ past j future answer, answerBetween around past j future = some answer → answer.Refuses →
      Refused (Session.fresh.after around past).stage j) ∧
    (∀ past since, (Session.fresh.after around past).stage.rank ≤
      (Session.fresh.after around (past ++ since)).stage.rank) := by
  refine ⟨fun past j future hr stays goes => ?_, fun past j future answer ha hr => ?_,
    fun past since => ?_⟩
  · have idle := hr.session_handle around stays goes
    refine ⟨?_, run_eraseIdx_of_idle past future idle⟩
    rw [after_append, Session.after, List.foldl_cons, List.foldl_nil, idle]
  · rw [answerBetween_eq] at ha
    obtain rfl := Option.some.inj ha
    exact refused_of_refuses hr
  · rw [after_append]
    exact rank_le_rank_after around _ since

/-- A file is opened, but by a request. -/
def openRequest (name text : String) : Json :=
  written "textDocument/didOpen" (.object [("textDocument",
    fileNamed name [("languageId", .string "java"), ("text", .string text)])]) [("id", .int 3)]

/-- A request that opens a file is passed over: the completion asked for next is made for the text
that the file had before. A second request for a start is told that it comes too late. -/
theorem run_eraseIdx_openRequest :
    (Session.fresh.run ⟨"/home", "/", ⟨[]⟩⟩ [startMessage, openMessage "a" "# camel-k: tr",
        openRequest "a" "", completeMessage "a" 13]).eraseIdx 2 =
      Session.fresh.run ⟨"/home", "/", ⟨[]⟩⟩
        [startMessage, openMessage "a" "# camel-k: tr", completeMessage "a" 13] ∧
    Refused .initialized startMessage ∧
    (Session.fresh.after ⟨"/home", "/", ⟨[]⟩⟩ [startMessage]).stage.rank ≤
      (Session.fresh.after ⟨"/home", "/", ⟨[]⟩⟩ [startMessage, openMessage "a" ""]).stage.rank := by
  obtain ⟨without, told, onward⟩ := run_eraseIdx_of_refused ⟨"/home", "/", ⟨[]⟩⟩
  refine ⟨?_, ?_, onward [startMessage] [openMessage "a" ""]⟩
  · have wrong : Refused .initialized (openRequest "a" "") :=
      .wrongKind ⟨"textDocument/didOpen", _, some (.number 3)⟩ .opened rfl rfl rfl
    have named : methodOf? (openRequest "a" "") = some .opened := rfl
    exact (without [startMessage, openMessage "a" "# camel-k: tr"] (openRequest "a" "")
      [completeMessage "a" 13] wrong (by simp [Exits, named]) fun _ => by simp [Stops, named]).2
  · have answer : answerBetween ⟨"/home", "/", ⟨[]⟩⟩ [startMessage] startMessage [] =
      some (.handled (some ⟨.number 1, .error .invalidRequest⟩)) := rfl
    exact told [startMessage] startMessage [] _ answer trivial

end ModelineAssist.Server
