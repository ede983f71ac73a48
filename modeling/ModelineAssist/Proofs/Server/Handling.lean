import ModelineAssist.Server.Session

/-!
What a message does to a session. Three methods turn a session from one stage to the next: the
request for a start, the request for the end and the order to exit. While a session is going on,
every other message acts on the documents alone, and what it does to them is told by the action that
it asks for. Before the start and after the end nothing but the next turn has an effect.
-/
namespace ModelineAssist.Server
open Settings

variable {around : Surroundings} {s t : Session} {j : Json} {m : Message} {method : Method}

/-! ### What a message asks for -/

/-- The method that a message names. -/
def methodOf? (j : Json) : Option Method :=
  (Message.ofJson? j).bind fun m => Method.ofName? m.method

/-- The action that a message asks for under a method: none if it is of the wrong kind or has the
wrong parameters. -/
def Message.actionUnder? (m : Message) (method : Method) : Option Action :=
  if m.fits method then method.action? m.params else none

/-- The action that a message asks for, whenever it comes. -/
def asked? (j : Json) : Option Action :=
  (Message.ofJson? j).bind fun m => (Method.ofName? m.method).bind m.actionUnder?

/-- An order to exit. -/
def Exits (j : Json) : Prop := methodOf? j = some .exit

/-- A request for the end, well-formed or not. -/
def Stops (j : Json) : Prop := methodOf? j = some .stop

/-- A request for a start in a workspace. -/
def Starts (w : Workspace) (j : Json) : Prop := asked? j = some (.start w)

/-- A message asks for a start in at most one workspace. -/
theorem Starts.unique {v w : Workspace} (hv : Starts v j) (hw : Starts w j) : v = w :=
  Action.start.inj (Option.some.inj (hv.symm.trans hw))

/-- The methods that turn a session to another stage. -/
def Method.turns : Method → Bool
  | .start | .stop | .exit => true
  | _ => false

/-- The actions that turn a session to another stage. -/
def Action.turns : Action → Bool
  | .start _ | .stop | .exit => true
  | _ => false

/-- Whether an action is one that a method can come to. -/
def Method.yields : Method → Action → Bool
  | .start, .start _ | .started, .started | .stop, .stop | .exit, .exit
  | .opened, .opened _ _ | .changed, .changed _ _ | .closed, .closed _
  | .complete, .complete _ _ | .describe, .describe _ _ | .cancel, .cancel _
  | .unanswered _, .unanswered _ _ => true
  | _, _ => false

theorem yields_of_action? {params : Option Json} {a : Action}
    (h : method.action? params = some a) : method.yields a = true := by
  cases method with
  | exit => cases h; rfl
  | stop =>
    by_cases hp : params.isNone <;> simp [Method.action?, hp] at h
    rw [← h]; rfl
  | _ =>
    -- The other methods read one value off the parameters and wrap it.
    simp only [Method.action?, given, Option.bind_eq_some_iff, Option.map_eq_some_iff] at h
    obtain ⟨_, _, _, _, rfl⟩ := h
    rfl

theorem yields_of_actionUnder? {a : Action} (h : m.actionUnder? method = some a) :
    method.yields a = true := by
  unfold Message.actionUnder? at h
  split at h
  · exact yields_of_action? h
  · simp at h

/-- A method turns if and only if its actions do. -/
theorem turns_of_yields {a : Action} (h : method.yields a = true) : a.turns = method.turns := by
  cases method <;> cases a <;> first | rfl | simp [Method.yields] at h

/-! ### What an action does to documents -/

/-- The documents after an action. -/
def Documents.follow (ds : Documents) : Action → Documents
  | .opened uri text => ds.insert uri text
  | .changed uri texts =>
    match texts.getLast? with
    | some text => ds.insert uri text
    | none => ds
  | .closed uri => ds.erase uri
  | _ => ds

/-- What becomes of a document by an action: `none` if it stays as it is, else the text that it has
then, which is `none` if it is closed. -/
def Action.fate? (uri : Uri) : Action → Option (Option (List Char))
  | .opened other text => if other = uri then some (some text) else none
  | .changed other texts => if other = uri then texts.getLast?.map some else none
  | .closed other => if other = uri then some none else none
  | _ => none

/-- The fate of a document tells its text after an action. -/
theorem get?_follow (ds : Documents) (a : Action) (uri : Uri) :
    (ds.follow a).get? uri = (a.fate? uri).getD (ds.get? uri) := by
  cases a with
  | opened other text =>
    by_cases h : other = uri
    · subst h; simp [Documents.follow, Action.fate?]
    · simp [Documents.follow, Action.fate?, h, Documents.get?_insert_of_ne (Ne.symm h)]
  | changed other texts =>
    cases ht : texts.getLast? with
    | none => simp [Documents.follow, Action.fate?, ht]
    | some text =>
      by_cases h : other = uri
      · subst h; simp [Documents.follow, Action.fate?, ht]
      · simp [Documents.follow, Action.fate?, ht, h, Documents.get?_insert_of_ne (Ne.symm h)]
  | closed other =>
    by_cases h : other = uri
    · subst h; simp [Documents.follow, Action.fate?]
    · simp [Documents.follow, Action.fate?, h, Documents.get?_erase_of_ne (Ne.symm h)]
  | _ => rfl

/-- An action that does not turn the session acts on the documents alone. -/
theorem session_act {a : Action} (h : a.turns = false) :
    (s.act around a).session = { s with documents := s.documents.follow a } := by
  cases a with
  | start | stop | exit => simp [Action.turns] at h
  | changed uri texts =>
    cases ht : texts.getLast? <;>
      simp [Session.act, Session.quietly, Session.changed, Documents.follow, ht,
        Session.withDocument]
  | _ => rfl

/-! ### What a message does to a session -/

/-- A message whose time it is acts as it asks to, if it asks for anything. -/
theorem session_perform : (s.perform around method m).session =
    (m.actionUnder? method).elim s fun a => (s.act around a).session := by
  unfold Session.perform Message.actionUnder?
  split
  · cases method.action? m.params <;> rfl
  · rfl

/-- A message without a known method changes nothing. -/
theorem session_handle_of_none (h : methodOf? j = none) : (s.handle around j).session = s := by
  unfold Session.handle
  unfold methodOf? at h
  cases hm : Message.ofJson? j with
  | none => rfl
  | some m =>
    have hn : Method.ofName? m.method = none := by simpa [hm] using h
    by_cases he : s.stage = .exited
    · simp [he]
    · simp only [he, if_false, Session.receive, hn]
      split <;> rfl

/-- A session that is over does not change. -/
theorem session_handle_exited (h : s.stage = .exited) : (s.handle around j).session = s := by
  unfold Session.handle
  cases Message.ofJson? j <;> simp [h]

/-- A message with a known method is dispatched, unless the session is over. -/
theorem exists_handle_eq_dispatch (around : Surroundings) (h : methodOf? j = some method)
    (he : s.stage ≠ .exited) :
    ∃ m, Message.ofJson? j = some m ∧ asked? j = m.actionUnder? method ∧
      s.handle around j = s.dispatch around m method := by
  unfold methodOf? at h
  obtain ⟨m, hm, hn⟩ := Option.bind_eq_some_iff.mp h
  refine ⟨m, hm, ?_, ?_⟩
  · simp [asked?, hm, hn]
  · simp [Session.handle, Session.receive, hm, hn, he]

theorem asked?_of_none (h : methodOf? j = none) : asked? j = none := by
  unfold methodOf? at h
  unfold asked?
  cases hm : Message.ofJson? j with
  | none => rfl
  | some m =>
    have hn : Method.ofName? m.method = none := by simpa [hm] using h
    simp [hn]

/-- A message that asks for an action names a method that comes to it. -/
theorem exists_method_of_asked? {a : Action} (h : asked? j = some a) :
    ∃ method, methodOf? j = some method ∧ method.yields a = true := by
  cases hm : methodOf? j with
  | none => rw [asked?_of_none hm] at h; cases h
  | some method =>
    obtain ⟨m, hd, hn⟩ := Option.bind_eq_some_iff.mp hm
    refine ⟨method, rfl, yields_of_actionUnder? (m := m) ?_⟩
    simpa [asked?, hd, hn] using h

/-- While a session is going on, a message that does not end it acts on the documents alone. -/
theorem session_handle_initialized (around : Surroundings) (h : s.stage = .initialized)
    (stays : ¬ Exits j) (goes : ¬ Stops j) : (s.handle around j).session =
      { s with documents := (asked? j).elim s.documents s.documents.follow } := by
  cases hm : methodOf? j with
  | none => rw [session_handle_of_none hm, asked?_of_none hm]; rfl
  | some method =>
    obtain ⟨m, -, ha, hd⟩ := exists_handle_eq_dispatch around hm (by rw [h]; decide)
    rw [hd, ha]
    -- Methods that do not turn the session are all performed in the same way.
    have performed (ht : method.turns = false) : (s.perform around method m).session =
        { s with documents := (m.actionUnder? method).elim s.documents s.documents.follow } := by
      rw [session_perform]
      cases hu : m.actionUnder? method with
      | none => rfl
      | some a => exact session_act ((turns_of_yields (yields_of_actionUnder? hu)).trans ht)
    cases method with
    | exit => exact absurd hm stays
    | stop => exact absurd hm goes
    | start =>
      -- A second start is refused, and no start changes the documents.
      have unchanged :
          (m.actionUnder? .start).elim s.documents s.documents.follow = s.documents := by
        cases hu : m.actionUnder? .start with
        | none => rfl
        | some a =>
          have hy := yields_of_actionUnder? hu
          cases a <;> first | rfl | simp [Method.yields] at hy
      have refused : (s.dispatch around m .start).session = s := by
        simp [Session.dispatch, h, Session.refuse]
      rw [refused, unchanged]
    | _ => simpa only [Session.dispatch, h] using performed rfl

/-- Before the start and after the end, a message that turns nothing changes nothing. -/
theorem session_handle_idle (h : s.stage ≠ .initialized) (stays : ¬ Exits j)
    (waits : s.stage = .uninitialized → ∀ w, ¬ Starts w j) : (s.handle around j).session = s := by
  by_cases he : s.stage = .exited
  · exact session_handle_exited he
  cases hm : methodOf? j with
  | none => exact session_handle_of_none hm
  | some method =>
    obtain ⟨m, -, ha, hd⟩ := exists_handle_eq_dispatch around hm he
    rw [hd]
    cases method with
    | exit => exact absurd hm stays
    | start =>
      by_cases hs : s.stage = .uninitialized
      · have hu : m.actionUnder? .start = none := by
          cases hu : m.actionUnder? .start with
          | none => rfl
          | some a =>
            have hy := yields_of_actionUnder? hu
            cases a with
            | start w => exact absurd (ha.trans hu) (waits hs w)
            | _ => simp [Method.yields] at hy
        simp [Session.dispatch, hs, session_perform, hu]
      · simp [Session.dispatch, hs, Session.refuse]
    | cancel =>
      simp only [Session.dispatch, session_perform]
      cases hu : m.actionUnder? .cancel with
      | none => rfl
      | some a =>
        have hy := yields_of_actionUnder? hu
        cases a with
        | cancel id => rfl
        | _ => simp [Method.yields] at hy
    | _ => cases hs : s.stage <;> simp_all [Session.dispatch, Session.refuse]

/-- A request for a start that comes in time starts the session. -/
theorem session_handle_start {w : Workspace} (h : s.stage = .uninitialized) (hw : Starts w j) :
    (s.handle around j).session = s.started around w := by
  obtain ⟨method, hm, hy⟩ := exists_method_of_asked? hw
  obtain ⟨m, -, ha, hd⟩ := exists_handle_eq_dispatch around hm (by rw [h]; decide)
  have hu : m.actionUnder? method = some (.start w) := ha.symm.trans hw
  cases method with
  | start =>
    rw [hd]
    simp only [Session.dispatch, h, if_true, session_perform, hu]
    rfl
  | _ => simp [Method.yields] at hy

/-- A message that asks for an action that turns nothing has it done while the session goes on, and
no effect at any other time. -/
theorem session_handle_of_asked? {a : Action} (ha : asked? j = some a) (ht : a.turns = false) :
    (s.handle around j).session =
      if s.stage = .initialized then { s with documents := s.documents.follow a } else s := by
  obtain ⟨method, hm, hy⟩ := exists_method_of_asked? ha
  have hmt : method.turns = false := (turns_of_yields hy).symm.trans ht
  have stays : ¬ Exits j := fun h => by
    obtain rfl : method = .exit := Option.some.inj (hm.symm.trans h)
    simp [Method.turns] at hmt
  have goes : ¬ Stops j := fun h => by
    obtain rfl : method = .stop := Option.some.inj (hm.symm.trans h)
    simp [Method.turns] at hmt
  have waits : ∀ w, ¬ Starts w j := fun w h => by
    obtain rfl : a = .start w := Option.some.inj (ha.symm.trans h)
    simp [Action.turns] at ht
  split
  · rw [session_handle_initialized around ‹_› stays goes, ha]; rfl
  · exact session_handle_idle ‹_› stays fun _ => waits

/-- The order to exit ends a session at any time, and does nothing else. -/
theorem session_handle_exits (h : Exits j) :
    (s.handle around j).session = { s with stage := .exited } := by
  by_cases he : s.stage = .exited
  · rw [session_handle_exited he, ← he]
  · obtain ⟨m, -, -, hd⟩ := exists_handle_eq_dispatch around h he
    rw [hd]
    rfl

theorem stage_handle_exits (h : Exits j) : (s.handle around j).session.stage = .exited := by
  rw [session_handle_exits h]

/-- A request for the end shuts a session down that is going on, and does nothing else. -/
theorem session_handle_stops (h : s.stage = .initialized) (goes : Stops j) :
    (s.handle around j).session = { s with stage := .shutDown } := by
  obtain ⟨m, -, -, hd⟩ := exists_handle_eq_dispatch around goes (by rw [h]; decide)
  simp only [hd, Session.dispatch, h]
  rfl

theorem stage_handle_stops (h : s.stage = .initialized) (goes : Stops j) :
    (s.handle around j).session.stage = .shutDown := by
  rw [session_handle_stops h goes]

/-- A session that has been shut down never goes on. -/
theorem stage_handle_over (h : s.stage = .shutDown ∨ s.stage = .exited) :
    (s.handle around j).session.stage = .shutDown ∨
      (s.handle around j).session.stage = .exited := by
  by_cases hexits : Exits j
  · exact .inr (stage_handle_exits hexits)
  · have same : (s.handle around j).session = s := by
      refine session_handle_idle ?_ hexits fun hs => ?_
      · rcases h with h | h <;> simp [h]
      · rcases h with h | h <;> simp [h] at hs
    rwa [same]

/-! ### How a message is answered -/

/-- The identifier of a message, if it is a request. -/
def idOf? (j : Json) : Option Id := (Message.ofJson? j).bind (·.id)

/-- The questions about a document. -/
def Action.AsksAbout (uri : Uri) (a : Action) : Prop :=
  ∃ place, a = .complete uri place ∨ a = .describe uri place

/-- A question is a request, and of a method that has its time between the start and the end. -/
theorem exists_request_of_asksAbout {a : Action} {uri : Uri} (ha : asked? j = some a)
    (hq : a.AsksAbout uri) : ∃ m method id, Message.ofJson? j = some m ∧ m.id = some id ∧
      methodOf? j = some method ∧ (method = .complete ∨ method = .describe) ∧
      m.fits method = true ∧ method.action? m.params = some a := by
  obtain ⟨method, hm, hy⟩ := exists_method_of_asked? ha
  obtain ⟨m, hj, hn⟩ := Option.bind_eq_some_iff.mp hm
  have hu : m.actionUnder? method = some a := by simpa [asked?, hj, hn] using ha
  have hkind : method = .complete ∨ method = .describe := by
    obtain ⟨place, rfl | rfl⟩ := hq <;> cases method <;> simp [Method.yields] at hy ⊢
  obtain ⟨hfits, hact⟩ : m.fits method = true ∧ method.action? m.params = some a := by
    unfold Message.actionUnder? at hu
    split at hu
    · exact ⟨‹_›, hu⟩
    · simp at hu
  have hid : m.id.isSome = true := by
    obtain rfl | rfl := hkind <;> simpa [Message.fits, Method.kind] using hfits
  obtain ⟨id, hid⟩ := Option.isSome_iff_exists.mp hid
  exact ⟨m, method, id, hj, hid, hm, hkind, hfits, hact⟩

/-- A question is answered between the start and the end, and refused before and after. -/
theorem exists_answer_question (around : Surroundings) {a : Action} {uri : Uri}
    (ha : asked? j = some a) (hq : a.AsksAbout uri) : ∃ id, idOf? j = some id ∧ ∀ s : Session,
      (s.handle around j).answer =
        match s.stage with
        | .uninitialized => .handled (some ⟨id, .error .notInitialized⟩)
        | .initialized => .handled (some ⟨id, (s.act around a).outcome⟩)
        | .shutDown => .handled (some ⟨id, .error .invalidRequest⟩)
        | .exited => .gone := by
  obtain ⟨m, method, id, hj, hid, hm, hkind, hfits, hact⟩ := exists_request_of_asksAbout ha hq
  refine ⟨id, by simp [idOf?, hj, hid], fun s => ?_⟩
  by_cases he : s.stage = .exited
  · simp [Session.handle, hj, he]
  obtain ⟨m', hj', -, hd⟩ := exists_handle_eq_dispatch around hm he
  obtain rfl : m = m' := Option.some.inj (hj.symm.trans hj')
  rw [hd]
  obtain rfl | rfl := hkind <;> cases hs : s.stage <;>
    simp_all [Session.dispatch, Session.refuse, Session.perform]

end ModelineAssist.Server
