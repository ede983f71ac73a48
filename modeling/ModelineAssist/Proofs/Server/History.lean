import ModelineAssist.Proofs.Server.Agreement
import ModelineAssist.Proofs.Server.Messages

/-!
A session as its history tells it. Whatever messages came before, a question about a document is
answered for the text that the history leaves it with: the last text that it was opened with or
changed to, if it has not been closed since, under the settings of the workspace in which the
session began. What came for other documents does not matter, and neither does a change that
carries no text.
-/
namespace ModelineAssist.Server
open Settings

variable {around : Surroundings} {s t : Session} {j : Json} {uri : Uri} {past since : List Json}
  {w : Workspace}

/-! ### Runs -/

/-- The session after some messages. -/
def Session.after (around : Surroundings) (s : Session) (past : List Json) : Session :=
  past.foldl (fun s j => (s.handle around j).session) s

/-- The answer to a message that comes between others. -/
def answerBetween (around : Surroundings) (past : List Json) (j : Json) (future : List Json) :
    Option Answer :=
  ((Session.fresh.run around (past ++ j :: future))[past.length]?).map (·.answer)

theorem after_append (past since : List Json) :
    s.after around (past ++ since) = (s.after around past).after around since := by
  simp [Session.after]

/-- A step of a run is what its message does to the session after those before it. -/
theorem getElem?_run_append (past : List Json) (j : Json) (future : List Json) :
    (s.run around (past ++ j :: future))[past.length]? =
      some ((s.after around past).handle around j) := by
  induction past generalizing s with
  | nil => rfl
  | cons k past ih =>
    simp only [List.cons_append, Session.run, List.length_cons, List.getElem?_cons_succ]
    exact ih

theorem answerBetween_eq (past : List Json) (j : Json) (future : List Json) :
    answerBetween around past j future =
      some ((Session.fresh.after around past).handle around j).answer := by
  rw [answerBetween, getElem?_run_append, Option.map_some]

/-! ### What a history leaves -/

/-- A history by which a session has begun in a workspace and goes on: before the start nothing
exits or starts, and since then nothing stops or exits. -/
structure Begun (w : Workspace) (past since : List Json) : Prop where
  started : ∃ before start, past = before ++ start :: since ∧ Starts w start ∧
    ∀ j ∈ before, ¬ Exits j ∧ ∀ v, ¬ Starts v j
  lasts : ∀ j ∈ since, ¬ Exits j ∧ ¬ Stops j

/-- What becomes of a document by a message: `none` if it stays as it is, else the text that it has
then, which is `none` if it is closed. -/
def fateOf? (uri : Uri) (j : Json) : Option (Option (List Char)) :=
  (asked? j).bind (Action.fate? uri)

/-- What became of a document, message by message, where something became of it. -/
def fates (uri : Uri) (since : List Json) : List (Option (List Char)) :=
  since.filterMap (fateOf? uri)

/-- The text that a history leaves a document with. -/
def textAfter (uri : Uri) (since : List Json) : Option (List Char) :=
  (fates uri since).getLast?.join

/-- Messages before the start leave a session as it is. -/
theorem after_eq_self (h : s.stage = .uninitialized) (past : List Json)
    (quiet : ∀ j ∈ past, ¬ Exits j ∧ ∀ v, ¬ Starts v j) : s.after around past = s := by
  induction past with
  | nil => rfl
  | cons j past ih =>
    have hj := quiet j List.mem_cons_self
    have same : (s.handle around j).session = s :=
      session_handle_idle (by rw [h]; decide) hj.1 fun _ => hj.2
    rw [Session.after, List.foldl_cons, same]
    exact ih fun k hk => quiet k (List.mem_cons_of_mem _ hk)

/-- A session that goes on keeps its stage and its settings, and each document has the text of its
last fate. -/
theorem after_of_initialized (around : Surroundings) (uri : Uri) (h : s.stage = .initialized)
    (since : List Json) (lasts : ∀ j ∈ since, ¬ Exits j ∧ ¬ Stops j) :
    (s.after around since).stage = .initialized ∧
      (s.after around since).settings = s.settings ∧
      (s.after around since).documents.get? uri =
        (fates uri since).getLast?.getD (s.documents.get? uri) := by
  induction since generalizing s with
  | nil => exact ⟨h, rfl, rfl⟩
  | cons j since ih =>
    have hj := lasts j List.mem_cons_self
    have step := session_handle_initialized around h hj.1 hj.2
    obtain ⟨hstage, hsettings, hdocs⟩ :=
      ih (s := (s.handle around j).session) (by rw [step]; exact h)
        fun k hk => lasts k (List.mem_cons_of_mem _ hk)
    have hget : (s.handle around j).session.documents.get? uri =
        (fateOf? uri j).getD (s.documents.get? uri) := by
      rw [step, fateOf?]
      cases asked? j with
      | none => rfl
      | some a => exact get?_follow s.documents a uri
    refine ⟨hstage, hsettings.trans (by rw [step]), hdocs.trans ?_⟩
    rw [hget]
    cases hf : fateOf? uri j with
    | none =>
      have hcons : fates uri (j :: since) = fates uri since := List.filterMap_cons_none hf
      rw [hcons]; rfl
    | some fate =>
      have hcons : fates uri (j :: since) = fate :: fates uri since := List.filterMap_cons_some hf
      rw [hcons, List.getLast?_cons]
      cases (fates uri since).getLast? <;> rfl

/-- What a session has come to by a history. -/
theorem after_of_begun (around : Surroundings) (uri : Uri) (h : Begun w past since) :
    (Session.fresh.after around past).stage = .initialized ∧
      (Session.fresh.after around past).settings = w.settings around ∧
      (Session.fresh.after around past).documents.get? uri = textAfter uri since := by
  obtain ⟨before, start, rfl, hstart, quiet⟩ := h.started
  have hbefore : Session.fresh.after around before = Session.fresh := after_eq_self rfl before quiet
  have hbegin : (Session.fresh.handle around start).session = Session.fresh.started around w :=
    session_handle_start rfl hstart
  have hafter : Session.fresh.after around (before ++ start :: since) =
      (Session.fresh.started around w).after around since := by
    rw [after_append, hbefore, Session.after, List.foldl_cons, hbegin]
    rfl
  rw [hafter]
  obtain ⟨hstage, hsettings, hdocs⟩ :=
    after_of_initialized around uri (s := Session.fresh.started around w) rfl since h.lasts
  refine ⟨hstage, hsettings, hdocs.trans ?_⟩
  unfold textAfter
  cases (fates uri since).getLast? <;> rfl

/-! ### The last word about a document -/

/-- A message gives a document a text: it opens the document with the text, or changes it to texts
of which that is the last. -/
def Writes (uri : Uri) (text : List Char) (j : Json) : Prop :=
  Tells none (.opened uri text) j ∨ ∃ texts, Tells none (.changed uri (texts ++ [text])) j

/-- A message decides what becomes of a document: it gives it a text, or closes it. -/
def Decides (uri : Uri) (j : Json) : Prop :=
  (∃ text, Writes uri text j) ∨ Tells none (.closed uri) j

theorem fate?_eq_some_some_iff {a : Action} {text : List Char} : a.fate? uri = some (some text) ↔
    a = .opened uri text ∨ ∃ texts, a = .changed uri (texts ++ [text]) := by
  cases a with
  | opened other t => simp [Action.fate?]
  | changed other texts => simp [Action.fate?, List.getLast?_eq_some_iff]
  | closed other => simp [Action.fate?]
  | _ => simp [Action.fate?]

theorem fate?_eq_some_none_iff {a : Action} : a.fate? uri = some none ↔ a = .closed uri := by
  cases a with
  | closed other => simp [Action.fate?]
  | _ => simp [Action.fate?]

theorem fateOf?_eq_some_some_iff {text : List Char} :
    fateOf? uri j = some (some text) ↔ Writes uri text j := by
  have hchanged (texts : List (List Char)) : Tells none (.changed uri texts) j ↔
      asked? j = some (.changed uri texts) := tells_none_iff rfl rfl rfl
  simp only [fateOf?, Option.bind_eq_some_iff, fate?_eq_some_some_iff, Writes, hchanged,
    tells_none_iff (a := .opened uri text) rfl rfl rfl]
  constructor
  · rintro ⟨_, ha, rfl | ⟨texts, rfl⟩⟩
    · exact .inl ha
    · exact .inr ⟨texts, ha⟩
  · rintro (ha | ⟨texts, ha⟩)
    · exact ⟨_, ha, .inl rfl⟩
    · exact ⟨_, ha, .inr ⟨texts, rfl⟩⟩

theorem fateOf?_eq_some_none_iff : fateOf? uri j = some none ↔ Tells none (.closed uri) j := by
  rw [tells_none_iff rfl rfl rfl]
  simp [fateOf?, Option.bind_eq_some_iff, fate?_eq_some_none_iff]

theorem fateOf?_eq_none_iff : fateOf? uri j = none ↔ ¬ Decides uri j := by
  simp only [Decides, ← fateOf?_eq_some_some_iff, ← fateOf?_eq_some_none_iff]
  cases fateOf? uri j with
  | none => simp
  | some fate => cases fate <;> simp

theorem getLast?_filterMap_eq_some_iff {α β : Type} {f : α → Option β} {l : List α} {b : β} :
    (l.filterMap f).getLast? = some b ↔
      ∃ before a after, l = before ++ a :: after ∧ f a = some b ∧ ∀ x ∈ after, f x = none := by
  simp only [List.getLast?_eq_some_iff, List.filterMap_eq_append_iff, List.filterMap_eq_cons_iff,
    List.filterMap_eq_nil_iff]
  constructor
  · rintro ⟨_, before, _, rfl, -, idle, a, after, rfl, -, ha, hafter⟩
    exact ⟨before ++ idle, a, after, by simp, ha, hafter⟩
  · rintro ⟨before, a, after, rfl, ha, hafter⟩
    exact ⟨_, before, _, rfl, rfl, [], a, after, rfl, by simp, ha, hafter⟩

/-- The text that a history leaves a document with is the last one that it was given, if it has not
been closed since. -/
theorem textAfter_eq_some_iff {text : List Char} : textAfter uri since = some text ↔
    ∃ before k after, since = before ++ k :: after ∧ Writes uri text k ∧
      ∀ m ∈ after, ¬ Decides uri m := by
  simp only [textAfter, fates, Option.join_eq_some_iff, getLast?_filterMap_eq_some_iff,
    fateOf?_eq_some_some_iff, fateOf?_eq_none_iff]

/-! ### Every session that goes on has begun -/

/-- A session that has been shut down does not go on. -/
theorem not_over_of_after (h : (s.after around past).stage = .initialized) :
    ¬ (s.stage = .shutDown ∨ s.stage = .exited) := by
  intro hover
  have stays : (s.after around past).stage = .shutDown ∨ (s.after around past).stage = .exited := by
    clear h
    induction past generalizing s with
    | nil => exact hover
    | cons j past ih => exact ih (stage_handle_over hover)
  rw [h] at stays
  simp at stays

/-- A session that still goes on has met nothing that ends it. -/
theorem lasts_of_after (h : s.stage = .initialized)
    (ha : (s.after around since).stage = .initialized) : ∀ j ∈ since, ¬ Exits j ∧ ¬ Stops j := by
  induction since generalizing s with
  | nil => simp
  | cons j since ih =>
    have hover := not_over_of_after (s := (s.handle around j).session) ha
    have hexits : ¬ Exits j := fun he => hover (.inr (stage_handle_exits he))
    have hstops : ¬ Stops j := fun hs => hover (.inl (stage_handle_stops h hs))
    have hstage : (s.handle around j).session.stage = .initialized := by
      rw [session_handle_initialized around h hexits hstops]
      exact h
    intro k hk
    rcases List.mem_cons.mp hk with rfl | hk
    · exact ⟨hexits, hstops⟩
    · exact ih hstage ha k hk

/-- A session goes on only after a history by which it has begun. -/
theorem exists_begun (h : (Session.fresh.after around past).stage = .initialized) :
    ∃ w since, Begun w past since := by
  -- The session stays fresh up to the first request for a start that it grants.
  suffices H : ∀ before, (∀ j ∈ before, ¬ Exits j ∧ ∀ v, ¬ Starts v j) →
      ∃ w since, Begun w (before ++ past) since from H [] (by simp)
  induction past with
  | nil => simp [Session.after, Session.fresh] at h
  | cons j past ih =>
    intro before quiet
    have hover := not_over_of_after (s := (Session.fresh.handle around j).session) h
    have hexits : ¬ Exits j := fun he => hover (.inr (stage_handle_exits he))
    by_cases hstart : ∃ w, Starts w j
    · obtain ⟨w, hw⟩ := hstart
      have hbegin : (Session.fresh.handle around j).session = Session.fresh.started around w :=
        session_handle_start rfl hw
      have hafter : ((Session.fresh.started around w).after around past).stage = .initialized := by
        rw [← hbegin]
        exact h
      exact ⟨w, past, ⟨before, j, rfl, hw, quiet⟩, lasts_of_after rfl hafter⟩
    · have hquiet : ∀ v, ¬ Starts v j := fun v hv => hstart ⟨v, hv⟩
      have same : (Session.fresh.handle around j).session = Session.fresh :=
        session_handle_idle (by decide) hexits fun _ => hquiet
      have hpast : (Session.fresh.after around past).stage = .initialized := by
        rw [Session.after, List.foldl_cons, same] at h
        exact h
      have hbegun := ih hpast (before ++ [j]) fun k hk => by
        rcases List.mem_append.mp hk with hk | hk
        · exact quiet k hk
        · obtain rfl := List.mem_singleton.mp hk
          exact ⟨hexits, hquiet⟩
      rwa [List.append_assoc] at hbegun

/-- A question gets a result only in a session that has begun and goes on. -/
theorem exists_begun_of_answer {a : Action} {future : List Json} {id : Id} {result : Result}
    (ha : asked? j = some a) (hq : a.AsksAbout uri)
    (h : answerBetween around past j future = some (.handled (some ⟨id, .ok result⟩))) :
    ∃ w since, Begun w past since := by
  obtain ⟨_, -, hanswer⟩ := exists_answer_question around ha hq
  rw [answerBetween_eq, hanswer] at h
  cases hs : (Session.fresh.after around past).stage with
  | initialized => exact exists_begun hs
  | _ => simp [hs] at h

/-! ### Histories that differ in one message -/

theorem after_append_cons (before after : List Json) (k : Json) :
    s.after around (before ++ k :: after) =
      ((s.after around before).handle around k).session.after around after := by
  rw [after_append, Session.after, List.foldl_cons, ← Session.after]

theorem SameFor.after (h : SameFor uri s t) (since : List Json) :
    SameFor uri (s.after around since) (t.after around since) := by
  induction since generalizing s t with
  | nil => exact h
  | cons j since ih => exact ih (h.handle j)

/-- An action about one document leaves the others as they are, and turns nothing. -/
theorem fate?_of_document? {a : Action} {other : Uri} (ha : a.document? = some other)
    (hne : other ≠ uri) : a.turns = false ∧ a.fate? uri = none := by
  cases a with
  | opened u text | changed u texts | closed u =>
    obtain rfl : u = other := Option.some.inj ha
    exact ⟨rfl, by simp [Action.fate?, hne]⟩
  | complete | describe => exact ⟨rfl, rfl⟩
  | _ => simp [Action.document?] at ha

/-- A change without texts leaves no trace. -/
theorem answerBetween_of_changed_nil {k : Json} {other : Uri}
    (hk : asked? k = some (.changed other [])) (before after : List Json) (j : Json)
    (future : List Json) :
    answerBetween around (before ++ k :: after) j future =
      answerBetween around (before ++ after) j future := by
  have same (s : Session) : (s.handle around k).session = s := by
    rw [session_handle_of_asked? hk rfl]
    split <;> rfl
  rw [answerBetween_eq, answerBetween_eq, after_append_cons, same, after_append]

/-- A change of a document, open or not, is as good as opening it with the last text. -/
theorem answerBetween_of_changed {k l : Json} {other : Uri} {texts : List (List Char)}
    {text : List Char} (hk : asked? k = some (.changed other (texts ++ [text])))
    (hl : asked? l = some (.opened other text)) (before after : List Json) (j : Json)
    (future : List Json) :
    answerBetween around (before ++ k :: after) j future =
      answerBetween around (before ++ l :: after) j future := by
  have same (s : Session) : (s.handle around k).session = (s.handle around l).session := by
    rw [session_handle_of_asked? hk rfl, session_handle_of_asked? hl rfl]
    simp [Documents.follow]
  rw [answerBetween_eq, answerBetween_eq, after_append_cons, same, after_append_cons]

/-- What comes for another document does not matter. -/
theorem answerBetween_of_ne {k : Json} {a q : Action} {other : Uri} (hk : asked? k = some a)
    (ha : a.document? = some other) (hne : other ≠ uri) (hj : asked? j = some q)
    (hq : q.AsksAbout uri) (before after future : List Json) :
    answerBetween around (before ++ k :: after) j future =
      answerBetween around (before ++ after) j future := by
  obtain ⟨ht, hf⟩ := fate?_of_document? ha hne
  have same : SameFor uri (Session.fresh.after around (before ++ k :: after))
      (Session.fresh.after around (before ++ after)) := by
    rw [after_append_cons, after_append]
    exact (sameFor_handle_self hk ht hf).after after
  rw [answerBetween_eq, answerBetween_eq, same.answer hj hq]

/-- In a session that goes on, a question is answered as the session does what it asks for. -/
theorem answerBetween_of_begun {q : Action} {id : Id} (hb : Begun w past since)
    (hj : Tells (some id) q j) (hq : q.AsksAbout uri) (future : List Json) :
    answerBetween around past j future = some (.handled (some
      ⟨id, ((Session.fresh.after around past).act around q).outcome⟩)) := by
  obtain ⟨ha, hid⟩ := asked?_of_tells hj
  obtain ⟨id', hid', hanswer⟩ := exists_answer_question around ha hq
  obtain rfl : id = id' := Option.some.inj (hid.symm.trans hid')
  rw [answerBetween_eq, hanswer, (after_of_begun around uri hb).1]

/-- How a question about a document is answered, as the history before it tells. -/
structure AnswersByHistory (around : Surroundings) (id : Id) (j : Json) (uri : Uri)
    (place : Position) (future : List Json) : Prop where
  /-- A question gets a result only in a session that has begun and goes on. -/
  begun : ∀ past i result,
    Tells (some id) (.complete uri place) j ∨ Tells (some id) (.describe uri place) j →
    answerBetween around past j future = some (.handled (some ⟨i, .ok result⟩)) →
    ∃ w since, Begun w past since
  /-- Then candidates are offered in the text that the document has by the history, under the
  settings of the workspace in which the session began; where there is no text, there is no answer.
  -/
  completion : ∀ w past since, Begun w past since → Tells (some id) (.complete uri place) j →
    answerBetween around past j future = some (.handled (some ⟨id, .ok (.completion
      ((textAfter uri since).bind fun text => completion text place (w.settings around)))⟩))
  /-- In the same text, under the same settings, a name is described. -/
  hover : ∀ w past since, Begun w past since → Tells (some id) (.describe uri place) j →
    answerBetween around past j future = some (.handled (some ⟨id, .ok (.hover
      ((textAfter uri since).bind fun text => hover text place (w.settings around)))⟩))
  /-- The text is the last one that the document was given, if it has not been closed since. -/
  text : ∀ since text, textAfter uri since = some text ↔
    ∃ before k after, since = before ++ k :: after ∧ Writes uri text k ∧
      ∀ m ∈ after, ¬ Decides uri m
  /-- A change without texts leaves no trace. -/
  idle : ∀ before k after other, Tells none (.changed other []) k →
    answerBetween around (before ++ k :: after) j future =
      answerBetween around (before ++ after) j future
  /-- A change of a document, open or not, is as good as opening it with the last text. -/
  reopened : ∀ before k l after other texts text, Tells none (.changed other (texts ++ [text])) k →
    Tells none (.opened other text) l →
    answerBetween around (before ++ k :: after) j future =
      answerBetween around (before ++ l :: after) j future
  /-- What comes for other documents does not matter. -/
  elsewhere : ∀ before k after i a other, Tells i a k → a.document? = some other → other ≠ uri →
    Tells (some id) (.complete uri place) j ∨ Tells (some id) (.describe uri place) j →
    answerBetween around (before ++ k :: after) j future =
      answerBetween around (before ++ after) j future
  /-- What a message tells of a document is what the program takes it for. -/
  told : ∀ k i a other, a.document? = some other →
    (Tells i a k ↔ asked? k = some a ∧ idOf? k = i)
  /-- A session begins, stops and exits by messages of these names. -/
  starts : ∀ k w, Starts w k ↔ ∃ i params, IsMessage "initialize" (some i) (some params) k ∧
    workspace params = some w
  stops : ∀ k, Stops k ↔ ∃ i params, IsMessage "shutdown" i params k
  exits : ∀ k, Exits k ↔ ∃ i params, IsMessage "exit" i params k

/-- Every question about a document is answered as the history before it tells. -/
theorem answer_of_history (around : Surroundings) (id : Id) (j : Json) (uri : Uri)
    (place : Position) (future : List Json) : AnswersByHistory around id j uri place future where
  begun past i result hj h := by
    rcases hj with hj | hj
    · exact exists_begun_of_answer (asked?_of_tells hj).1 ⟨place, .inl rfl⟩ h
    · exact exists_begun_of_answer (asked?_of_tells hj).1 ⟨place, .inr rfl⟩ h
  completion w past since hb hj := by
    obtain ⟨-, hsettings, htext⟩ := after_of_begun around uri hb
    rw [answerBetween_of_begun hb hj ⟨place, .inl rfl⟩]
    simp only [Session.act, Session.quietly, Session.completion, hsettings, htext]
  hover w past since hb hj := by
    obtain ⟨-, hsettings, htext⟩ := after_of_begun around uri hb
    rw [answerBetween_of_begun hb hj ⟨place, .inr rfl⟩]
    simp only [Session.act, Session.quietly, Session.hover, hsettings, htext]
  text _ _ := textAfter_eq_some_iff
  idle before k after other hk :=
    answerBetween_of_changed_nil (asked?_of_tells hk).1 before after j future
  reopened before k l after other texts text hk hl :=
    answerBetween_of_changed (asked?_of_tells hk).1 (asked?_of_tells hl).1 before after j future
  elsewhere before k after i a other hk ha hne hj := by
    rcases hj with hj | hj
    · exact answerBetween_of_ne (asked?_of_tells hk).1 ha hne (asked?_of_tells hj).1
        ⟨place, .inl rfl⟩ before after future
    · exact answerBetween_of_ne (asked?_of_tells hk).1 ha hne (asked?_of_tells hj).1
        ⟨place, .inr rfl⟩ before after future
  told _ _ _ _ hd := tells_iff hd
  starts _ _ := starts_iff
  stops _ := stops_iff
  exits _ := exits_iff

/-! ### A conversation -/

/-- A message as a client writes it. -/
def written (method : String) (params : Json) (id : List (String × Json)) : Json :=
  .object ([("jsonrpc", .string "2.0"), ("method", .string method), ("params", params)] ++ id)

/-- A file as messages name it, with more to tell of it. -/
def fileNamed (name : String) (more : List (String × Json)) : Json :=
  .object (("uri", .string ("file:///" ++ name)) :: ("version", .int 1) :: more)

/-- The request by which a session begins, without a workspace. -/
def startMessage : Json :=
  written "initialize" (.object [("capabilities", .object [])]) [("id", .int 1)]

/-- A file is opened. -/
def openMessage (name text : String) : Json :=
  written "textDocument/didOpen" (.object [("textDocument",
    fileNamed name [("languageId", .string "java"), ("text", .string text)])]) []

/-- A file is changed. -/
def changeMessage (name : String) (texts : List String) : Json :=
  written "textDocument/didChange" (.object [("textDocument", fileNamed name []),
    ("contentChanges", .array (texts.map fun text => .object [("text", .string text)]))]) []

/-- A file is closed. -/
def closeMessage (name : String) : Json :=
  written "textDocument/didClose" (.object [("textDocument", fileNamed name [])]) []

/-- A place in the first line of a file. -/
def placeIn (name : String) (column : Int) : Json :=
  .object [("textDocument", fileNamed name []),
    ("position", .object [("line", .int 0), ("character", .int column)])]

/-- A completion is asked for in the first line of a file. -/
def completeMessage (name : String) (column : Int) : Json :=
  written "textDocument/completion" (placeIn name column) [("id", .int 2)]

/-- A description is asked for in the first line of a file. -/
def hoverMessage (name : String) (column : Int) : Json :=
  written "textDocument/hover" (placeIn name column) [("id", .int 2)]

/-- The identifier of a file in the root directory. -/
def fileUri (name : String) : Uri :=
  ⟨"file".toList, some ⟨[], [], none, none⟩, .rooted [name.toList], none, none⟩

/-- What comes after the start: one file is opened and changed twice, the second time by nothing,
and another one is opened and closed. -/
def talk : List Json :=
  [openMessage "a" "// old", changeMessage "a" ["# camel", "# camel-k: trait"],
    openMessage "b" "", changeMessage "a" [], closeMessage "b"]

/-- The same, and then the first file is closed too. -/
def talkClosed : List Json := talk ++ [closeMessage "x/../a"]

/-- Surroundings without files. -/
def bare : Surroundings := ⟨"/home", "/", ⟨[]⟩⟩

/-- The answer that grants the second request a result. -/
def granted (result : Result) : Option Answer := some (.handled (some ⟨.number 2, .ok result⟩))

theorem lasts_of_methods {since : List Json}
    (h : ∀ m ∈ since.map methodOf?, m ≠ some .exit ∧ m ≠ some .stop) :
    ∀ j ∈ since, ¬ Exits j ∧ ¬ Stops j := fun j hj =>
  h (methodOf? j) (List.mem_map_of_mem hj)

theorem begun_talk : Begun ⟨none, none⟩ (startMessage :: talk) talk where
  started := ⟨[], startMessage, rfl, rfl, by simp⟩
  lasts := by
    have named : talk.map methodOf? = [some .opened, some .changed, some .opened, some .changed,
      some .closed] := rfl
    exact lasts_of_methods (by simp [named])

theorem begun_talkClosed : Begun ⟨none, none⟩ (startMessage :: talkClosed) talkClosed where
  started := ⟨[], startMessage, rfl, rfl, by simp⟩
  lasts := by
    have named : talkClosed.map methodOf? = [some .opened, some .changed, some .opened,
      some .changed, some .closed, some .closed] := rfl
    exact lasts_of_methods (by simp [named])

/-- What questions about the first file come to after the conversation. The request for a
description and the closing spell its identifier in other ways. -/
structure TalkAnswered : Prop where
  begun : Begun ⟨none, none⟩ (startMessage :: talk) talk
  completes :
    Tells (some (.number 2)) (.complete (fileUri "a") ⟨0, 13⟩) (completeMessage "a" 13)
  describes : Tells (some (.number 2)) (.describe (fileUri "a") ⟨0, 13⟩) (hoverMessage "./a" 13)
  closes : Tells none (.closed (fileUri "a")) (closeMessage "x/../a")
  /-- The last text of the file is the one that counts, -/
  offers : answerBetween bare (startMessage :: talk) (completeMessage "a" 13) [] =
    granted (.completion (completion "# camel-k: trait".toList ⟨0, 13⟩ .default))
  description : answerBetween bare (startMessage :: talk) (hoverMessage "./a" 13) [] =
    granted (.hover (hover "# camel-k: trait".toList ⟨0, 13⟩ .default))
  /-- and there is something to tell about it. -/
  offered : (completion "# camel-k: trait".toList ⟨0, 13⟩ .default).map
    (·.map (·.candidate.label)) = some ["trait"]
  described : (hover "# camel-k: trait".toList ⟨0, 13⟩ .default).map (·.entry.name) = some "trait"
  /-- When the file is closed, there is nothing more to tell. -/
  nothingOffered : answerBetween bare (startMessage :: talkClosed) (completeMessage "a" 13) [] =
    granted (.completion none)
  nothingDescribed : answerBetween bare (startMessage :: talkClosed) (hoverMessage "./a" 13) [] =
    granted (.hover none)
  /-- The change by nothing does not count, -/
  idle : answerBetween bare (startMessage :: talk) (completeMessage "a" 13) [] =
    answerBetween bare (startMessage :: talk.eraseIdx 3) (completeMessage "a" 13) []
  /-- the file might as well have been opened with its last text, -/
  reopened : answerBetween bare (startMessage :: talk) (completeMessage "a" 13) [] =
    answerBetween bare (startMessage :: talk.set 1 (openMessage "a" "# camel-k: trait"))
      (completeMessage "a" 13) []
  /-- and the other file does not count. -/
  elsewhere : answerBetween bare (startMessage :: talk) (completeMessage "a" 13) [] =
    answerBetween bare (startMessage :: talk.eraseIdx 2) (completeMessage "a" 13) []

/-- What is told of the file is told by its last text, until it is closed. -/
theorem answer_of_talk : TalkAnswered := by
  have completes :
      Tells (some (.number 2)) (.complete (fileUri "a") ⟨0, 13⟩) (completeMessage "a" 13) :=
    (tells_iff rfl).mpr ⟨rfl, rfl⟩
  have describes :
      Tells (some (.number 2)) (.describe (fileUri "a") ⟨0, 13⟩) (hoverMessage "./a" 13) :=
    (tells_iff rfl).mpr ⟨rfl, rfl⟩
  have byCompletion := answer_of_history bare (.number 2) (completeMessage "a" 13) (fileUri "a")
    ⟨0, 13⟩ []
  have byHover := answer_of_history bare (.number 2) (hoverMessage "./a" 13) (fileUri "a")
    ⟨0, 13⟩ []
  exact
    { begun := begun_talk
      completes := completes
      describes := describes
      closes := (tells_none_iff rfl rfl rfl).mpr rfl
      offers := byCompletion.completion _ _ _ begun_talk completes
      description := byHover.hover _ _ _ begun_talk describes
      offered := rfl
      described := rfl
      nothingOffered := byCompletion.completion _ _ _ begun_talkClosed completes
      nothingDescribed := byHover.hover _ _ _ begun_talkClosed describes
      idle := byCompletion.idle (startMessage :: talk.take 3) (changeMessage "a" [])
        [closeMessage "b"] (fileUri "a") ((tells_none_iff rfl rfl rfl).mpr rfl)
      reopened := byCompletion.reopened [startMessage, openMessage "a" "// old"] _
        (openMessage "a" "# camel-k: trait") (talk.drop 2) (fileUri "a") ["# camel".toList]
        "# camel-k: trait".toList ((tells_none_iff rfl rfl rfl).mpr rfl)
        ((tells_none_iff rfl rfl rfl).mpr rfl)
      elsewhere := byCompletion.elsewhere (startMessage :: talk.take 2) (openMessage "b" "")
        (talk.drop 3) none (.opened (fileUri "b") []) (fileUri "b")
        ((tells_none_iff rfl rfl rfl).mpr rfl) rfl (by decide) (.inl completes) }

end ModelineAssist.Server
