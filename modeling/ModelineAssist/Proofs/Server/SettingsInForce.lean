import ModelineAssist.Proofs.Json.Record
import ModelineAssist.Proofs.Server.Refusal
import ModelineAssist.Proofs.Settings.Precedence

/-!
The settings in force. Up to the request by which a session begins they are the defaults. By that
request they become those of its workspace, if the workspace has a path and its settings can be
loaded, and whatever messages come later they stay as they are, even where the files change. So
settings are set once, as a whole, and where loading fails the session begins all the same and none
of them is touched.
-/
namespace ModelineAssist.Server
open Settings

variable {around : Surroundings} {s : Session} {j : Json} {m : Message} {method : Method}
  {w : Workspace} {ms : List (String × Json)} {past since : List (Surroundings × Json)}
  {result : Result}

/-! ### The root of the settings -/

/-- The parameters of a request. -/
def paramsOf? (j : Json) : Option Json := (Message.ofJson? j).bind (·.params)

/-- The path that a workspace names as the root of its settings: that of its first directory, and
only where it has none, that of its root. -/
structure NamesRoot (w : Workspace) (path : Option (List UInt8)) : Prop where
  folder : ∀ first more, w.folders = some (first :: more) → path = first.filePath?
  root : w.folders = none ∨ w.folders = some [] → path = w.root.bind Uri.filePath?

theorem namesRoot_rootPath? (w : Workspace) : NamesRoot w w.rootPath? where
  folder first more h := by
    rw [Workspace.rootPath?, Workspace.settingsRoot?, h]
    rfl
  root h := by
    rw [Workspace.rootPath?, Workspace.settingsRoot?]
    rcases h with h | h <;> rw [h]

/-- The members of the parameters by which a workspace is given. -/
structure GivenBy (w : Workspace) (ms : List (String × Json)) : Prop where
  folders : w.folders = (member? "workspaceFolders" ms).bind (Reading.list folder)
  root : w.root = (member? "rootUri" ms).bind uri

theorem givenBy_of_workspace (h : workspace (.object ms) = some w) : GivenBy w ms := by
  unfold workspace Record.ofJson? at h
  obtain ⟨⟨_, _⟩, hread, rfl⟩ := Option.map_eq_some_iff.mp h
  simp only [Record.fieldOr_bind_named, Record.field_bind_named, Record.optional_bind_named,
    Option.bind_eq_some_iff] at hread
  obtain ⟨-, -, -, -, root, hroot, -, -, -, -, -, -, folders, hfolders, -, -, -, -, hpure⟩ := hread
  obtain ⟨rfl, -⟩ := Prod.mk.inj (Option.some.inj hpure)
  exact ⟨Record.eq_bind_of_elim rfl hfolders, Record.eq_bind_of_elim rfl hroot⟩

/-- The settings that a workspace sets: those loaded from its path, and otherwise the defaults. -/
structure SetBy (around : Surroundings) (w : Workspace) (settings : Settings) : Prop where
  pathless : w.rootPath? = none → settings = .default
  loaded : ∀ root given, w.rootPath? = some root → load around root = .ok given → settings = given
  failed : ∀ root e, w.rootPath? = some root → load around root = .error e → settings = .default

theorem setBy_settings (around : Surroundings) (w : Workspace) :
    SetBy around w (w.settings around) where
  pathless h := by rw [Workspace.settings, h]
  loaded root given h hload := by simp only [Workspace.settings, h, hload]
  failed root e h hload := by simp only [Workspace.settings, h, hload]

/-! ### What is granted -/

/-- An answer tells the sender a result. -/
def Answer.Grants (a : Answer) (result : Result) : Prop :=
  ∃ id, a = .handled (some ⟨id, .ok result⟩)

theorem not_grants_ignore : ¬ s.ignore.answer.Grants result := by
  simp [Answer.Grants, Session.ignore]

theorem not_grants_refuse (f : Failure) (events : List Log.Event) :
    ¬ (s.refuse m f events).answer.Grants result := by
  cases hid : m.id <;> simp [Answer.Grants, Session.refuse, hid]

/-- What is granted to a message that is performed is the result of its action. -/
theorem outcome_of_perform (h : (s.perform around method m).answer.Grants result) :
    ∃ a, m.actionUnder? method = some a ∧ (s.act around a).outcome = .ok result := by
  unfold Session.perform at h
  unfold Message.actionUnder?
  split at h
  · rename_i hfits
    split at h
    · exact absurd h (not_grants_refuse _ _)
    · rename_i a ha
      obtain ⟨id, h⟩ := h
      obtain ⟨i, -, hi⟩ := Option.map_eq_some_iff.mp (Answer.handled.inj h)
      exact ⟨a, by rw [if_pos hfits, ha], (Response.mk.inj hi).2⟩
  · exact absurd h not_grants_ignore

/-- A message is granted a result only by being performed, and a start only in time. -/
theorem perform_of_dispatch (he : s.stage ≠ .exited)
    (h : (s.dispatch around m method).answer.Grants result) :
    (s.perform around method m).answer.Grants result ∧
      (method = .start → s.stage = .uninitialized) := by
  cases method with
  | exit =>
    obtain ⟨id, h⟩ := h
    cases h
  | cancel => exact ⟨h, by simp⟩
  | start =>
    by_cases hs : s.stage = .uninitialized
    · simp only [Session.dispatch, hs, if_true] at h
      exact ⟨h, fun _ => hs⟩
    · simp only [Session.dispatch, hs, if_false] at h
      exact absurd h (not_grants_refuse _ _)
  | _ =>
    cases hs : s.stage with
    | initialized =>
      -- A request for the end is answered as it is performed, like all the rest.
      simp only [Session.dispatch, hs] at h
      exact ⟨h, by simp⟩
    | exited => exact absurd hs he
    | _ =>
      simp only [Session.dispatch, hs] at h
      exact absurd h (not_grants_refuse _ _)

/-- Nothing is granted after the end. -/
theorem not_exited_of_grants (h : (s.handle around j).answer.Grants result) :
    s.stage ≠ .exited := by
  intro he
  obtain ⟨id, h⟩ := h
  unfold Session.handle at h
  cases hj : Message.ofJson? j <;> simp [hj, he] at h

/-- A message that is granted a result names a method. -/
theorem exists_method_of_grants (h : (s.handle around j).answer.Grants result) :
    ∃ method, methodOf? j = some method := by
  have he := not_exited_of_grants h
  unfold Session.handle at h
  cases hj : Message.ofJson? j with
  | none =>
    obtain ⟨id, h⟩ := h
    simp [hj] at h
  | some m =>
    cases hn : Method.ofName? m.method with
    | some method => exact ⟨method, by simp [methodOf?, hj, hn]⟩
    | none =>
      simp only [hj, he, if_false, Session.receive, hn] at h
      split at h
      · exact absurd h not_grants_ignore
      · exact absurd h (not_grants_refuse _ _)

/-- What a message is granted is the result of the action that it asks for. -/
theorem outcome_of_grants (h : (s.handle around j).answer.Grants result) :
    ∃ a, asked? j = some a ∧ (s.act around a).outcome = .ok result ∧
      ∀ w, a = .start w → s.stage = .uninitialized := by
  have he := not_exited_of_grants h
  obtain ⟨method, hm⟩ := exists_method_of_grants h
  obtain ⟨m, -, ha, hd⟩ := exists_handle_eq_dispatch around hm he
  rw [hd] at h
  obtain ⟨hperform, hstart⟩ := perform_of_dispatch he h
  obtain ⟨a, hu, houtcome⟩ := outcome_of_perform hperform
  refine ⟨a, ha.trans hu, houtcome, fun w hw => hstart ?_⟩
  have hy := yields_of_actionUnder? hu
  rw [hw] at hy
  cases method <;> first | rfl | cases hy

/-- A session begins: a message is answered with what the server can do. -/
def Begins (around : Surroundings) (s : Session) (j : Json) : Prop :=
  (s.handle around j).answer.Grants .capabilities

/-- A session begins by the first request for a start, whatever becomes of the settings. -/
theorem begins_iff : Begins around s j ↔ s.stage = .uninitialized ∧ ∃ w, Starts w j := by
  constructor
  · intro h
    obtain ⟨a, ha, houtcome, htime⟩ := outcome_of_grants h
    cases a with
    | start w => exact ⟨htime w rfl, w, ha⟩
    | _ => cases houtcome
  · rintro ⟨hs, w, hw⟩
    have hm := methodOf?_of_starts hw
    obtain ⟨m, -, ha, hd⟩ := exists_handle_eq_dispatch around hm (by rw [hs]; decide)
    have hu : m.actionUnder? .start = some (.start w) := ha.symm.trans hw
    unfold Message.actionUnder? at hu
    split at hu
    · rename_i hfits
      have hid : m.id.isSome = true := by simpa [Message.fits, Method.kind] using hfits
      obtain ⟨id, hid⟩ := Option.isSome_iff_exists.mp hid
      refine ⟨id, ?_⟩
      rw [hd]
      simp only [Session.dispatch, hs, if_true, Session.perform, hfits, hu, hid, Option.map_some]
      rfl
    · cases hu

/-! ### When settings change -/

/-- The settings change only where a session begins. -/
theorem settings_handle_of_not_begins (h : ¬ Begins around s j) :
    (s.handle around j).session.settings = s.settings := by
  by_cases hexits : Exits j
  · rw [session_handle_exits hexits]
  by_cases hs : s.stage = .initialized
  · by_cases hstops : Stops j
    · rw [session_handle_stops hs hstops]
    · rw [session_handle_initialized around hs hexits hstops]
  · have waits : s.stage = .uninitialized → ∀ w, ¬ Starts w j := fun hu w hw =>
      h (begins_iff.mpr ⟨hu, w, hw⟩)
    rw [session_handle_idle hs hexits waits]

/-- Once a session has begun, no message begins it again. -/
theorem not_begins_of_ne (h : s.stage ≠ .uninitialized) : ¬ Begins around s j := fun hb =>
  h (begins_iff.mp hb).1

theorem stage_handle_ne (h : s.stage ≠ .uninitialized) :
    (s.handle around j).session.stage ≠ .uninitialized := by
  have hrank := rank_le_rank_handle around s j
  intro hu
  rw [hu] at hrank
  cases hs : s.stage with
  | uninitialized => exact h hs
  | _ => simp [hs, Stage.rank] at hrank

theorem stage_started_ne : (s.started around w).stage ≠ .uninitialized := nofun

/-- A session after some messages, each with the surroundings in which it was handled. -/
def Session.through (s : Session) (past : List (Surroundings × Json)) : Session :=
  past.foldl (fun s m => (s.handle m.1 m.2).session) s

theorem through_append (s : Session) (past since : List (Surroundings × Json)) :
    s.through (past ++ since) = (s.through past).through since := List.foldl_append

/-- In surroundings that stay the same, it is the session after the messages. -/
theorem through_map (around : Surroundings) (s : Session) (messages : List Json) :
    s.through (messages.map (around, ·)) = s.after around messages := List.foldl_map

/-- A step of a run is what its message does to the session after those before it. -/
theorem getElem?_run_through (messages : List Json) (j : Json) (future : List Json) :
    (s.run around (messages ++ j :: future))[messages.length]? =
      some ((s.through (messages.map (around, ·))).handle around j) := by
  rw [through_map, getElem?_run_append]

/-- A session that has begun never begins again, and its settings stay, whatever comes. -/
theorem through_of_ne (h : s.stage ≠ .uninitialized) :
    (s.through since).stage ≠ .uninitialized ∧ (s.through since).settings = s.settings := by
  induction since generalizing s with
  | nil => exact ⟨h, rfl⟩
  | cons m since ih =>
    have hstep : (s.handle m.1 m.2).session.settings = s.settings :=
      settings_handle_of_not_begins (not_begins_of_ne h)
    obtain ⟨hstage, hsettings⟩ := ih (stage_handle_ne h)
    exact ⟨hstage, hsettings.trans hstep⟩

/-- No message of a history begins the session. -/
def NeverBegins (s : Session) (past : List (Surroundings × Json)) : Prop :=
  ∀ before m after, past = before ++ m :: after → ¬ Begins m.1 (s.through before) m.2

/-- As long as a session has not begun, its settings stay. -/
theorem settings_through_of_never (h : NeverBegins s past) :
    (s.through past).settings = s.settings := by
  induction past generalizing s with
  | nil => rfl
  | cons m past ih =>
    have hfirst : ¬ Begins m.1 s m.2 := h [] m past rfl
    have hrest : NeverBegins (s.handle m.1 m.2).session past := fun before k after heq =>
      h (m :: before) k after (by rw [heq]; rfl)
    exact (ih hrest).trans (settings_handle_of_not_begins hfirst)

/-! ### Histories -/

theorem through_append_cons (s : Session) (before : List (Surroundings × Json))
    (around : Surroundings) (j : Json) (since : List (Surroundings × Json)) :
    s.through (before ++ (around, j) :: since) =
      ((s.through before).handle around j).session.through since := through_append s before _

/-- A session that can still begin has not begun before. -/
theorem neverBegins_of_stage (h : (s.through past).stage = .uninitialized) :
    NeverBegins s past := by
  rintro before ⟨around, j⟩ after rfl hb
  obtain ⟨hs, w, hw⟩ := begins_iff.mp hb
  rw [through_append_cons, session_handle_start hs hw] at h
  exact (through_of_ne stage_started_ne).1 h

/-- The settings of a session that has begun are those of its workspace. -/
theorem settings_through_of_begins {before : List (Surroundings × Json)}
    (hb : Begins around (s.through before) j) (hw : Starts w j) :
    (s.through (before ++ (around, j) :: since)).settings = w.settings around := by
  rw [through_append_cons, session_handle_start (begins_iff.mp hb).1 hw]
  exact (through_of_ne stage_started_ne).2

theorem givenBy_of_starts (hw : Starts w j) (hp : paramsOf? j = some (.object ms)) :
    GivenBy w ms := by
  have hm := methodOf?_of_starts hw
  obtain ⟨m, hj, hn⟩ := Option.bind_eq_some_iff.mp hm
  have hparams : m.params = some (.object ms) := by simpa [paramsOf?, hj] using hp
  have hu : m.actionUnder? .start = some (.start w) := (asked?_eq_actionUnder? hj hm).symm.trans hw
  unfold Message.actionUnder? at hu
  split at hu
  · simp only [Method.action?, given, hparams, Option.bind_some] at hu
    obtain ⟨v, hv, hstart⟩ := Option.map_eq_some_iff.mp hu
    obtain rfl := Action.start.inj hstart
    exact givenBy_of_workspace hv
  · cases hu

/-- How a session came to its settings by the message by which it began. -/
structure StartedBy (around : Surroundings) (j : Json) (w : Workspace) (before now : Session) :
    Prop where
  asks : Starts w j
  given : ∀ ms, paramsOf? j = some (.object ms) → GivenBy w ms
  root : NamesRoot w w.rootPath?
  /-- The settings are those of the workspace in the surroundings of the start, -/
  set : SetBy around w now.settings
  /-- and none of them was set before. -/
  unset : before.settings = .default

/-- Settings are set once. -/
structure SetOnce (past : List (Surroundings × Json)) : Prop where
  /-- In a session that has not begun they are the defaults. -/
  waiting : NeverBegins .fresh past → (Session.fresh.through past).settings = .default
  /-- When it begins they are set by its workspace, and so they stay, whatever messages come and
  however the surroundings change. -/
  begun : ∀ before around j since, past = before ++ (around, j) :: since →
    Begins around (Session.fresh.through before) j →
    ∃ w, StartedBy around j w (Session.fresh.through before) (Session.fresh.through past)
  /-- It begins by the first request for a start, also where loading fails. -/
  begins : ∀ around j, Begins around (Session.fresh.through past) j ↔
    (Session.fresh.through past).stage = .uninitialized ∧ ∃ w, Starts w j
  /-- Completions are made by these settings, -/
  completion : ∀ around j result document place,
    ((Session.fresh.through past).handle around j).answer.Grants result →
    asked? j = some (.complete document place) →
    result = .completion (((Session.fresh.through past).documents.get? document).bind
      fun text => completion text place (Session.fresh.through past).settings)
  /-- and so is hovering. -/
  hover : ∀ around j result document place,
    ((Session.fresh.through past).handle around j).answer.Grants result →
    asked? j = some (.describe document place) →
    result = .hover (((Session.fresh.through past).documents.get? document).bind
      fun text => hover text place (Session.fresh.through past).settings)
  /-- A run answers by them in surroundings that stay the same. -/
  run : ∀ around messages j future, past = messages.map (around, ·) →
    (Session.fresh.run around (messages ++ j :: future))[messages.length]? =
      some ((Session.fresh.through past).handle around j)

theorem startedBy_of_begins {before : List (Surroundings × Json)}
    (hb : Begins around (Session.fresh.through before) j) (hw : Starts w j) :
    StartedBy around j w (Session.fresh.through before)
      (Session.fresh.through (before ++ (around, j) :: since)) where
  asks := hw
  given _ hp := givenBy_of_starts hw hp
  root := namesRoot_rootPath? w
  set := by
    rw [settings_through_of_begins hb hw]
    exact setBy_settings around w
  unset := settings_through_of_never (neverBegins_of_stage (begins_iff.mp hb).1)

/-- Whatever has come to a session, its settings are set once. -/
theorem settings_through (past : List (Surroundings × Json)) : SetOnce past where
  waiting := settings_through_of_never
  begun := by
    rintro before around j since rfl hb
    obtain ⟨-, w, hw⟩ := begins_iff.mp hb
    exact ⟨w, startedBy_of_begins hb hw⟩
  begins _ _ := begins_iff
  completion := by
    intro around j result document place h hq
    obtain ⟨a, ha, houtcome, -⟩ := outcome_of_grants h
    obtain rfl := Option.some.inj (ha.symm.trans hq)
    exact (Except.ok.inj houtcome).symm
  hover := by
    intro around j result document place h hq
    obtain ⟨a, ha, houtcome, -⟩ := outcome_of_grants h
    obtain rfl := Option.some.inj (ha.symm.trans hq)
    exact (Except.ok.inj houtcome).symm
  run := by
    rintro around messages j future rfl
    exact getElem?_run_through messages j future

/-! ### A workspace with settings -/

/-- Surroundings in which a workspace turns hovering off. -/
def furnished : Surroundings := ⟨"/home", "/", ⟨[(["ws".toList], .directory),
  (["ws".toList, ".camelk-modeline.json".toList],
    .file "\x7b\"hover\":false\x7d".toUTF8.data.toList)]⟩⟩

/-- The same surroundings without the workspace. -/
def emptied : Surroundings := ⟨"/home", "/", ⟨[]⟩⟩

/-- The request by which a session begins in a directory, with another one as its root. -/
def startIn (directory root : String) : Json :=
  written "initialize" (.object [("capabilities", .object []), ("rootUri", .string root),
    ("workspaceFolders",
      .array [.object [("uri", .string directory), ("name", .string "")]])]) [("id", .int 1)]

/-- The path of the workspace. -/
def furnishedRoot : List UInt8 := [0x2F, 0x77, 0x73]

theorem holds_furnished : Holds furnished furnishedRoot []
    [("hover", .leaf (some "ws/.camelk-modeline.json") (.bool false))] where
  user := rfl
  workspace := by
    have parsed : Format.json.parse? "\x7b\"hover\":false\x7d".toList =
        some [("hover", .plain (.bool false))] := by cbv
    refine ⟨"/ws", rfl, ?_⟩
    show (Format.json.parse? "\x7b\"hover\":false\x7d".toList).map (fun entries =>
      Value.locateAll "ws/.camelk-modeline.json" entries) = _
    rw [parsed]
    rfl

theorem load_furnished : load furnished furnishedRoot = .ok ⟨true, false, .front, .respect⟩ := by
  rw [load_of_holds holds_furnished]
  rfl

/-- A request for a start without parameters. -/
def blankStart : Json := written "initialize" .null [("id", .int 0)]

/-- What comes after the start: the workspace is gone, another start is asked for, and a file is
opened. -/
def later : List (Surroundings × Json) :=
  [(emptied, startMessage), (emptied, openMessage "a" "# camel-k: tr")]

/-- The workspace that has one directory. -/
def workspaceOf (directory : Uri) (root : String) : Workspace :=
  ⟨some [directory], some (fileUri root)⟩

/-- The identifier of a directory that has no path in the file system. -/
def untitled : Uri := ⟨"untitled".toList, none, .rootless "x".toList, none, none⟩

theorem starts_untitled :
    Starts (workspaceOf untitled "ws") (startIn "untitled:x" "file:///ws") := rfl

theorem starts_furnished :
    Starts (workspaceOf (fileUri "ws") "x") (startIn "file:///ws" "file:///x") := rfl

theorem starts_notText :
    Starts (workspaceOf (fileUri "%FF") "ws") (startIn "file:///%FF" "file:///ws") := rfl

/-- A refused request for a start leaves the settings as they are. The next one loads those of the
first directory, and they stay when the workspace is gone and another start is asked for. Where the
directory has no path, or one that is no text, the session begins with the defaults, and the root
does not matter. Without a workspace, offers are made by the defaults. -/
theorem settings_through_furnished :
    (Session.fresh.through [(furnished, blankStart)]).settings = .default ∧
    (Session.fresh.through ((furnished, blankStart) ::
      (furnished, startIn "file:///ws" "file:///x") :: later)).settings =
        ⟨true, false, .front, .respect⟩ ∧
    (Session.fresh.through [(furnished, startIn "untitled:x" "file:///ws")]).settings = .default ∧
    Begins furnished .fresh (startIn "file:///%FF" "file:///ws") ∧
    (Session.fresh.through [(furnished, startIn "file:///%FF" "file:///ws")]).settings =
      .default ∧
    (((Session.fresh.through later).documents.get? (fileUri "a")).bind fun text =>
      completion text ⟨0, 13⟩ (Session.fresh.through later).settings) =
        completion "# camel-k: tr".toList ⟨0, 13⟩ .default := by
  have begins {j : Json} {w : Workspace} (hw : Starts w j) : Begins furnished .fresh j :=
    ((settings_through []).begins _ _).mpr ⟨rfl, w, hw⟩
  refine ⟨?_, ?_, ?_, begins starts_notText, ?_, ?_⟩
  · exact (settings_through _).waiting (neverBegins_of_stage rfl)
  · have again : Begins furnished (Session.fresh.through [(furnished, blankStart)])
        (startIn "file:///ws" "file:///x") :=
      ((settings_through _).begins _ _).mpr ⟨rfl, _, starts_furnished⟩
    obtain ⟨w, started⟩ :=
      (settings_through _).begun [(furnished, blankStart)] furnished _ later rfl again
    obtain rfl := starts_furnished.unique started.asks
    exact started.set.loaded furnishedRoot _ rfl load_furnished
  · obtain ⟨w, started⟩ :=
      (settings_through _).begun [] furnished _ [] rfl (begins starts_untitled)
    obtain rfl := starts_untitled.unique started.asks
    exact started.set.pathless rfl
  · obtain ⟨w, started⟩ :=
      (settings_through _).begun [] furnished _ [] rfl (begins starts_notText)
    obtain rfl := starts_notText.unique started.asks
    exact started.set.failed [0x2F, 0xFF] .rootNotText rfl rfl
  · have answer : ((Session.fresh.through later).handle emptied
        (completeMessage "a" 13)).answer.Grants
          (.completion (completion "# camel-k: tr".toList ⟨0, 13⟩ .default)) := ⟨.number 2, rfl⟩
    have asked : asked? (completeMessage "a" 13) = some (.complete (fileUri "a") ⟨0, 13⟩) := rfl
    have result := (settings_through later).completion _ _ _ _ _ answer asked
    exact (Result.completion.inj result).symm

end ModelineAssist.Server
