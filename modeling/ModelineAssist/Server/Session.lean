import ModelineAssist.Completion
import ModelineAssist.Hover
import ModelineAssist.Server.Documents
import ModelineAssist.Server.Events

/-!
A session with an editor. It begins with a request that tells where the editor works, from which the
settings are loaded, then follows the documents that are open and answers questions about them, and
ends in two steps, a request and an order. A message that comes out of turn, is unknown, or has
wrong parameters is refused; a notification is refused by silence. A refused message changes
nothing.
-/
namespace ModelineAssist.Server
open Settings Log

/-- How far a session has come. -/
inductive Stage
  | uninitialized
  | initialized
  | shutDown
  | exited
  deriving DecidableEq, Repr

/-- What a session knows. -/
structure Session where
  stage : Stage
  documents : Documents
  settings : Settings

/-- A session before its first message. -/
def Session.fresh : Session := ⟨.uninitialized, .empty, .default⟩

/-- Why a request is refused. -/
inductive Failure
  /-- The session has not begun. -/
  | notInitialized
  /-- It is too late for the request. -/
  | invalidRequest
  /-- The method is not known; the response says which. -/
  | unknownMethod (name : String)
  /-- The method is known but not answered. -/
  | unansweredMethod
  | invalidParams
  deriving DecidableEq, Repr

/-- The result of a request. -/
inductive Result
  /-- What the server can do. -/
  | capabilities
  | nothing
  | completion (offers : Option (List Offer))
  | hover (description : Option Description)
  deriving DecidableEq, Repr

/-- The response to a request. -/
structure Response where
  id : Id
  outcome : Except Failure Result

/-- What the server tells the client unasked: a line for its log. -/
structure Notice where
  message : String
  deriving DecidableEq, Repr

/-- How a message is answered. -/
inductive Answer
  /-- The message is not one of the protocol. -/
  | undecodable
  /-- The session is over. -/
  | gone
  /-- The response, `none` where none is wanted. -/
  | handled (response : Option Response)

/-- What comes of a message. -/
structure Step where
  session : Session
  answer : Answer
  notices : List Notice
  events : List Event

/-! ### Actions -/

/-- What comes of an action: the session after it, what it results in, and what is told about it. -/
structure Effect where
  session : Session
  outcome : Except Failure Result
  notices : List Notice
  events : List Event

/-- An effect on the session alone. -/
def Session.quietly (s : Session) (result : Result) (events : List Event) : Effect :=
  ⟨s, .ok result, [], events⟩

/-- The root of the settings as a path in the file system. -/
def Workspace.rootPath? (w : Workspace) : Option (List UInt8) := w.settingsRoot?.bind Uri.filePath?

/-- The settings of a workspace; the defaults where they cannot be loaded. -/
def Workspace.settings (around : Surroundings) (w : Workspace) : Settings :=
  match w.rootPath? with
  | none => .default
  | some root =>
    match load around root with
    | .ok settings => settings
    | .error _ => .default

/-- What is logged when the settings of a workspace are loaded. -/
def Workspace.events (around : Surroundings) (w : Workspace) : List Event :=
  match w.rootPath? with
  | none => []
  | some root =>
    match load around root with
    | .ok settings =>
      [Events.loaded settings ((String.fromUTF8? root.toByteArray).getD "")]
    | .error e => [Events.notLoaded e]

/-- The session when it has begun in a workspace. -/
def Session.started (around : Surroundings) (s : Session) (w : Workspace) : Session :=
  { s with stage := .initialized, settings := w.settings around }

/-- The line that the client is told when it has begun. -/
def startedNotice : Notice := ⟨"camelk-modeline initialized"⟩

/-- The session with the text of a document. -/
def Session.withDocument (s : Session) (uri : Uri) (text : List Char) : Session :=
  { s with documents := s.documents.insert uri text }

/-- The session after changes to a document. The last one carries its whole text. -/
def Session.changed (s : Session) (uri : Uri) (texts : List (List Char)) : Session :=
  match texts.getLast? with
  | some text => s.withDocument uri text
  | none => s

/-- The offers at a place in an open document. -/
def Session.completion (s : Session) (uri : Uri) (place : Position) : Option (List Offer) :=
  (s.documents.get? uri).bind fun text => ModelineAssist.completion text place s.settings

/-- What is logged of a completion. -/
def Session.completionEvents (s : Session) (uri : Uri) (place : Position) : List Event :=
  if (s.documents.get? uri).isNone then [Events.unknownDocument uri]
  else ((s.completion uri place).map fun offers => Events.completed place offers.length).toList

/-- The description at a place in an open document. -/
def Session.hover (s : Session) (uri : Uri) (place : Position) : Option Description :=
  (s.documents.get? uri).bind fun text => ModelineAssist.hover text place s.settings

/-- What comes of an action. -/
def Session.act (around : Surroundings) (s : Session) : Action → Effect
  | .start w => (s.started around w).quietly .capabilities (w.events around)
  | .started => ⟨s, .ok .nothing, [startedNotice], [Events.started]⟩
  | .stop => { s with stage := .shutDown }.quietly .nothing [Events.stopping]
  | .exit => { s with stage := .exited }.quietly .nothing [Events.exitReceived]
  | .opened uri text => (s.withDocument uri text).quietly .nothing [Events.opened uri]
  | .changed uri texts => (s.changed uri texts).quietly .nothing []
  | .closed uri =>
    { s with documents := s.documents.erase uri }.quietly .nothing [Events.closed uri]
  | .complete uri place =>
    s.quietly (.completion (s.completion uri place)) (s.completionEvents uri place)
  | .describe uri place => s.quietly (.hover (s.hover uri place)) []
  | .cancel id => s.quietly .nothing [Events.nothingToCancel id]
  | .unanswered name kind => ⟨s, .error .unansweredMethod, [], [Events.notAnswered name kind]⟩

/-! ### Messages -/

/-- Nothing comes of a message. -/
def Session.ignore (s : Session) : Step := ⟨s, .handled none, [], []⟩

/-- A message is refused; only a request is told so. -/
def Session.refuse (s : Session) (m : Message) (f : Failure) (events : List Event) : Step :=
  ⟨s, .handled (m.id.map fun id => ⟨id, .error f⟩), [], events⟩

/-- Whether a message is of the kind that its method wants. -/
def Message.fits (m : Message) (method : Method) : Bool :=
  m.id.isSome == (method.kind == .request)

/-- A message whose time it is: done if it is of the right kind and has the right parameters. -/
def Session.perform (around : Surroundings) (s : Session) (method : Method) (m : Message) : Step :=
  if m.fits method then
    match method.action? m.params with
    | none => s.refuse m .invalidParams []
    | some action =>
      let e := s.act around action
      ⟨e.session, .handled (m.id.map fun id => ⟨id, e.outcome⟩), e.notices, e.events⟩
  else s.ignore

/-- A request for the end, at its time. It ends the session even if it is refused. -/
def Session.stop (around : Surroundings) (s : Session) (m : Message) : Step :=
  let step := s.perform around .stop m
  { step with
    session := { s with stage := .shutDown }
    events := Events.stopRequested :: step.events }

/-- A message of a known method. Each has its time: the first request before any other, the order to
exit and the cancelling of requests always, all the rest in between. -/
def Session.dispatch (around : Surroundings) (s : Session) (m : Message) : Method → Step
  | .exit =>
    let e := s.act around .exit
    ⟨e.session, .handled none, e.notices, e.events⟩
  | .cancel => s.perform around .cancel m
  | .start =>
    if s.stage = .uninitialized then s.perform around .start m
    else s.refuse m .invalidRequest [Events.startedTwice]
  | method =>
    match s.stage with
    | .uninitialized => s.refuse m .notInitialized []
    | .initialized =>
      match method with
      | .stop => s.stop around m
      | method => s.perform around method m
    | _ => s.refuse m .invalidRequest []

/-- Whether a method is one that a server may pass over in silence. -/
def isOptional (method : String) : Bool := "$/".toList.isPrefixOf method.toList

/-- A message that has been decoded. -/
def Session.receive (around : Surroundings) (s : Session) (m : Message) : Step :=
  match Method.ofName? m.method with
  | some method => s.dispatch around m method
  | none => if isOptional m.method then s.ignore else s.refuse m (.unknownMethod m.method) []

/-- A message as it comes. -/
def Session.handle (around : Surroundings) (s : Session) (j : Json) : Step :=
  match Message.ofJson? j with
  | none => ⟨s, .undecodable, [], []⟩
  | some m => if s.stage = .exited then ⟨s, .gone, [], []⟩ else s.receive around m

/-- What comes of messages one after another. -/
def Session.run (around : Surroundings) (s : Session) : List Json → List Step
  | [] => []
  | j :: js =>
    let step := s.handle around j
    step :: step.session.run around js

end ModelineAssist.Server
