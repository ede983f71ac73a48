import ModelineAssist.Log.Event
import ModelineAssist.Server.Method
import ModelineAssist.Settings.Load

/-!
The events of a session, as they are logged.
-/
namespace ModelineAssist.Server
open Log

/-- The name that the program goes by. -/
def programName : String := "camelk-modeline"

/-- The version of the program. -/
def programVersion : String := "0.1.0"

/-- The parts of the program that events come from. -/
def programTarget : String := "camelk_modeline"

/-- Where events of completion come from. -/
def completionTarget : String := "camelk_modeline::completion"

/-- Where events of the order of messages come from. -/
def orderTarget : String := "tower_lsp::service::layers"

/-- Where events of requests under way come from. -/
def pendingTarget : String := "tower_lsp::service::pending"

/-- Where events of responses of the editor come from. -/
def clientTarget : String := "tower_lsp::service::client::pending"

/-- Where events of unanswered methods come from. -/
def protocolTarget : String := "tower_lsp"

/-- Where events of the transport come from. -/
def transportTarget : String := "tower_lsp::transport"

/-- How settings are logged. -/
def settingsText (s : Settings) : String :=
  s!"Settings \x7b modeline_completions: {s.completions}, hover: {s.hover}, " ++
    s!"match_strategy: {s.strategy.name}, case_matching: {s.rule.name} \x7d"

/-- How identifiers of documents are logged. -/
def uriText (uri : Uri) : String := String.ofList uri.text

/-- How identifiers of requests are logged. -/
def Id.logText : Id → String
  | .number n => toString n
  | .text s => Text.quoted s
  | .null => "null"

namespace Events

/-- The settings of a workspace have been loaded. -/
def loaded (settings : Settings) (root : String) : Event :=
  ⟨.debug, programTarget, "loaded settings", [("settings", settingsText settings), ("root", root)]⟩

/-- The settings of a workspace could not be loaded. -/
def notLoaded (e : Settings.LoadError) : Event :=
  ⟨.warn, programTarget, s!"falling back to default settings: {e.message}", []⟩

/-- The client has seen the first response. -/
def started : Event := ⟨.info, programTarget, "server initialized", []⟩

/-- The session comes to its end. -/
def stopping : Event := ⟨.info, programTarget, "shutting down", []⟩

/-- A document has been opened. -/
def opened (uri : Uri) : Event := ⟨.debug, programTarget, "opened", [("uri", uriText uri)]⟩

/-- A document has been closed. -/
def closed (uri : Uri) : Event := ⟨.debug, programTarget, "closed", [("uri", uriText uri)]⟩

/-- A completion is asked for in a document that is not open. -/
def unknownDocument (uri : Uri) : Event :=
  ⟨.warn, programTarget, "completion requested for unknown document", [("uri", uriText uri)]⟩

/-- Offers have been found. -/
def completed (place : Position) (count : Nat) : Event :=
  ⟨.debug, completionTarget, "completion",
    [("line", toString place.line.toNat), ("character", toString place.character.toNat),
      ("count", toString count)]⟩

/-- The first request has come again. -/
def startedTwice : Event :=
  ⟨.warn, orderTarget, "received duplicate `initialize` request, ignoring", []⟩

/-- The client asks for the end. -/
def stopRequested : Event :=
  ⟨.info, orderTarget, "shutdown request received, shutting down", []⟩

/-- The client orders the end. -/
def exitReceived : Event := ⟨.info, orderTarget, "exit notification received, stopping", []⟩

/-- A request that is not under way is to be cancelled. -/
def nothingToCancel (id : Id) : Event :=
  ⟨.debug, pendingTarget, s!"client asked to cancel request {id.logText}, " ++
    "but no such pending request exists, ignoring", []⟩

/-- A method that is not answered has been called. -/
def notAnswered (name : String) : Kind → Event
  | .request =>
    ⟨.error, protocolTarget, s!"Got a {name} request, but it is not implemented", []⟩
  | .notification =>
    ⟨.warn, protocolTarget, s!"Got a {name} notification, but it is not implemented", []⟩

/-- A message comes after the end. -/
def gone : Event := ⟨.error, transportTarget, "language server has exited", []⟩

/-- A message cannot be decoded. -/
def undecodable : Event :=
  ⟨.error, transportTarget, "failed to decode message: unable to parse JSON body: " ++
    "data did not match any variant of untagged enum Message", []⟩

end Events

end ModelineAssist.Server
