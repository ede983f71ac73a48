import ModelineAssist.Position
import ModelineAssist.Server.Capabilities
import ModelineAssist.Uri.Parser

/-!
The parameters of the messages that editors send: how they are read off JSON.
-/
namespace ModelineAssist.Server
open Record Reading

/-! ### What many messages share -/

/-- The identifier of a document or a directory. -/
def uri : Reading Uri := fun j => (string j).bind fun s => Uri.parse? s.toList

/-- A place in a document. -/
def position : Reading Position := ofJson? do
  let line ← field "line" uint32
  let character ← field "character" uint32
  return ⟨line, character⟩

/-- The text between two places. -/
def range : Reading Range := ofJson? do
  let start ← field "start" position
  let stop ← field "end" position
  return ⟨start, stop⟩

/-- A document, named by its identifier. -/
def document : Reading Uri := ofJson? (field "uri" uri)

/-- A place in a document that is named. -/
def place : Record (Uri × Position) := do
  let uri ← field "textDocument" document
  let position ← field "position" position
  return (uri, position)

/-- A token by which a client follows the progress of its request. -/
def progressToken : Reading Unit := either (seen int32) (seen string)

/-- The token for the progress of the work. -/
def workToken : Record Unit := do
  let _ ← optional "workDoneToken" progressToken

/-- The tokens for the progress of the work and for partial results. -/
def tokens : Record Unit := do
  workToken
  let _ ← optional "partialResultToken" progressToken

/-- A directory that the editor works in. -/
def folder : Reading Uri := ofJson? do
  let uri ← field "uri" uri
  let _ ← field "name" string
  return uri

/-! ### Starting -/

/-- Where the editor works: the directories of the workspace, and the root by which older editors
name it. -/
structure Workspace where
  folders : Option (List Uri)
  root : Option Uri

/-- The root of the settings: the first directory, and if there is none, the root. -/
def Workspace.settingsRoot? (w : Workspace) : Option Uri :=
  match w.folders with
  | some (first :: _) => some first
  | _ => w.root

/-- The name and the version of an editor. -/
def clientInfo : Reading Unit := ofJson? do
  let _ ← field "name" string
  let _ ← optional "version" string

/-- The parameters of the first request. -/
def workspace : Reading Workspace := ofJson? do
  let _ ← optional "processId" uint32
  let _ ← optional "rootPath" string
  let root ← fieldOr "rootUri" (orNull uri) none
  let _ ← optional "initializationOptions" any
  let _ ← field "capabilities" capabilities
  let _ ← fieldOr "trace" (orNull (choice ["off", "messages", "verbose"])) none
  let folders ← optional "workspaceFolders" (list folder)
  let _ ← optional "clientInfo" clientInfo
  let _ ← optional "locale" string
  return ⟨folders, root⟩

/-! ### Documents -/

/-- A document with its text. -/
def documentItem : Reading (Uri × String) := ofJson? do
  let uri ← field "uri" uri
  let _ ← field "languageId" string
  let _ ← field "version" int32
  let text ← field "text" string
  return (uri, text)

/-- A document of a version, which does not matter. -/
def numberedDocument : Reading Uri := ofJson? do
  let uri ← field "uri" uri
  let _ ← field "version" int32
  return uri

/-- The identifier and the text of a document that has been opened. -/
def openedDocument : Reading (Uri × String) := ofJson? (field "textDocument" documentItem)

/-- The text of a change. The range that it is for does not matter, as changes carry whole
documents. -/
def change : Reading String := ofJson? do
  let _ ← optional "range" range
  let _ ← optional "rangeLength" uint32
  field "text" string

/-- The identifier of a document that has been changed, and the texts of the changes. -/
def changedDocument : Reading (Uri × List String) := ofJson? do
  let uri ← field "textDocument" numberedDocument
  let texts ← field "contentChanges" (list change)
  return (uri, texts)

/-- The identifier of a document that has been closed. -/
def closedDocument : Reading Uri := ofJson? (field "textDocument" document)

/-! ### Questions -/

/-- How a completion came to be asked for. -/
def completionContext : Reading Unit := ofJson? do
  let _ ← field "triggerKind" int32
  let _ ← optional "triggerCharacter" string

/-- Where a completion is asked for. -/
def completionPlace : Reading (Uri × Position) := ofObject? do
  let p ← place
  tokens
  let _ ← optional "context" completionContext
  return p

/-- Where a description is asked for. -/
def hoverPlace : Reading (Uri × Position) := ofObject? do
  let p ← place
  workToken
  return p

end ModelineAssist.Server
