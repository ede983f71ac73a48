import ModelineAssist.Server.Params

/-!
The messages of the editors' protocol that are known but not answered. Their parameters are still
read, since a message whose parameters are wrong is refused for that.
-/
namespace ModelineAssist.Server
open Record Reading

/-! ### Parts of parameters -/

/-- A number. -/
def number : Reading Unit
  | .int _ => some ()
  | .real _ => some ()
  | _ => none

/-- A place in a document. -/
def somePlace : Record Unit := do
  let _ ← place

/-- A place and the tokens for progress. -/
def placeAndTokens : Record Unit := do somePlace; tokens

/-- A document and the tokens for progress. -/
def documentAndTokens : Record Unit := do need "textDocument" document; tokens

/-- A range in some document. -/
def location : Reading Unit := shape do need "uri" uri; need "range" range

/-- The replacement of a range. -/
def textEdit : Reading Unit := shape do need "range" range; need "newText" string

/-- A replacement that may be explained. -/
def annotatedEdit : Reading Unit := ofObject? do
  need "range" range; need "newText" string; need "annotationId" string

/-- A command of the editor. -/
def command : Reading Unit := shape do
  need "title" string; need "command" string; may "arguments" (list any)

/-- Text with or without marks. -/
def markup : Reading Unit := shape do
  need "kind" markupKind; need "value" string

/-- Documentation. -/
def documentation : Reading Unit := either (seen string) markup

/-- Something wrong in a document. -/
def diagnostic : Reading Unit := shape do
  need "range" range
  may "severity" int32
  may "code" progressToken
  may "codeDescription" (shape (need "href" uri))
  may "source" string
  need "message" string
  may "relatedInformation" (list (shape do need "location" location; need "message" string))
  may "tags" (list int32)
  may "data" any

/-- A document of a known version. -/
def versionedDocument : Reading Unit := shape do need "uri" uri; may "version" int32

/-- The edits of one document. -/
def documentEdit : Reading Unit := shape do
  need "textDocument" versionedDocument
  need "edits" (list (either annotatedEdit textEdit))

/-- What becomes of a file. -/
def fileOperation : Reading Unit := fun j =>
  match j.get? "kind" with
  | some (.string "create") => shape (need "uri" uri) j
  | some (.string "rename") => shape (do need "oldUri" uri; need "newUri" uri) j
  | some (.string "delete") => shape (need "uri" uri) j
  | _ => none

/-- The edits of one document, given by its identifier. -/
def editsByDocument : Reading Unit
  | .object members =>
    if members.all fun m => (Uri.parse? m.1.toList).isSome && (list textEdit m.2).isSome then
      some ()
    else none
  | _ => none

/-- Edits of several documents. -/
def workspaceEdit : Reading Unit := shape do
  may "changes" editsByDocument
  may "documentChanges" (list (either documentEdit fileOperation))
  may "changeAnnotations" any

/-- How to format. -/
def formattingOptions : Reading Unit := ofObject? do
  need "tabSize" uint32; need "insertSpaces" bool
  may "trimTrailingWhitespace" bool
  may "insertFinalNewline" bool
  may "trimFinalNewlines" bool

/-- A place in a hierarchy of calls or types. -/
def hierarchyItem (tags : Reading Unit) : Reading Unit := shape do
  need "name" string
  need "kind" int32
  may "tags" tags
  may "detail" string
  need "uri" uri
  need "range" range
  need "selectionRange" range
  may "data" any

/-- The signatures shown for a call. -/
def signatureHelp : Reading Unit := shape do
  need "signatures" (list (shape do
    need "label" string
    may "documentation" documentation
    may "parameters" (list (shape do
      need "label" (either (seen string) (seen (list uint32)))
      may "documentation" documentation))
    may "activeParameter" uint32))
  may "activeSignature" uint32
  may "activeParameter" uint32

/-- A candidate for a completion. -/
def completionItem : Reading Unit := shape do
  need "label" string
  may "labelDetails" (shape do may "detail" string; may "description" string)
  may "kind" int32
  may "detail" string
  may "documentation" documentation
  may "deprecated" bool
  may "preselect" bool
  may "sortText" string
  may "filterText" string
  may "insertText" string
  may "insertTextFormat" int32
  may "insertTextMode" int32
  may "textEdit" (either textEdit (shape do
    need "newText" string; need "insert" range; need "replace" range))
  may "additionalTextEdits" (list textEdit)
  may "command" command
  may "commitCharacters" (list string)
  may "data" any
  may "tags" (list int32)

/-- An action on code. -/
def codeAction : Reading Unit := shape do
  need "title" string
  may "kind" string
  may "diagnostics" (list diagnostic)
  may "edit" workspaceEdit
  may "command" command
  may "isPreferred" bool
  may "disabled" (shape (need "reason" string))
  may "data" any

/-- Text shown between characters. -/
def inlayHint : Reading Unit := shape do
  need "position" position
  need "label" (either (seen string) (seen (list (shape do
    need "value" string
    may "tooltip" documentation
    may "location" location
    may "command" command))))
  may "kind" int32
  may "textEdits" (list textEdit)
  may "tooltip" documentation
  may "paddingLeft" bool
  may "paddingRight" bool
  may "data" any

/-- A colour. -/
def colour : Reading Unit := shape do
  need "red" number; need "green" number; need "blue" number; need "alpha" number

/-- Files by their names. -/
def files (names : List String) : Reading Unit := shape do
  need "files" (list (shape (names.forM fun name => need name string)))

/-! ### The messages -/

/-- Whether a message is a request. -/
inductive Kind
  | request
  | notification
  deriving DecidableEq, Repr

/-- A message that is known but not answered. -/
structure Unanswered where
  name : String
  kind : Kind
  params : Reading Unit

/-- Requests about a place, with progress. -/
def aboutPlace (name : String) : Unanswered := ⟨name, .request, ofObject? placeAndTokens⟩

/-- Requests about a document, with progress. -/
def aboutDocument (name : String) : Unanswered := ⟨name, .request, ofObject? documentAndTokens⟩

/-- The messages that are known but not answered. -/
def unansweredMethods : List Unanswered :=
  ["textDocument/declaration", "textDocument/definition", "textDocument/typeDefinition",
    "textDocument/implementation", "textDocument/documentHighlight",
    "textDocument/moniker"].map aboutPlace ++
  ["textDocument/documentLink", "textDocument/codeLens", "textDocument/foldingRange",
    "textDocument/documentSymbol", "textDocument/semanticTokens/full",
    "textDocument/documentColor"].map aboutDocument ++
  [⟨"textDocument/willSave", .notification, shape do
      need "textDocument" document; need "reason" int32⟩,
    ⟨"textDocument/willSaveWaitUntil", .request, shape do
      need "textDocument" document; need "reason" int32⟩,
    ⟨"textDocument/didSave", .notification, shape do
      need "textDocument" document; may "text" string⟩,
    ⟨"textDocument/references", .request, ofObject? do
      placeAndTokens; need "context" (shape (need "includeDeclaration" bool))⟩,
    ⟨"textDocument/prepareCallHierarchy", .request, ofObject? do somePlace; workToken⟩,
    ⟨"callHierarchy/incomingCalls", .request, ofObject? do
      need "item" (hierarchyItem (seen (list int32))); tokens⟩,
    ⟨"callHierarchy/outgoingCalls", .request, ofObject? do
      need "item" (hierarchyItem (seen (list int32))); tokens⟩,
    ⟨"textDocument/prepareTypeHierarchy", .request, ofObject? do somePlace; workToken⟩,
    ⟨"typeHierarchy/supertypes", .request, ofObject? do
      need "item" (hierarchyItem (seen int32)); tokens⟩,
    ⟨"typeHierarchy/subtypes", .request, ofObject? do
      need "item" (hierarchyItem (seen int32)); tokens⟩,
    ⟨"documentLink/resolve", .request, shape do
      need "range" range; may "target" uri; may "tooltip" string; may "data" any⟩,
    ⟨"codeLens/resolve", .request, shape do
      need "range" range; may "command" command; may "data" any⟩,
    ⟨"textDocument/selectionRange", .request, ofObject? do
      documentAndTokens; need "positions" (list position)⟩,
    ⟨"textDocument/semanticTokens/full/delta", .request, ofObject? do
      documentAndTokens; need "previousResultId" string⟩,
    ⟨"textDocument/semanticTokens/range", .request, ofObject? do
      documentAndTokens; need "range" range⟩,
    ⟨"textDocument/inlineValue", .request, ofObject? do
      workToken; need "textDocument" document; need "range" range
      need "context" (shape do need "frameId" int32; need "stoppedLocation" range)⟩,
    ⟨"textDocument/inlayHint", .request, ofObject? do
      workToken; need "textDocument" document; need "range" range⟩,
    ⟨"inlayHint/resolve", .request, inlayHint⟩,
    ⟨"completionItem/resolve", .request, completionItem⟩,
    ⟨"textDocument/diagnostic", .request, ofObject? do
      documentAndTokens; may "identifier" string; may "previousResultId" string⟩,
    ⟨"workspace/diagnostic", .request, ofObject? do
      may "identifier" string
      need "previousResultIds" (list (shape do need "uri" uri; need "value" string))
      tokens⟩,
    ⟨"textDocument/signatureHelp", .request, ofObject? do
      somePlace; workToken
      may "context" (shape do
        need "triggerKind" int32; may "triggerCharacter" string; need "isRetrigger" bool
        may "activeSignatureHelp" signatureHelp)⟩,
    ⟨"textDocument/codeAction", .request, ofObject? do
      documentAndTokens; need "range" range
      need "context" (shape do
        need "diagnostics" (list diagnostic); may "only" (list string); may "triggerKind" int32)⟩,
    ⟨"codeAction/resolve", .request, codeAction⟩,
    ⟨"textDocument/colorPresentation", .request, ofObject? do
      documentAndTokens; need "color" colour; need "range" range⟩,
    ⟨"textDocument/formatting", .request, ofObject? do
      need "textDocument" document; need "options" formattingOptions; workToken⟩,
    ⟨"textDocument/rangeFormatting", .request, ofObject? do
      need "textDocument" document; need "range" range; need "options" formattingOptions
      workToken⟩,
    ⟨"textDocument/onTypeFormatting", .request, ofObject? do
      somePlace; need "ch" string; need "options" formattingOptions⟩,
    ⟨"textDocument/rename", .request, ofObject? do somePlace; need "newName" string; workToken⟩,
    ⟨"textDocument/prepareRename", .request, shape somePlace⟩,
    ⟨"textDocument/linkedEditingRange", .request, ofObject? do somePlace; workToken⟩,
    ⟨"workspace/symbol", .request, ofObject? do tokens; need "query" string⟩,
    ⟨"workspaceSymbol/resolve", .request, shape do
      need "name" string; need "kind" int32; may "tags" (list int32); may "containerName" string
      need "location" (either location (shape (need "uri" uri))); may "data" any⟩,
    ⟨"workspace/didChangeConfiguration", .notification, shape (need "settings" any)⟩,
    ⟨"workspace/didChangeWorkspaceFolders", .notification,
      shape (need "event" (shape do need "added" (list folder); need "removed" (list folder)))⟩,
    ⟨"workspace/willCreateFiles", .request, files ["uri"]⟩,
    ⟨"workspace/didCreateFiles", .notification, files ["uri"]⟩,
    ⟨"workspace/willRenameFiles", .request, files ["oldUri", "newUri"]⟩,
    ⟨"workspace/didRenameFiles", .notification, files ["oldUri", "newUri"]⟩,
    ⟨"workspace/willDeleteFiles", .request, files ["uri"]⟩,
    ⟨"workspace/didDeleteFiles", .notification, files ["uri"]⟩,
    ⟨"workspace/didChangeWatchedFiles", .notification, shape (need "changes" (list (shape do
      need "uri" uri; need "type" int32)))⟩,
    ⟨"workspace/executeCommand", .request, ofObject? do
      need "command" string; let _ ← fieldOr "arguments" (list any) []; workToken⟩]

end ModelineAssist.Server
