import ModelineAssist.Json.Record

/-!
What an editor says of itself when a session begins: what it can do, by the many names that the
protocol has for that. Nothing here depends on the answers, but a request whose answers are no
answers is refused.
-/
namespace ModelineAssist.Server
open Record Reading

/-! ### Answers that many names share -/

/-- Whether an editor can do some things. -/
def flags (names : List String) : Record Unit := names.forM fun name => may name bool

/-- Whether an editor can be told at any time that something is to be done. -/
def dynamic : Reading Unit := shape (flags ["dynamicRegistration"])

/-- Whether an editor can be told to ask again. -/
def refreshing : Reading Unit := shape (flags ["refreshSupport"])

/-- Whether an editor can follow links to other places. -/
def linked : Reading Unit := shape (flags ["dynamicRegistration", "linkSupport"])

/-- The kinds that an editor knows. -/
def kinds {α : Type} (read : Reading α) : Reading Unit := shape (may "valueSet" (list read))

/-- What an editor can ask for later. -/
def lazily : Reading Unit := shape (need "properties" (list string))

/-- The tags that an editor shows. Some editors only say whether they show any. -/
def shownTags : Reading Unit
  | .null | .bool _ => some ()
  | j => shape (need "valueSet" (list int32)) j

/-- Passes over the tags that an editor shows. -/
def tagSupport : Record Unit := fieldOr "tagSupport" shownTags ()

/-- Text with marks, or without. -/
def markupKind : Reading String := choice ["plaintext", "markdown"]

/-! ### The workspace -/

/-- How edits of several documents can be made. -/
def editAbilities : Reading Unit := shape do
  flags ["documentChanges"]
  may "resourceOperations" (list (choice ["create", "rename", "delete"]))
  may "failureHandling" (choice ["abort", "transactional", "textOnlyTransactional", "undo"])
  flags ["normalizesLineEndings"]
  may "changeAnnotationSupport" (shape (flags ["groupsOnLabel"]))

/-- How names in the workspace can be found. -/
def workspaceSymbolAbilities : Reading Unit := shape do
  flags ["dynamicRegistration"]
  may "symbolKind" (kinds int32)
  tagSupport
  may "resolveSupport" lazily

/-- What an editor can do with the workspace. -/
def workspaceAbilities : Reading Unit := shape do
  flags ["applyEdit"]
  may "workspaceEdit" editAbilities
  may "didChangeConfiguration" dynamic
  may "didChangeWatchedFiles" (shape (flags ["dynamicRegistration", "relativePatternSupport"]))
  may "symbol" workspaceSymbolAbilities
  may "executeCommand" dynamic
  flags ["workspaceFolders", "configuration"]
  may "semanticTokens" refreshing
  may "codeLens" refreshing
  may "fileOperations" (shape (flags ["dynamicRegistration", "didCreate", "willCreate", "didRename",
    "willRename", "didDelete", "willDelete"]))
  may "inlineValue" refreshing
  may "inlayHint" refreshing
  may "diagnostic" refreshing

/-! ### Documents -/

/-- What an editor can do with a candidate. -/
def completionItemAbilities : Reading Unit := shape do
  flags ["snippetSupport", "commitCharactersSupport"]
  may "documentationFormat" (list markupKind)
  flags ["deprecatedSupport", "preselectSupport"]
  tagSupport
  flags ["insertReplaceSupport"]
  may "resolveSupport" lazily
  may "insertTextModeSupport" (shape (need "valueSet" (list int32)))
  flags ["labelDetailsSupport"]

/-- What an editor can do with completions. -/
def completionAbilities : Reading Unit := shape do
  flags ["dynamicRegistration"]
  may "completionItem" completionItemAbilities
  may "completionItemKind" (kinds int32)
  flags ["contextSupport"]
  may "insertTextMode" int32
  may "completionList" (shape (may "itemDefaults" (list string)))

/-- What an editor can show of the signatures of a call. -/
def signatureAbilities : Reading Unit := shape do
  flags ["dynamicRegistration"]
  may "signatureInformation" (shape do
    may "documentationFormat" (list markupKind)
    may "parameterInformation" (shape (flags ["labelOffsetSupport"]))
    flags ["activeParameterSupport"])
  flags ["contextSupport"]

/-- What an editor can show of the names in a document. -/
def documentSymbolAbilities : Reading Unit := shape do
  flags ["dynamicRegistration"]
  may "symbolKind" (kinds int32)
  flags ["hierarchicalDocumentSymbolSupport"]
  tagSupport

/-- What an editor can do with actions on code. -/
def codeActionAbilities : Reading Unit := shape do
  flags ["dynamicRegistration"]
  may "codeActionLiteralSupport" (shape (need "codeActionKind" (shape
    (need "valueSet" (list string)))))
  flags ["isPreferredSupport", "disabledSupport", "dataSupport"]
  may "resolveSupport" lazily
  flags ["honorsChangeAnnotations"]

/-- What an editor can do to rename. -/
def renameAbilities : Reading Unit := shape do
  flags ["dynamicRegistration", "prepareSupport"]
  may "prepareSupportDefaultBehavior" int32
  flags ["honorsChangeAnnotations"]

/-- What an editor can show of what is wrong in a document. -/
def diagnosticAbilities : Reading Unit := shape do
  flags ["relatedInformation"]
  tagSupport
  flags ["versionSupport", "codeDescriptionSupport", "dataSupport"]

/-- What an editor can fold. -/
def foldingAbilities : Reading Unit := shape do
  flags ["dynamicRegistration"]
  may "rangeLimit" uint32
  flags ["lineFoldingOnly"]
  may "foldingRangeKind" (kinds (choice ["comment", "imports", "region"]))
  may "foldingRange" (shape (flags ["collapsedText"]))

/-- What an editor can colour by meaning. -/
def semanticTokensAbilities : Reading Unit := shape do
  flags ["dynamicRegistration"]
  need "requests" (shape do
    flags ["range"]
    may "full" (either (seen bool) (ofObject? (flags ["delta"]))))
  need "tokenTypes" (list string)
  need "tokenModifiers" (list string)
  need "formats" (list string)
  flags ["overlappingTokenSupport", "multilineTokenSupport", "serverCancelSupport",
    "augmentsSyntaxTokens"]

/-- What an editor can do with documents. -/
def documentAbilities : Reading Unit := shape do
  may "synchronization" (shape (flags ["dynamicRegistration", "willSave", "willSaveWaitUntil",
    "didSave"]))
  may "completion" completionAbilities
  may "hover" (shape do flags ["dynamicRegistration"]; may "contentFormat" (list markupKind))
  may "signatureHelp" signatureAbilities
  may "references" dynamic
  may "documentHighlight" dynamic
  may "documentSymbol" documentSymbolAbilities
  may "formatting" dynamic
  may "rangeFormatting" dynamic
  may "onTypeFormatting" dynamic
  may "declaration" linked
  may "definition" linked
  may "typeDefinition" linked
  may "implementation" linked
  may "codeAction" codeActionAbilities
  may "codeLens" dynamic
  may "documentLink" (shape (flags ["dynamicRegistration", "tooltipSupport"]))
  may "colorProvider" dynamic
  may "rename" renameAbilities
  may "publishDiagnostics" diagnosticAbilities
  may "foldingRange" foldingAbilities
  may "selectionRange" dynamic
  may "linkedEditingRange" dynamic
  may "callHierarchy" dynamic
  may "semanticTokens" semanticTokensAbilities
  may "moniker" dynamic
  may "typeHierarchy" dynamic
  may "inlineValue" dynamic
  may "inlayHint" (shape do flags ["dynamicRegistration"]; may "resolveSupport" lazily)
  may "diagnostic" (shape (flags ["dynamicRegistration", "relatedDocumentSupport"]))

/-! ### The editor itself -/

/-- What an editor can show in its windows. -/
def windowAbilities : Reading Unit := shape do
  flags ["workDoneProgress"]
  may "showMessage" (shape (may "messageActionItem" (shape
    (flags ["additionalPropertiesSupport"]))))
  may "showDocument" (shape (need "support" bool))

/-- What an editor can do in general. -/
def generalAbilities : Reading Unit := shape do
  may "regularExpressions" (shape do need "engine" string; may "version" string)
  may "markdown" (shape do
    need "parser" string; may "version" string; may "allowedTags" (list string))
  may "staleRequestSupport" (shape do
    need "cancel" bool; need "retryOnContentModified" (list string))
  may "positionEncodings" (list string)

/-- What an editor can do. -/
def capabilities : Reading Unit := shape do
  may "workspace" workspaceAbilities
  may "textDocument" documentAbilities
  may "window" windowAbilities
  may "general" generalAbilities
  may "experimental" any

end ModelineAssist.Server
