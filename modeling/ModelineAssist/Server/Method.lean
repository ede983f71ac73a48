import ModelineAssist.Server.Message
import ModelineAssist.Server.Unanswered

/-!
What clients may ask for or tell: the methods by their names, and the actions that come of them once
their parameters have been read.
-/
namespace ModelineAssist.Server

/-- The methods that the server knows. -/
inductive Method
  | start
  | started
  | stop
  | exit
  | opened
  | changed
  | closed
  | complete
  | describe
  | cancel
  | unanswered (u : Unanswered)

/-- The methods that are answered, by name. -/
def Method.answered : List (String × Method) :=
  [("initialize", .start), ("initialized", .started), ("shutdown", .stop), ("exit", .exit),
    ("textDocument/didOpen", .opened), ("textDocument/didChange", .changed),
    ("textDocument/didClose", .closed), ("textDocument/completion", .complete),
    ("textDocument/hover", .describe), ("$/cancelRequest", .cancel)]

/-- The method of a name. -/
def Method.ofName? (name : String) : Option Method :=
  match Method.answered.find? (·.1 = name) with
  | some m => some m.2
  | none => (unansweredMethods.find? (·.name = name)).map .unanswered

/-- Whether a method is called by requests or by notifications. -/
def Method.kind : Method → Kind
  | .start | .stop | .complete | .describe => .request
  | .started | .exit | .opened | .changed | .closed | .cancel => .notification
  | .unanswered u => u.kind

/-- What is to be done. -/
inductive Action
  | start (workspace : Workspace)
  | started
  | stop
  | exit
  /-- A document has this text, which it was opened with. -/
  | opened (uri : Uri) (text : List Char)
  /-- A document has the last of these texts. -/
  | changed (uri : Uri) (texts : List (List Char))
  | closed (uri : Uri)
  | complete (uri : Uri) (place : Position)
  | describe (uri : Uri) (place : Position)
  | cancel (id : Id)
  | unanswered (name : String) (kind : Kind)

/-- Parameters that have to be there. -/
def given (read : Reading Action) (params : Option Json) : Option Action := params.bind read

/-- The parameters of a request to be cancelled. -/
def cancelledId : Reading Id := Record.ofJson? <| Record.field "id" <|
  Reading.either (fun j => (Reading.int32 j).map .number) fun j => (Reading.string j).map .text

/-- The action that a method and parameters come to; `none` if the parameters are wrong. -/
def Method.action? : Method → Option Json → Option Action
  | .start => given fun j => (workspace j).map .start
  | .started => given fun j => (Record.ofJson? (pure ()) j).map fun _ => .started
  | .stop => fun params => if params.isNone then some .stop else none
  | .exit => fun _ => some .exit
  | .opened => given fun j => (openedDocument j).map fun d => .opened d.1 d.2.toList
  | .changed => given fun j => (changedDocument j).map fun d => .changed d.1 (d.2.map String.toList)
  | .closed => given fun j => (closedDocument j).map .closed
  | .complete => given fun j => (completionPlace j).map fun p => .complete p.1 p.2
  | .describe => given fun j => (hoverPlace j).map fun p => .describe p.1 p.2
  | .cancel => given fun j => (cancelledId j).map .cancel
  | .unanswered u => given fun j => (u.params j).map fun _ => .unanswered u.name u.kind

end ModelineAssist.Server
