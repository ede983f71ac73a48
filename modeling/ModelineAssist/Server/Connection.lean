import ModelineAssist.Server.Encode

/-!
The connection to an editor: messages come in, and responses and notices go out. A message that
cannot be decoded is answered by a failure, and one that comes after the end closes the connection.
Responses of the editor are for requests of the server, which makes none.
-/
namespace ModelineAssist.Server
open Log Settings

/-- A connection: its session, and whether it is open. -/
structure Connection where
  session : Session
  isOpen : Bool

/-- A connection before its first message. -/
def Connection.fresh : Connection := ⟨.fresh, true⟩

/-- What comes of a message on a connection: what is sent and what is logged. -/
structure Exchange where
  connection : Connection
  sent : List Json
  events : List Event

/-- Reads the identifier off a response of the editor. -/
def repliedId? : Reading Id := Record.ofObject? do
  let _ ← Record.field "jsonrpc" (Reading.word ["2.0"])
  let id ← Record.field "id" Id.ofJson?
  let result ← Record.fieldOr "result" (fun j => some (some j)) none
  if result.isNone then
    let _ ← Record.field "error" <| Record.ofJson? do
      let _ ← Record.field "code" Reading.int64
      let _ ← Record.field "message" Reading.string
      Record.optional "data" Reading.any
  return id

/-- What is logged of a response of the editor. -/
def repliedEvent (id : Id) : Event :=
  ⟨.warn, clientTarget,
    if id = .null then "received response with request ID of `null`, ignoring"
    else s!"received response with unknown request ID: {id.logText}", []⟩

/-- A message on a connection, decoded as far as it is JSON. -/
def Connection.handle (around : Surroundings) (c : Connection) (j : Json) : Exchange :=
  if !c.isOpen then ⟨c, [], []⟩
  else
    match repliedId? j with
    | some id => ⟨c, [], [repliedEvent id]⟩
    | none =>
      let step := c.session.handle around j
      let notices := step.notices.map Notice.json
      match step.answer with
      | .undecodable => ⟨c, [undecodableJson], [Events.undecodable]⟩
      | .gone => ⟨{ c with isOpen := false }, [], [Events.gone]⟩
      | .handled response =>
        ⟨{ c with session := step.session }, notices ++ (response.map Response.json).toList,
          step.events⟩

/-- The path of the workspace whose settings a message makes the server load. -/
def Connection.loads? (c : Connection) (j : Json) : Option (List UInt8) :=
  match Message.ofJson? j with
  | some m =>
    if c.session.stage = .uninitialized && m.method == "initialize" then
      (m.params.bind workspace).bind Workspace.rootPath?
    else none
  | none => none

end ModelineAssist.Server
