import ModelineAssist.Json.Basic
import ModelineAssist.Server.Session

/-!
How what the server has to say is written for the client: places, offers and descriptions, and the
responses and notices that carry them.
-/
namespace ModelineAssist

/-- A place in a document. -/
def Position.json (p : Position) : Json :=
  .object [("line", .int p.line.toNat), ("character", .int p.character.toNat)]

/-- A range of a document. -/
def Range.json (r : Range) : Json :=
  .object [("start", r.start.json), ("end", r.stop.json)]

/-- The number by which clients know a tag. -/
def Registry.Tag.code : Registry.Tag → Int
  | .deprecated => 1

/-- The kind of candidate that a name of a property is. -/
def propertyKind : Int := 10

/-- The members of a candidate. Tags are left out when there is none. -/
def Registry.Candidate.members (c : Registry.Candidate) : List (String × Json) :=
  [("label", .string c.label), ("kind", .int propertyKind)] ++
    (if c.tags.isEmpty then [] else [("tags", .array (c.tags.map (.int ·.code)))]) ++
    [("documentation", .string c.documentation)]

/-- A candidate by itself. -/
def Registry.Candidate.json (c : Registry.Candidate) : Json := .object c.members

/-- An offer: the candidate, and the edit that taking it makes. -/
def Offer.json (o : Offer) : Json :=
  .object (o.candidate.members ++
    [("filterText", .string o.filterText),
     ("textEdit", .object [("range", o.range.json), ("newText", .string o.newText)])])

/-- The answer to a request for completion. The list is always complete. -/
def completionJson : Option (List Offer) → Json
  | none => .null
  | some offers =>
    .object [("isIncomplete", .bool false), ("items", .array (offers.map Offer.json))]

/-- The answer to a request for a description. -/
def hoverJson : Option Description → Json
  | none => .null
  | some d =>
    .object
      [("contents", .object [("kind", .string "markdown"), ("value", .string d.markdown)]),
       ("range", d.range.json)]

namespace Server

/-- The identifier of a request. -/
def Id.json : Id → Json
  | .number n => .int n
  | .text s => .string s
  | .null => .null

/-- The number by which clients know a failure. -/
def Failure.code : Failure → Int
  | .notInitialized => -32002
  | .invalidRequest => -32600
  | .unknownMethod _ | .unansweredMethod => -32601
  | .invalidParams => -32602

/-- The wording of a failure. -/
def Failure.message : Failure → String
  | .notInitialized => "Server not initialized"
  | .invalidRequest => "Invalid request"
  | .unknownMethod _ | .unansweredMethod => "Method not found"
  | .invalidParams => "Invalid params"

/-- A failure. The name of an unknown method goes with it. -/
def Failure.json (f : Failure) : Json :=
  .object ([("code", .int f.code), ("message", .string f.message)] ++
    match f with
    | .unknownMethod name => [("data", .string name)]
    | _ => [])

/-- What the server can do: it takes documents as wholes, completes, also behind a colon or a blank,
and describes. -/
def capabilitiesJson : Json :=
  .object
    [("capabilities", .object
      [("textDocumentSync", .int 1),
       ("hoverProvider", .bool true),
       ("completionProvider", .object
        [("triggerCharacters", .array [.string ":", .string " "])])]),
     ("serverInfo", .object
      [("name", .string programName), ("version", .string programVersion)])]

/-- The result of a request. -/
def Result.json : Result → Json
  | .capabilities => capabilitiesJson
  | .nothing => .null
  | .completion offers => completionJson offers
  | .hover description => hoverJson description

/-- A message of the server. -/
def protocolMessage (members : List (String × Json)) : Json :=
  .object (("jsonrpc", .string "2.0") :: members)

/-- A response. -/
def Response.json (r : Response) : Json :=
  match r.outcome with
  | .ok result => protocolMessage [("result", result.json), ("id", r.id.json)]
  | .error f => protocolMessage [("error", f.json), ("id", r.id.json)]

/-- The response to a message that cannot be decoded. -/
def undecodableJson : Json := Response.json ⟨.null, .error .invalidRequest⟩

/-- The response to a message that is not JSON. -/
def unreadableJson : Json :=
  protocolMessage
    [("error", .object [("code", .int (-32700)), ("message", .string "Parse error")]),
     ("id", .null)]

/-- A notice, as a line of information for the log of the client. -/
def Notice.json (n : Notice) : Json :=
  protocolMessage
    [("method", .string "window/logMessage"),
     ("params", .object [("type", .int 3), ("message", .string n.message)])]

end Server

end ModelineAssist
