import ModelineAssist.Json.Record

/-!
Messages of a client: requests, which want a response, and notifications, which do not. They follow
JSON-RPC 2.0.
-/
namespace ModelineAssist.Server

/-- By what a client knows the response to a request. -/
inductive Id
  | number (n : Int)
  | text (s : String)
  | null
  deriving DecidableEq, Repr

/-- A message. It is a request if it has an identifier, else a notification. -/
structure Message where
  method : String
  params : Option Json
  id : Option Id

/-- Reads an identifier. -/
def Id.ofJson? : Reading Id
  | .int n => (Reading.int64 (.int n)).map .number
  | .string s => some (.text s)
  | .null => some .null
  | _ => none

/-- The fields of a message. -/
def Message.record : Record Message := do
  let _ ← Record.field "jsonrpc" (Reading.word ["2.0"])
  let method ← Record.fieldOr "method" Reading.string ""
  let params ← Record.fieldOr "params" (fun j => some (some j)) none
  let id ← Record.fieldOr "id" (fun j => (Id.ofJson? j).map some) none
  return ⟨method, params, id⟩

/-- The message that a value writes; `none` if it follows another protocol, or none. -/
def Message.ofJson? : Reading Message := Record.ofJson? Message.record

end ModelineAssist.Server
