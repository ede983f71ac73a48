import ModelineAssist.Json.Parser
import ModelineAssist.Settings.Value

/-!
Settings in JSON: the file is one object.
-/
namespace ModelineAssist.Settings

mutual

/-- A JSON value as a setting. -/
def ofJson : Json → Value
  | .null => .plain .null
  | .bool b => .plain (.bool b)
  | .int n => .plain (.number (n != 0))
  | .real d => .plain (.number !d.roundsToZero)
  | .string s => .plain (.text s)
  | .array _ => .plain .array
  | .object members => .table (ofJsonMembers members)

/-- The members of a JSON object as entries of a table. -/
def ofJsonMembers : List (String × Json) → List (String × Value)
  | [] => []
  | (name, value) :: ms => (name, ofJson value) :: ofJsonMembers ms

end

/-- The entries of a JSON file. -/
def parseJson? (text : List Char) : Option (List (String × Value)) :=
  match Json.parse? text with
  | some (.object members) => some (ofJsonMembers members)
  | _ => none

end ModelineAssist.Settings
