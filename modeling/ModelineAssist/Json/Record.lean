import ModelineAssist.Json.Basic

/-!
Reading typed values off JSON. A record is read field by field from an object by the names of its
fields, or from an array by their order. Names that no field has are passed over; values that no
field takes are not.
-/
namespace ModelineAssist

/-- A way to read a value off JSON. -/
abbrev Reading (α : Type) := Json → Option α

/-- Where the fields of a record come from. -/
inductive Fields
  | named (members : List (String × Json))
  | inOrder (values : List Json)

/-- A way to read the fields of a record, the next field first. -/
abbrev Record := StateT Fields Option

namespace Record

/-- The value of the next field, if it is there. -/
def next? (name : String) : Record (Option Json)
  | .named members => some (member? name members, .named members)
  | .inOrder [] => some (none, .inOrder [])
  | .inOrder (v :: vs) => some (some v, .inOrder vs)

/-- Reads a field that has to be there. -/
def field {α : Type} (name : String) (read : Reading α) : Record α := do
  match ← next? name with
  | some value => fun fields => (read value).map (·, fields)
  | none => fun _ => none

/-- Reads a field that may be missing. -/
def fieldOr {α : Type} (name : String) (read : Reading α) (missing : α) : Record α := do
  match ← next? name with
  | some value => fun fields => (read value).map (·, fields)
  | none => pure missing

/-- What a reading makes of a value that may be null. -/
def orNull {α : Type} (read : Reading α) : Reading (Option α)
  | .null => some none
  | value => (read value).map some

/-- Reads a field that may be null, or missing where fields have names. -/
def optional {α : Type} (name : String) (read : Reading α) : Record (Option α) := fun fields =>
  match fields with
  | .named _ => fieldOr name (orNull read) none fields
  | .inOrder _ => field name (orNull read) fields

/-- What a record makes of an object. -/
def ofObject? {α : Type} (r : Record α) : Reading α
  | .object members => (r (.named members)).map (·.1)
  | _ => none

/-- What a record makes of an object or an array. -/
def ofJson? {α : Type} (r : Record α) : Reading α
  | .object members => (r (.named members)).map (·.1)
  | .array values =>
    match r (.inOrder values) with
    | some (a, .inOrder []) => some a
    | _ => none
  | _ => none

/-- A record that has nothing to tell. -/
def shape (r : Record Unit) : Reading Unit := ofJson? r

/-- Passes over a field that has to be there. -/
def need {α : Type} (name : String) (read : Reading α) : Record Unit := do
  let _ ← field name read

/-- Passes over a field that may be missing. -/
def may {α : Type} (name : String) (read : Reading α) : Record Unit := do
  let _ ← optional name read

end Record

namespace Reading

/-- Any value. -/
def any : Reading Json := some

/-- A truth value. -/
def bool : Reading Bool
  | .bool b => some b
  | _ => none

/-- A text. -/
def string : Reading String := Json.string?

/-- A whole number within bounds. -/
def intFrom (low high : Int) : Reading Int
  | .int n => if low ≤ n ∧ n ≤ high then some n else none
  | _ => none

/-- A whole number of 32 bits with a sign. -/
def int32 : Reading Int := intFrom Int32.minValue.toInt Int32.maxValue.toInt

/-- A whole number of 64 bits with a sign. -/
def int64 : Reading Int := intFrom Int64.minValue.toInt Int64.maxValue.toInt

/-- A whole number of 32 bits without a sign. -/
def uint32 : Reading UInt32 := fun j => (intFrom 0 (UInt32.size - 1) j).map (·.toNat.toUInt32)

/-- A text that is one of some words. -/
def word (words : List String) : Reading String := fun j =>
  (string j).bind fun s => if words.contains s then some s else none

/-- One of some words, alone or as the one name in an object that has no value for it. -/
def choice (words : List String) : Reading String
  | .object [(s, .null)] => word words (.string s)
  | j => word words j

/-- An array of values that are read alike. -/
def list {α : Type} (read : Reading α) : Reading (List α)
  | .array items => items.mapM read
  | _ => none

/-- A value that is read in one of two ways. -/
def either {α : Type} (first second : Reading α) : Reading α := fun j =>
  match first j with
  | some a => some a
  | none => second j

/-- A value that only has to be readable. -/
def seen {α : Type} (read : Reading α) : Reading Unit := fun j => (read j).map fun _ => ()

end Reading

end ModelineAssist
