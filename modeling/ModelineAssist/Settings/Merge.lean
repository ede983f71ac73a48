import ModelineAssist.Settings.KeyPath
import ModelineAssist.Settings.Value

/-!
Laying settings over one another. Keys are compared in lowercase. A leaf replaces what stood under
its key; a table is merged entry by entry into what stood there, which it turns into a table as soon
as it brings an entry. At the top of a file a key that is a path leads into nested tables.
-/
namespace ModelineAssist.Settings
open Text

/-- The form of a key by which it is found. -/
def normalKey (key : String) : String := lowercaseString key

mutual

/-- Puts a value under a key of a table. -/
def put (key : String) : Value → Value → Value
  | .leaf origin content, target =>
    .table (putMember (normalKey key) (.leaf origin content) target.entries)
  | .table incoming, target =>
    let present := (target.get? (normalKey key)).getD (.table [])
    .table (putMember (normalKey key) (putAll incoming present) target.entries)

/-- Puts some entries into a table one after another. -/
def putAll : List (String × Value) → Value → Value
  | [], target => target
  | (key, value) :: es, target => putAll es (put key value target)

end

/-- An array, with the file it is from if it was one before. -/
def toArray : Value → Value
  | .leaf origin .array => .leaf origin .array
  | _ => .plain .array

/-- Puts a value where some steps lead from a given value. -/
def putAlong : List KeyStep → Value → Value → Value
  | [], value, _ => value
  | [.child key], value, target => put key value target
  | .child key :: steps, value, target =>
    let present := (target.get? (normalKey key)).getD (.plain .null)
    .table (putMember (normalKey key) (putAlong steps value present) target.entries)
  | .item _ :: _, _, target => toArray target

/-- Puts a value where a path leads. -/
def putPath (path : KeyPath) (value target : Value) : Value :=
  putAlong (.child path.first :: path.steps) value target

/-- Puts an entry of a file: its key is a path if it reads as one. -/
def putEntry (entry : String × Value) (target : Value) : Value :=
  match KeyPath.parse? entry.1 with
  | some path => putPath path entry.2 target
  | none => put entry.1 entry.2 target

/-- Lays the entries of a file over what has been set before. -/
def layOver (entries : List (String × Value)) (target : Value) : Value :=
  entries.foldl (fun target entry => putEntry entry target) target

end ModelineAssist.Settings
