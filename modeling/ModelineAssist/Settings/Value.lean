import ModelineAssist.Json.Basic
import ModelineAssist.Text.Case

/-!
What a settings file says: a tree of tables. Of a number only whether it differs from zero is kept,
and of an array only that it is one, since no setting asks for more. A leaf knows the file it was
read from; a table, which can have grown from several files, does not.
-/
namespace ModelineAssist.Settings

/-- What stands at a place in a settings file where no table stands. -/
inductive Leaf
  | null
  | bool (b : Bool)
  | number (nonzero : Bool)
  | text (s : String)
  | array
  deriving DecidableEq, Repr

/-- A setting or a table of settings. -/
inductive Value
  | leaf (origin : Option String) (content : Leaf)
  | table (entries : List (String × Value))
  deriving Repr, Inhabited

namespace Value

/-- A leaf from no file. -/
def plain (content : Leaf) : Value := .leaf none content

/-- The entries of a table. A leaf has none. -/
def entries : Value → List (String × Value)
  | .leaf _ _ => []
  | .table es => es

/-- The value of a key in a table. -/
def get? (key : String) (v : Value) : Option Value := member? key v.entries

mutual

/-- Marks all leaves as read from a file. -/
def locate (origin : String) : Value → Value
  | .leaf _ content => .leaf (some origin) content
  | .table es => .table (locateAll origin es)

/-- Marks all leaves in some entries as read from a file. -/
def locateAll (origin : String) : List (String × Value) → List (String × Value)
  | [] => []
  | (key, v) :: es => (key, locate origin v) :: locateAll origin es

end

end Value

end ModelineAssist.Settings
