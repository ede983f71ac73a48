import ModelineAssist.Decimal

/-!
JSON values. Whole numbers are kept apart from numbers with a fraction or an exponent, since places
and identifiers have to be whole. An object holds no name twice: of two members with one name the
later one counts.
-/
namespace ModelineAssist

/-- A JSON value. -/
inductive Json
  | null
  | bool (b : Bool)
  | int (n : Int)
  | real (d : Decimal)
  | string (s : String)
  | array (items : List Json)
  | object (members : List (String × Json))
  deriving Repr, Inhabited

/-- Sets the value of a name: in its place if it is there, else at the end. -/
def putMember {α : Type} (name : String) (value : α) : List (String × α) → List (String × α)
  | [] => [(name, value)]
  | m :: ms => if m.1 = name then (name, value) :: ms else m :: putMember name value ms

/-- The value of a name. -/
def member? {α : Type} (name : String) (members : List (String × α)) : Option α :=
  (members.find? (·.1 = name)).map (·.2)

theorem member?_putMember_self {α : Type} (name : String) (value : α) (ms : List (String × α)) :
    member? name (putMember name value ms) = some value := by
  induction ms with
  | nil => simp [member?, putMember]
  | cons m ms ih =>
    by_cases h : m.1 = name
    · simp [member?, putMember, h]
    · simpa [member?, putMember, h] using ih

theorem member?_putMember_of_ne {α : Type} {name other : String} (h : other ≠ name) (value : α)
    (ms : List (String × α)) :
    member? other (putMember name value ms) = member? other ms := by
  induction ms with
  | nil => simp [member?, putMember, Ne.symm h]
  | cons m ms ih =>
    by_cases hm : m.1 = name
    · have : m.1 ≠ other := fun e => h (e.symm.trans hm)
      simp [member?, putMember, hm, Ne.symm h]
    · by_cases ho : m.1 = other
      · simp [member?, putMember, ho, h]
      · simpa [member?, putMember, hm, ho] using ih

namespace Json

/-- The member of an object. -/
def get? (name : String) : Json → Option Json
  | .object members => member? name members
  | _ => none

/-- The text of a string. -/
def string? : Json → Option String
  | .string s => some s
  | _ => none

end Json

end ModelineAssist
