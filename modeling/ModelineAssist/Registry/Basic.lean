import ModelineAssist.Matching.Policy
import ModelineAssist.Text.WhiteSpace

/-!
The registry of options: each has a name, a description and may be deprecated. A registry is built
from rows in any order and keeps its entries sorted by name, no name twice; listing and looking up
read the same entries, so they cannot disagree. A defective table is refused as a whole, for the
first row that is at fault.
-/
namespace ModelineAssist.Registry
open Text Matching

/-- An option that modelines may carry. -/
structure Entry where
  name : String
  description : String
  deprecated : Bool
  deriving DecidableEq, Repr

/-- What a candidate is marked with. -/
inductive Tag
  | deprecated
  deriving DecidableEq, Repr

/-- An option as it is offered for insertion. -/
structure Candidate where
  label : String
  documentation : String
  tags : List Tag
  deriving DecidableEq, Repr

/-- The candidate that offers an entry. -/
def Entry.candidate (e : Entry) : Candidate :=
  ⟨e.name, e.description, if e.deprecated then [.deprecated] else []⟩

/-- Why a table is refused. -/
inductive Defect
  | duplicateName (name : String)
  | emptyName
  | emptyDescription (name : String)
  deriving DecidableEq, Repr

/-- The wording of a defect. -/
def Defect.message : Defect → String
  | .duplicateName name => s!"duplicate modeline option `{name}`"
  | .emptyName => "modeline option with an empty name"
  | .emptyDescription name => s!"modeline option `{name}` has no description"

/-- Puts an entry before the first one whose name is not smaller. -/
def insertEntry (e : Entry) : List Entry → List Entry
  | [] => [e]
  | x :: xs => if x.name < e.name then x :: insertEntry e xs else e :: x :: xs

theorem mem_insertEntry {e x : Entry} {es : List Entry} :
    x ∈ insertEntry e es ↔ x = e ∨ x ∈ es := by
  induction es with
  | nil => simp [insertEntry]
  | cons y ys ih =>
    by_cases h : y.name < e.name
    · simp only [insertEntry, if_pos h, List.mem_cons, ih]
      exact or_left_comm
    · simp [insertEntry, h]

/-- Sorted by name, no name twice. -/
abbrev Sorted (es : List Entry) : Prop := es.Pairwise (·.name < ·.name)

/-- A new name keeps the entries sorted. -/
theorem sorted_insertEntry {e : Entry} {es : List Entry} (hs : Sorted es)
    (fresh : ∀ x ∈ es, x.name ≠ e.name) : Sorted (insertEntry e es) := by
  induction es with
  | nil => simp [insertEntry, Sorted]
  | cons y ys ih =>
    have hys := List.pairwise_cons.mp hs
    have hne : ∀ x ∈ ys, x.name ≠ e.name := fun x hx => fresh x (List.mem_cons_of_mem _ hx)
    by_cases h : y.name < e.name
    · rw [insertEntry, if_pos h]
      refine List.pairwise_cons.mpr ⟨fun x hx => ?_, ih hys.2 hne⟩
      rcases mem_insertEntry.mp hx with rfl | hx
      · exact h
      · exact hys.1 x hx
    · rw [insertEntry, if_neg h]
      have hey : e.name < y.name := by
        rcases Decidable.em (e.name < y.name) with h' | h'
        · exact h'
        · exact absurd (String.le_antisymm (String.not_lt.mp h') (String.not_lt.mp h))
            (fresh y List.mem_cons_self)
      refine List.pairwise_cons.mpr ⟨fun x hx => ?_, hs⟩
      rcases List.mem_cons.mp hx with rfl | hx
      · exact hey
      · exact String.lt_trans hey (hys.1 x hx)

end ModelineAssist.Registry

namespace ModelineAssist
open Text Matching Registry

/-- The options known, sorted by name. -/
structure Registry where
  entries : List Entry
  sorted : Sorted entries

namespace Registry

/-- The registry of no option. -/
def empty : Registry := ⟨[], List.Pairwise.nil⟩

/-- Adds an entry whose name is new. -/
def insert (r : Registry) (e : Entry) (fresh : ∀ x ∈ r.entries, x.name ≠ e.name) : Registry :=
  ⟨insertEntry e r.entries, sorted_insertEntry r.sorted fresh⟩

/-- Adds a row of a table, or tells what is wrong with it. -/
def addRow (r : Registry) (e : Entry) : Except Defect Registry :=
  if e.name = "" then .error .emptyName
  else if isBlank e.description.toList then .error (.emptyDescription e.name)
  else if fresh : ∀ x ∈ r.entries, x.name ≠ e.name then .ok (r.insert e fresh)
  else .error (.duplicateName e.name)

/-- Adds the rows of a table one after another. -/
def addRows : Registry → List Entry → Except Defect Registry
  | r, [] => .ok r
  | r, e :: es =>
    match r.addRow e with
    | .ok r => addRows r es
    | .error d => .error d

/-- The registry that holds the rows of a table. -/
def ofRows (rows : List Entry) : Except Defect Registry := addRows empty rows

/-- Every option as a candidate, in the order of names. -/
def candidates (r : Registry) : List Candidate := r.entries.map Entry.candidate

/-- The candidates whose labels a policy accepts for a typed text. -/
def candidatesFor (r : Registry) (policy : Policy) (typed : String) : List Candidate :=
  r.candidates.filter fun c => policy.accepts c.label.toList typed.toList

/-- The candidates whose labels start with a typed text. -/
def candidatesStarting (r : Registry) (typed : String) : List Candidate :=
  r.candidatesFor .default typed

/-- The entry of a name. -/
def get? (r : Registry) (name : String) : Option Entry := r.entries.find? (·.name == name)

/-- The description of a name. -/
def describe? (r : Registry) (name : String) : Option String := (r.get? name).map (·.description)

/-- The number of options. -/
def size (r : Registry) : Nat := r.entries.length

/-- Whether there is no option. -/
def isEmpty (r : Registry) : Bool := r.entries.isEmpty

end Registry

end ModelineAssist
