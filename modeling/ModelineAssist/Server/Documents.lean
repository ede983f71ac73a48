import ModelineAssist.Uri.Basic

/-!
The documents that an editor has open: for each identifier the whole text. Of an operation on one
document the others know nothing.
-/
namespace ModelineAssist.Server

/-- Documents by their identifiers. -/
structure Documents where
  entries : List (Uri × List Char)

namespace Documents

/-- No documents. -/
def empty : Documents := ⟨[]⟩

/-- The text of a document. -/
def get? (ds : Documents) (uri : Uri) : Option (List Char) :=
  (ds.entries.find? (·.1 = uri)).map (·.2)

/-- The documents without one. -/
def erase (ds : Documents) (uri : Uri) : Documents := ⟨ds.entries.filter (·.1 ≠ uri)⟩

/-- The documents with the text of one set. -/
def insert (ds : Documents) (uri : Uri) (text : List Char) : Documents :=
  ⟨(uri, text) :: (ds.erase uri).entries⟩

@[simp] theorem get?_empty (uri : Uri) : empty.get? uri = none := rfl

@[simp] theorem get?_erase_self (ds : Documents) (uri : Uri) : (ds.erase uri).get? uri = none := by
  simp [get?, erase, List.find?_filter]

theorem get?_erase_of_ne {uri other : Uri} (h : other ≠ uri) (ds : Documents) :
    (ds.erase uri).get? other = ds.get? other := by
  unfold get? erase
  induction ds.entries with
  | nil => rfl
  | cons e es ih =>
    by_cases he : e.1 = uri
    · have : e.1 ≠ other := fun ho => h (ho.symm.trans he)
      simpa [he, Ne.symm h] using ih
    · by_cases ho : e.1 = other
      · simp [ho, h]
      · simpa [he, ho] using ih

@[simp] theorem get?_insert_self (ds : Documents) (uri : Uri) (text : List Char) :
    (ds.insert uri text).get? uri = some text := by
  simp [get?, insert]

theorem get?_insert_of_ne {uri other : Uri} (h : other ≠ uri) (ds : Documents) (text : List Char) :
    (ds.insert uri text).get? other = ds.get? other := by
  have : (ds.insert uri text).get? other = (ds.erase uri).get? other := by
    simp [get?, insert, Ne.symm h]
  rw [this, get?_erase_of_ne h]

end Documents

end ModelineAssist.Server
