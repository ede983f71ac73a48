import ModelineAssist.Proofs.Modeline.Token
import ModelineAssist.Proofs.Text.Lowercase
import ModelineAssist.Registry.Builtin

/-!
The names of the known options. Each can stand as the name of an option in a modeline: it holds
neither white space nor a `=`, nor any character beyond ASCII.
-/
namespace ModelineAssist.Registry
open Text Modeline

/-- The characters that the names of the known options are written with. -/
def isNameChar (x : Char) : Bool := isSolid x && x != '=' && isAscii x

theorem all_builtin_label : builtin.candidates.all fun c =>
    c.label.toList != [] && c.label.toList.all isNameChar := by
  decide

variable {c : Candidate}

theorem builtin_label_ne_nil (h : c ∈ builtin.candidates) : c.label.toList ≠ [] := by
  have := List.all_eq_true.mp all_builtin_label c h
  rw [Bool.and_eq_true] at this
  exact bne_iff_ne.mp this.1

theorem isNameChar_of_mem_builtin_label (h : c ∈ builtin.candidates) {x : Char}
    (hx : x ∈ c.label.toList) : (isSolid x = true ∧ x ≠ '=') ∧ isAscii x = true := by
  have := List.all_eq_true.mp all_builtin_label c h
  rw [Bool.and_eq_true] at this
  simpa [isNameChar] using List.all_eq_true.mp this.2 x hx

theorem solid_builtin_label (h : c ∈ builtin.candidates) : Solid c.label.toList := fun _ hx =>
  (isNameChar_of_mem_builtin_label h hx).1.1

theorem not_mem_builtin_label (h : c ∈ builtin.candidates) : '=' ∉ c.label.toList := fun hx =>
  (isNameChar_of_mem_builtin_label h hx).1.2 rfl

theorem ascii_builtin_label (h : c ∈ builtin.candidates) : Ascii c.label.toList := fun _ hx =>
  (isNameChar_of_mem_builtin_label h hx).2

end ModelineAssist.Registry
