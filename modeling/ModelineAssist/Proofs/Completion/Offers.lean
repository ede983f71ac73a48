import ModelineAssist.Proofs.Completion.Accepting
import ModelineAssist.Proofs.Modeline.TypedName
import ModelineAssist.Proofs.Registry.Table

/-!
What is offered at a place in a document, and where anything is. There is an answer where
completions are on and the line is cut behind a marker in a stretch without a `=`, also if no option
fits. Offered are the known options that the policy accepts for what stands left of the cursor, in
the order of their names, each to replace the stretch around the cursor.
-/
namespace ModelineAssist
open Text Modeline Registry

variable {text line marker front before after rest : List Char} {place : Position}
  {settings : Settings} {offers : List Offer} {typed : TypedName}

end ModelineAssist
