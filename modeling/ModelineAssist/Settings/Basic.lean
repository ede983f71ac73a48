import ModelineAssist.Matching.Policy

/-!
What can be set: whether option names are completed, whether hovering describes them, and by which
policy candidates are chosen.
-/
namespace ModelineAssist
open Matching

/-- The settings in force. -/
structure Settings where
  completions : Bool
  hover : Bool
  strategy : Strategy
  rule : CaseRule
  deriving DecidableEq, Repr

/-- The settings where nothing is set. -/
def Settings.default : Settings := ⟨true, true, .front, .respect⟩

/-- The policy that the settings ask for. -/
def Settings.policy (s : Settings) : Policy := ⟨s.strategy, s.rule⟩

end ModelineAssist
