import ModelineAssist.Settings.Basic

/-!
The names that strategies and case rules go by in settings files and messages.
-/
namespace ModelineAssist.Matching

/-- The name of a strategy. -/
def Strategy.name : Strategy → String
  | .front => "Prefix"
  | .within => "Substring"
  | .scattered => "Fuzzy"

/-- The strategies in the order in which they are listed. -/
def Strategy.all : List Strategy := [.front, .within, .scattered]

/-- The name of a case rule. -/
def CaseRule.name : CaseRule → String
  | .ignore => "Ignore"
  | .smart => "Smart"
  | .respect => "Respect"

/-- The case rules in the order in which they are listed. -/
def CaseRule.all : List CaseRule := [.ignore, .smart, .respect]

end ModelineAssist.Matching
