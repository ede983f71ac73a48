import ModelineAssist.Settings.Names
import ModelineAssist.Settings.Value
import ModelineAssist.Text.Quoted

/-!
Settings from values. A switch is on or off by a boolean, a number or one of a few words; a choice
is made by its name in any case, given as a text or as the only key of a table.
-/
namespace ModelineAssist.Settings
open Text Matching

/-- What stands where a switch should. -/
inductive Found
  | text (s : String)
  | null
  | array
  | table
  deriving DecidableEq, Repr

/-- How messages call what was found. -/
def Found.describe : Found → String
  | .text s => "string " ++ quoted s
  | .null => "unit value"
  | .array => "sequence"
  | .table => "map"

/-- A value that does not fit its setting. -/
inductive Misfit
  /-- A switch that is neither on nor off, and the file that says so. -/
  | notSwitch (key : String) (found : Found) (origin : Option String)
  /-- A name that no choice of the given kind has. -/
  | unknownChoice (kind name : String)
  /-- Neither a name nor a table of one name. -/
  | notChoice (kind : String)
  deriving DecidableEq, Repr

/-- The wording of a misfit. -/
def Misfit.message : Misfit → String
  | .notSwitch key found origin =>
    s!"invalid type: {found.describe}, expected a boolean for key `{key}`" ++
      match origin with
      | some file => s!" in {file}"
      | none => ""
  | .unknownChoice kind name => s!"enum {kind} does not have variant constructor {name}"
  | .notChoice kind =>
    s!"value of enum {kind} should be represented by either string or table with exactly one key"

/-- The words for a switch that is on. -/
def wordsOn : List String := ["1", "true", "on", "yes"]

/-- The words for a switch that is off. -/
def wordsOff : List String := ["0", "false", "off", "no"]

/-- The state of a switch. -/
def switch (key : String) : Value → Except Misfit Bool
  | .table _ => .error (.notSwitch key .table none)
  | .leaf _ (.bool b) => .ok b
  | .leaf _ (.number nonzero) => .ok nonzero
  | .leaf origin .null => .error (.notSwitch key .null origin)
  | .leaf origin .array => .error (.notSwitch key .array origin)
  | .leaf origin (.text s) =>
    let word := lowercaseString s
    if word ∈ wordsOn then .ok true
    else if word ∈ wordsOff then .ok false
    else .error (.notSwitch key (.text word) origin)

/-- A choice by its name, case ignored. -/
def choiceNamed {α : Type} (kind : String) (nameOf : α → String) (choices : List α)
    (name : String) : Except Misfit α :=
  match choices.find? fun a => lowercaseString (nameOf a) == lowercaseString name with
  | some a => .ok a
  | none => .error (.unknownChoice kind name)

/-- A choice. -/
def choice {α : Type} (kind : String) (nameOf : α → String) (choices : List α) :
    Value → Except Misfit α
  | .leaf _ (.text name) => choiceNamed kind nameOf choices name
  | .table [(name, _)] => choiceNamed kind nameOf choices name
  | _ => .error (.notChoice kind)

/-- The key of the switch for completion. -/
def completionsKey : String := "modeline_completions"

/-- The key of the switch for hovering. -/
def hoverKey : String := "hover"

/-- The key of the strategy. -/
def strategyKey : String := "match_strategy"

/-- The key of the case rule. -/
def ruleKey : String := "case_matching"

/-- The strategy that a value chooses. -/
def strategyOf (v : Value) : Except Misfit Strategy :=
  choice "MatchStrategy" Strategy.name Strategy.all v

/-- The case rule that a value chooses. -/
def ruleOf (v : Value) : Except Misfit CaseRule :=
  choice "Case" CaseRule.name CaseRule.all v

/-- The values of settings where nothing is set. -/
def defaultValue : Value :=
  .table
    [(completionsKey, .plain (.bool Settings.default.completions)),
     (hoverKey, .plain (.bool Settings.default.hover)),
     (strategyKey, .plain (.text Settings.default.strategy.name)),
     (ruleKey, .plain (.text Settings.default.rule.name))]

/-- The value of a key in a table; a key that is not there stands for nothing. -/
def valueOf (key : String) (v : Value) : Value := (v.get? key).getD (.plain .null)

/-- The settings that a table of values makes. -/
def ofValue (v : Value) : Except Misfit Settings := do
  let completions ← switch completionsKey (valueOf completionsKey v)
  let hover ← switch hoverKey (valueOf hoverKey v)
  let strategy ← strategyOf (valueOf strategyKey v)
  let rule ← ruleOf (valueOf ruleKey v)
  return ⟨completions, hover, strategy, rule⟩

end ModelineAssist.Settings
