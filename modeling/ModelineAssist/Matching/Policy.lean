import ModelineAssist.Matching.Scattered
import ModelineAssist.Text.Case

/-!
When a label is offered for what has been typed: it starts with it, it contains it, or it holds its
letters scattered, each with case ignored, counted, or counted only once a capital has been typed.
-/
namespace ModelineAssist.Matching
open Text

/-- Where in a label the typed text has to be. -/
inductive Strategy
  /-- At the front. -/
  | front
  /-- Anywhere, in one piece. -/
  | within
  /-- Anywhere, letter by letter in order. -/
  | scattered
  deriving DecidableEq, Repr

/-- The rule by which labels are compared with what has been typed. -/
structure Policy where
  strategy : Strategy
  rule : CaseRule
  deriving DecidableEq, Repr

/-- Without any setting a label has to start with the typed text, case counting. -/
def Policy.default : Policy := ⟨.front, .respect⟩

/-- Whether case is disregarded for a typed text. -/
def CaseRule.ignoresCaseOf (rule : CaseRule) (typed : List Char) : Bool :=
  match rule with
  | .ignore => true
  | .smart => !typed.any isUppercase
  | .respect => false

/-- Whether a text contains another one in one piece. -/
def holds (part : List Char) : List Char → Bool
  | [] => part.isEmpty
  | c :: cs => part.isPrefixOf (c :: cs) || holds part cs

/-- Whether the policy offers a label for a typed text. An empty text fits every label. -/
def Policy.accepts (p : Policy) (label typed : List Char) : Bool :=
  typed.isEmpty ||
    let plain := fun text => if p.rule.ignoresCaseOf typed then lowercase text else text
    match p.strategy with
    | .front => (plain typed).isPrefixOf (plain label)
    | .within => holds (plain typed) (plain label)
    | .scattered => Matching.scattered p.rule label typed

end ModelineAssist.Matching
