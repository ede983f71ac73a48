import ModelineAssist.Settings.Format.Yaml.Plain
import ModelineAssist.Settings.Format.Yaml.Property
import ModelineAssist.Settings.Format.Yaml.Quoted

/-!
YAML nodes in flow style, where brackets tell what belongs to what and line ends do not count.
-/
namespace ModelineAssist.Settings.Yaml

/-- Adds an entry to a mapping, in which no key may be given twice. -/
def addEntry (key value : Node) (before : List (String × Node)) : Scan (List (String × Node)) :=
  match key.key? with
  | none => stuck
  | some key => if (member? key before).isSome then stuck else pure (before ++ [(key, value)])

/-- Whether a colon separates a key from its value here. It does so right behind brackets or quotes,
which `closed` tells, and else if it cannot belong to a scalar. -/
def flowColon (closed : Bool) : Scan Bool := do
  if (← look 0) != some ':' then return false
  let next ← look 1
  return closed || separates next || next.any isFlowMark

mutual

/-- A node in flow style, and whether it is written such that a colon right behind it counts. -/
def flowNode : Nat → Bool → Scan (Node × Bool)
  | 0, _ => stuck
  | fuel + 1, manyLines => do
    match ← property ⟨none, none⟩ with
    | some p =>
      skipInFlow
      let p := (← property p).getD p
      skipInFlow
      match ← look 0 with
      | some ',' | some ']' | some '\x7d' | some ':' => return (← settle p .empty, false)
      | _ =>
        let (node, closed) ← flowContent fuel manyLines
        return (← settle p node, closed)
    | none => flowContent fuel manyLines

/-- A node in flow style without properties. -/
def flowContent : Nat → Bool → Scan (Node × Bool)
  | 0, _ => stuck
  | fuel + 1, manyLines => do
    match ← look 0 with
    | some '*' => return (← anchored, false)
    | some '"' | some '\x27' => return (← quotedScalar manyLines, true)
    | some '[' =>
      step
      return (← flowItems fuel, true)
    | some '\x7b' =>
      step
      return (← flowEntries fuel [], true)
    | _ => return (← plainScalar true manyLines (-1), false)

/-- The value behind a colon in flow style. -/
def flowValue : Nat → Scan Node
  | 0 => stuck
  | fuel + 1 => do
    step
    skipInFlow
    match ← look 0 with
    | some ',' | some ']' | some '\x7d' => return .empty
    | _ => return (← flowNode fuel true).1

/-- The items of a sequence up to its closing bracket. -/
def flowItems : Nat → Scan Node
  | 0 => stuck
  | fuel + 1 => do
    skipInFlow
    if (← look 0) == some ']' then
      step
      return .sequence
    if ← indicatorNext '?' then
      step
      skipInFlow
    let (node, closed) ← flowNode fuel true
    skipInFlow
    if ← flowColon closed then
      need node.key?.isSome
      let _ ← flowValue fuel
      skipInFlow
    match ← look 0 with
    | some ',' =>
      step
      flowItems fuel
    | some ']' =>
      step
      return .sequence
    | _ => stuck

/-- The entries of a mapping up to its closing brace. -/
def flowEntries : Nat → List (String × Node) → Scan Node
  | 0, _ => stuck
  | fuel + 1, before => do
    skipInFlow
    if (← look 0) == some '\x7d' then
      step
      return .mapping before
    if ← indicatorNext '?' then
      step
      skipInFlow
    let (key, closed) ← flowNode fuel true
    skipInFlow
    let value ← if ← flowColon closed then flowValue fuel else pure .empty
    let entries ← addEntry key value before
    skipInFlow
    match ← look 0 with
    | some ',' =>
      step
      flowEntries fuel entries
    | some '\x7d' =>
      step
      return .mapping entries
    | _ => stuck

end

end ModelineAssist.Settings.Yaml
