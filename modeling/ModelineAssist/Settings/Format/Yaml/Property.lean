import ModelineAssist.Settings.Format.Yaml.Cursor

/-!
Properties of YAML nodes: a name, by which the node can stand again further on, and a tag, which
tells what a scalar is.
-/
namespace ModelineAssist.Settings.Yaml

/-- The name of an anchor or an alias. -/
def anchorName : Scan String := do
  let name ← skipWhile fun c => !isBlankChar c && c != '\n' && !isFlowMark c
  need !name.isEmpty
  return String.ofList name

/-- The properties of a node: a name for it, and what its tag makes of a scalar. -/
structure Properties where
  anchor : Option String
  style : Option Style

/-- What a tag makes of a scalar. -/
def tagStyle (tag : String) : Style :=
  if tag ∈ ["!!bool", "!<tag:yaml.org,2002:bool>"] then .tagged "bool"
  else if tag ∈ ["!!int", "!<tag:yaml.org,2002:int>"] then .tagged "int"
  else if tag ∈ ["!!float", "!<tag:yaml.org,2002:float>"] then .tagged "float"
  else if tag ∈ ["!!null", "!<tag:yaml.org,2002:null>"] then .tagged "null"
  else .text

/-- Reads a property, if one is next. -/
def property (p : Properties) : Scan (Option Properties) := do
  match ← look 0 with
  | some '&' =>
    need p.anchor.isNone
    step
    return some { p with anchor := some (← anchorName) }
  | some '!' =>
    need p.style.isNone
    let tag ← skipWhile fun c => !isBlankChar c && c != '\n' && (c == '!' || !isFlowMark c)
    return some { p with style := some (tagStyle (String.ofList tag)) }
  | _ => return none

/-- Gives a node the properties read before it. -/
def settle (p : Properties) (node : Node) : Scan Node := do
  let node := match p.style, node with
    | some style, .scalar .plain s => .scalar style s
    | _, node => node
  match p.anchor with
  | none => return node
  | some name => fun c => some (node, { c with anchors := putMember name node c.anchors })

/-- A node that was given a name before. -/
def anchored : Scan Node := do
  step
  let name ← anchorName
  fun c => (member? name c.anchors).map fun node => (node, c)

end ModelineAssist.Settings.Yaml
