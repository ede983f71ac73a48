import ModelineAssist.Decimal
import ModelineAssist.Settings.Value

/-!
What the scalars of YAML mean. A scalar without quotes can be null, a boolean or a number by the way
it is written; a tag can settle what it is; all others are texts.
-/
namespace ModelineAssist.Settings.Yaml

/-- How a scalar came to be written. -/
inductive Style
  /-- Without quotes and without a tag. -/
  | plain
  /-- In quotes, as a block, or with a tag that asks for a text. -/
  | text
  /-- Without quotes, with a tag that asks for another kind of scalar. -/
  | tagged (kind : String)
  deriving DecidableEq, Repr

/-- A part of a document. Of a sequence nothing but its kind is kept. -/
inductive Node
  | scalar (style : Style) (content : String)
  | sequence
  | mapping (entries : List (String × Node))
  deriving Inhabited

/-- The node that stands where nothing is written. -/
def Node.empty : Node := .scalar .plain ""

/-- Whether a number has a minus for a sign, and what stands behind its sign. -/
def unsigned : List Char → Bool × List Char
  | '-' :: cs => (true, cs)
  | '+' :: cs => (false, cs)
  | cs => (false, cs)

/-- A whole number of 64 bits in a base, with an optional sign. -/
def whole? (base : Nat) (cs : List Char) : Option Int :=
  let (negative, ds) := unsigned cs
  if ds.isEmpty || !ds.all (isDigitOf base) then none
  else
    let n : Int := ofDigits base ds
    let n := if negative then -n else n
    if Int64.minValue.toInt ≤ n ∧ n ≤ Int64.maxValue.toInt then some n else none

/-- A number with fraction or exponent, with an optional sign. -/
def fraction? (cs : List Char) : Option Decimal :=
  let (negative, cs) := unsigned cs
  let ds := cs.takeWhile (isDigitOf 10)
  let cs := cs.drop ds.length
  let (places, cs) := match cs with
    | '.' :: cs =>
      let ps := cs.takeWhile (isDigitOf 10)
      (ps, cs.drop ps.length)
    | cs => ([], cs)
  if ds.isEmpty ∧ places.isEmpty then none
  else
    let n : Int := ofDigits 10 (ds ++ places)
    let mantissa := if negative then -n else n
    match cs with
    | [] => some ⟨mantissa, -places.length⟩
    | e :: cs =>
      if e == 'e' || e == 'E' then
        let (down, es) := unsigned cs
        if es.isEmpty || !es.all (isDigitOf 10) then none
        else
          let p : Int := ofDigits 10 es
          some ⟨mantissa, (if down then -p else p) - places.length⟩
      else none

/-- The words for numbers that are infinite or none at all. No setting can hold them. -/
def unboundedWords : List String :=
  [".inf", ".Inf", ".INF", "+.inf", "+.Inf", "+.INF", "-.inf", "-.Inf", "-.INF", ".nan", ".NaN",
    ".NAN"]

/-- A whole number as scalars without quotes write it: in base 16 or 8, or in base 10, where a plus
may stand before the sign. -/
def plainWhole? (s : String) : Option Int :=
  match s.toList with
  | '0' :: 'x' :: cs => whole? 16 cs
  | '0' :: 'o' :: cs => whole? 8 cs
  | '+' :: cs => whole? 10 cs
  | cs => whole? 10 cs

/-- What a scalar without quotes means; `none` if it means a number that cannot be kept. -/
def plainLeaf? (s : String) : Option Leaf :=
  if s ∈ ["", "~", "null"] then some .null
  else if s = "true" then some (.bool true)
  else if s = "false" then some (.bool false)
  else match plainWhole? s with
    | some n => some (.number (n != 0))
    | none =>
      if s ∈ unboundedWords then none
      else match fraction? s.toList with
        | some d => some (.number !d.roundsToZero)
        | none => some (.text s)

/-- What a scalar with a tag means. A text that its tag does not fit stands for nothing. -/
def taggedLeaf? (kind s : String) : Option Leaf :=
  if kind = "bool" then
    some (if s = "true" then .bool true else if s = "false" then .bool false else .null)
  else if kind = "int" then
    some (match whole? 10 s.toList with
      | some n => .number (n != 0)
      | none => .null)
  else if kind = "float" then
    if s ∈ unboundedWords then none
    else some (match fraction? s.toList with
      | some d => .number !d.roundsToZero
      | none => .null)
  else if kind = "null" then some .null
  else some (.text s)

/-- What a scalar means. -/
def leaf? : Style → String → Option Leaf
  | .plain, s => plainLeaf? s
  | .text, s => some (.text s)
  | .tagged kind, s => taggedLeaf? kind s

mutual

/-- A node as a setting. -/
def Node.value? : Node → Option Value
  | .scalar style s => (leaf? style s).map .plain
  | .sequence => some (.plain .array)
  | .mapping entries => (values? entries).map .table

/-- Some entries as settings. -/
def values? : List (String × Node) → Option (List (String × Value))
  | [] => some []
  | (key, node) :: es => node.value?.bind fun v => (values? es).map ((key, v) :: ·)

end

/-- The text of a key: a text or a whole number. -/
def Node.key? : Node → Option String
  | .scalar style s =>
    match leaf? style s with
    | some (.text s) => some s
    | some (.number _) =>
      match plainWhole? s with
      | some n => some (toString n)
      | none => none
    | _ => none
  | _ => none

end ModelineAssist.Settings.Yaml
