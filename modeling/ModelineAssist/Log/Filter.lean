import ModelineAssist.Log.Event
import ModelineAssist.Text.WhiteSpace

/-!
Filters on what is logged. A filter is written as directives with commas between them, such as
`info` or `server=debug`: each says from which level on the events of a part of the program pass. Of
the directives that an event falls under the most specific one decides.
-/
namespace ModelineAssist.Log
open Text

/-- What is wrong with a directive. -/
inductive DirectiveError
  | malformed
  | badLevel
  deriving DecidableEq, Repr

/-- The wording of an error. -/
def DirectiveError.message : DirectiveError → String
  | .malformed => "invalid filter directive"
  | .badLevel =>
    "error parsing level filter: expected one of \"off\", \"error\", \"warn\", \"info\", " ++
      "\"debug\", \"trace\", or a number 0-5"

/-- A directive. -/
structure Directive where
  /-- The rank up to which events pass. -/
  bound : Nat
  /-- How the target of the events has to begin. -/
  target : Option String
  /-- The span that the events have to lie in. There are no spans, so such a directive lets nothing
  pass. -/
  span : Option String
  /-- The fields that the events have to have, as they are written. -/
  fields : List String
  deriving DecidableEq, Repr

/-- The bound that lets everything pass. -/
def everything : Nat := Level.trace.rank

/-- The bound that a word or a number stands for. -/
def bound? (word : List Char) : Option Nat :=
  let digits := match word with
    | '+' :: ds => ds
    | ds => ds
  if digits ≠ [] ∧ digits.all Char.isDigit then
    let n := digits.foldl (fun n d => n * 10 + (d.toNat - 48)) 0
    if n ≤ everything then some n else none
  else
    let name := String.ofList (word.map Char.toUpper)
    if name = "OFF" then some 0 else (Level.all.find? (·.name = name)).map Level.rank

/-! ### Reading directives -/

/-- How far the reading of a directive has come. The parts being read are kept last letter first. -/
inductive Part
  | start
  /-- A level or a target. -/
  | word (read : List Char)
  | span (read : List Char)
  | field (read : List Char)
  | behindFields
  | behindSpan
  | level (read : List Char)

/-- A part that has been read. -/
def partText (read : List Char) : String := String.ofList read.reverse

/-- Whether a directive may begin with a character. -/
def startsWord (c : Char) : Bool :=
  c.isAlphanum || ['-', ':', '_'].contains c || (0x80 ≤ c.toNat && !isWhiteSpace c)

/-- Reads one more character, `c` by what it means and `d` by what is kept of it. -/
def Part.next (c d : Char) (so : Directive) : Part → Except DirectiveError (Part × Directive)
  | .start =>
    if c = '[' then .ok (.span [], so)
    else if startsWord c then .ok (.word [d], so)
    else .error .malformed
  | .word read =>
    if c = '=' then .ok (.level [], { so with target := partText read })
    else if c = '[' then .ok (.span [], { so with target := partText read })
    else .ok (.word (d :: read), so)
  | .span read =>
    if c = ']' then .ok (.behindSpan, { so with span := partText read })
    else if c = '\x7b' then
      .ok (.field [], { so with span := if read = [] then none else some (partText read) })
    else .ok (.span (d :: read), so)
  | .field read =>
    if c = '\x7d' then
      if read = [] then .error .malformed
      else .ok (.behindFields, { so with fields := so.fields ++ [partText read] })
    else .ok (.field (d :: read), so)
  | .behindFields => if c = ']' then .ok (.behindSpan, so) else .error .malformed
  | .behindSpan => if c = '=' then .ok (.level [], so) else .error .malformed
  | .level read => .ok (.level (d :: read), so)

/-- The directive when everything has been read, `rest` being kept of what is left. -/
def Part.finish (rest : List Char) (so : Directive) : Part → Except DirectiveError Directive
  | .word read =>
    let word := read.reverse ++ rest
    match bound? word with
    | some bound => .ok { so with bound }
    | none => .ok { so with target := String.ofList word }
  | .level read =>
    let word := read.reverse ++ rest
    if word = [] then .ok so
    else match bound? word with
      | some bound => .ok { so with bound }
      | none => .error .badLevel
  | .behindSpan => .ok so
  | _ => .error .malformed

/-- Reads the characters of a directive in turn, each with what is kept of it. -/
def Part.readAll (rest : List Char) :
    Part → Directive → List (Char × Char) → Except DirectiveError Directive
  | part, so, [] => part.finish rest so
  | part, so, (c, d) :: cs => do
    let (part, so) ← part.next c d so
    part.readAll rest so cs

/-- Reads a directive. Blanks around it have no meaning, but it is cut into parts by counting from
the first of them. -/
def Directive.parse (text : List Char) : Except DirectiveError Directive :=
  let behind := text.dropWhile isWhiteSpace
  let plain := (behind.reverse.dropWhile isWhiteSpace).reverse
  Part.start.readAll (text.drop plain.length) ⟨everything, none, none, []⟩ (plain.zip text)

/-- The directives of a filter, each with its text. -/
def readDirectives (text : String) : List (String × Except DirectiveError Directive) :=
  ((text.toList.splitOn ',').filter (· ≠ [])).map fun d => (String.ofList d, Directive.parse d)

/-! ### Filters -/

/-- A filter: the directives that events may fall under. -/
structure Filter where
  directives : List Directive
  deriving DecidableEq, Repr

/-- Whether a directive asks for the value of a field, which no filter here looks at. -/
def Directive.asksValues (d : Directive) : Bool := d.fields.any fun f => f.toList.contains '='

/-- A filter of some directives. Without any, only errors pass. -/
def Filter.ofDirectives (ds : List Directive) : Filter :=
  if ds = [] then ⟨[⟨Level.error.rank, none, none, []⟩]⟩
  else ⟨ds.filter fun d => d.span.isNone && !d.asksValues⟩

/-- Whether an event falls under a directive. -/
def Directive.covers (d : Directive) (e : Event) : Bool :=
  d.target.all (fun t => t.toList.isPrefixOf e.target.toList) &&
    d.fields.all fun f => f == "message" || e.fields.any (·.1 == f)

/-- Whether a directive is at least as specific as another: by the length of the target, then by the
fields. -/
def Directive.isAsSpecificAs (d other : Directive) : Bool :=
  let length := fun d : Directive => (d.target.map (·.utf8ByteSize + 1)).getD 0
  if length d ≠ length other then length other < length d
  else if d.fields.length ≠ other.fields.length then other.fields.length < d.fields.length
  else !decide (d.fields < other.fields)

/-- The directive that decides on an event: of equally specific ones the last. -/
def Filter.decisive? (f : Filter) (e : Event) : Option Directive :=
  (f.directives.filter (·.covers e)).foldl (fun best d =>
    match best with
    | some b => if d.isAsSpecificAs b then some d else some b
    | none => some d) none

/-- Whether an event passes. -/
def Filter.passes (f : Filter) (e : Event) : Bool :=
  (f.decisive? e).any fun d => e.level.rank ≤ d.bound

/-- The filter that a text writes, if all of its directives can be read. -/
def Filter.parse? (text : String) : Option Filter :=
  let read := (readDirectives text).map (·.2.toOption)
  (read.mapM id).map Filter.ofDirectives

/-- The filter that a text writes, without the directives that cannot be read, and what is said
about these. -/
def Filter.parseLossy (text : String) : Filter × List String :=
  let ds := readDirectives text
  (.ofDirectives (ds.filterMap (·.2.toOption)),
    ds.filterMap fun d => match d.2 with
      | .error e => some s!"ignoring `{d.1}`: {e.message}"
      | .ok _ => none)

end ModelineAssist.Log
