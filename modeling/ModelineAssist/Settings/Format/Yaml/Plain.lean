import ModelineAssist.Settings.Format.Yaml.Cursor

/-!
YAML scalars without quotes. They end before what could be read as part of the notation around them,
and go on over lines that are indented deeper than their holder.
-/
namespace ModelineAssist.Settings.Yaml

/-- Whether a scalar without quotes can start here. -/
def plainStarts (flow : Bool) : Scan Bool := do
  match ← look 0 with
  | none => return false
  | some c =>
    if c == '-' || c == '?' || c == ':' then
      let next ← look 1
      return !separates next && !(flow && next.any isFlowMark)
    return !isBlankChar c && c != '\n' && !isFlowMark c &&
      c ∉ ['#', '&', '*', '!', '|', '>', '\x27', '"', '%', '@', '\x60']

/-- Whether a scalar without quotes ends at a character that is followed by another. -/
def plainStops (flow : Bool) (c : Char) (next : Option Char) : Bool :=
  (c == ':' && (separates next || (flow && next.any isFlowMark))) || (flow && isFlowMark c)

/-- The rest of a scalar without quotes on its line. Blanks belong to it if more follows. -/
def plainRest (flow : Bool) : Nat → Scan (List Char)
  | 0 => stuck
  | fuel + 1 => do
    match ← look 0 with
    | none | some '\n' => return []
    | some c =>
      if isBlankChar c then
        let blanks ← fun cur => some (cur.rest.takeWhile isBlankChar, cur)
        let ahead ← look blanks.length
        let behind ← look (blanks.length + 1)
        match ahead with
        | none | some '\n' | some '#' => return []
        | some a =>
          if plainStops flow a behind then return []
          let _ ← skipWhile isBlankChar
          return blanks ++ (← plainRest flow fuel)
      if plainStops flow c (← look 1) then return []
      step
      return c :: (← plainRest flow fuel)

/-- The further lines of a scalar without quotes: those that are indented deeper than its holder. -/
def plainLines (flow : Bool) (indent : Int) : Nat → Scan (List Char)
  | 0 => stuck
  | fuel + 1 => do
    let more ← attempt (do
      let _ ← skipWhile isBlankChar
      need ((← look 0) == some '\n')
      let n ← foldLines ((← left) + 1) 0
      need (!(← documentEnds) && (flow || indent < (← column)) && (← look 0) != some '#')
      match ← look 0 with
      | some c => need !(plainStops flow c (← look 1))
      | none => stuck
      let line ← plainRest flow ((← left) + 1)
      need !line.isEmpty
      return folded n ++ line)
    match more with
    | none => return []
    | some text => return text ++ (← plainLines flow indent fuel)

/-- A scalar without quotes. Whether it may go over lines is said. -/
def plainScalar (flow manyLines : Bool) (indent : Int) : Scan Node := do
  need (← plainStarts flow)
  let first ← plainRest flow ((← left) + 1)
  let more ← if manyLines then plainLines flow indent ((← left) + 1) else pure []
  return .scalar .plain (String.ofList (first ++ more))

end ModelineAssist.Settings.Yaml
