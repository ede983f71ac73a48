import ModelineAssist.Settings.Format.Yaml.Cursor

/-!
YAML scalars in quotes. Between apostrophes an apostrophe is written twice; between quotes a
backslash starts an escape. Line ends within either are folded.
-/
namespace ModelineAssist.Settings.Yaml

/-- The rest of a scalar in apostrophes. Whether it may go over lines is said. -/
def singleQuoted (manyLines : Bool) : Nat → Scan (List Char)
  | 0 => stuck
  | fuel + 1 => do
    match ← look 0 with
    | none => stuck
    | some '\x27' =>
      step
      if (← look 0) == some '\x27' then
        step
        return '\x27' :: (← singleQuoted manyLines fuel)
      return []
    | some c =>
      let blanks ← skipWhile isBlankChar
      if (← look 0) == some '\n' then
        need manyLines
        let n ← foldLines ((← left) + 1) 0
        need !(← documentEnds)
        return folded n ++ (← singleQuoted manyLines fuel)
      if !blanks.isEmpty then return blanks ++ (← singleQuoted manyLines fuel)
      step
      return c :: (← singleQuoted manyLines fuel)

/-- A character by its number in hexadecimal digits. -/
def hexChar (digits : Nat) : Scan Char := do
  let ds ← fun c => some (c.rest.take digits, { c with
    rest := c.rest.drop digits, column := c.column + digits, spaced := false, leading := false })
  let n := ofDigits 16 ds
  need (ds.length == digits && ds.all (isDigitOf 16) &&
    (n < 0xD800 || (0xE000 ≤ n && n < 0x110000)))
  return Char.ofNat n

/-- The characters of escapes by their letter. -/
def escapes : List (Char × Char) :=
  [('0', '\x00'), ('a', '\x07'), ('b', '\x08'), ('t', '\t'), ('\t', '\t'), ('n', '\n'),
    ('v', '\x0b'), ('f', '\x0c'), ('r', '\r'), ('e', '\x1b'), (' ', ' '), ('"', '"'), ('/', '/'),
    ('\\', '\\'), ('N', '\u0085'), ('_', '\u00a0'), ('L', '\u2028'), ('P', '\u2029')]

/-- The rest of a scalar in quotes. Whether it may go over lines is said. -/
def doubleQuoted (manyLines : Bool) : Nat → Scan (List Char)
  | 0 => stuck
  | fuel + 1 => do
    match ← look 0 with
    | none => stuck
    | some '"' =>
      step
      return []
    | some '\\' =>
      step
      match ← look 0 with
      | none => stuck
      | some '\n' =>
        need manyLines
        step
        let n ← foldLines ((← left) + 1) 0
        return List.replicate n '\n' ++ (← doubleQuoted manyLines fuel)
      | some 'x' => do step; return (← hexChar 2) :: (← doubleQuoted manyLines fuel)
      | some 'u' => do step; return (← hexChar 4) :: (← doubleQuoted manyLines fuel)
      | some 'U' => do step; return (← hexChar 8) :: (← doubleQuoted manyLines fuel)
      | some e =>
        step
        match escapes.find? (·.1 == e) with
        | some (_, c) => return c :: (← doubleQuoted manyLines fuel)
        | none => stuck
    | some c =>
      let blanks ← skipWhile isBlankChar
      if (← look 0) == some '\n' then
        need manyLines
        let n ← foldLines ((← left) + 1) 0
        need !(← documentEnds)
        return folded n ++ (← doubleQuoted manyLines fuel)
      if !blanks.isEmpty then return blanks ++ (← doubleQuoted manyLines fuel)
      step
      return c :: (← doubleQuoted manyLines fuel)

/-- A scalar in quotes of either kind. -/
def quotedScalar (manyLines : Bool) : Scan Node := do
  let n ← left
  match ← look 0 with
  | some '"' => do
    step
    return .scalar .text (String.ofList (← doubleQuoted manyLines n))
  | some '\x27' => do
    step
    return .scalar .text (String.ofList (← singleQuoted manyLines n))
  | _ => stuck

end ModelineAssist.Settings.Yaml
