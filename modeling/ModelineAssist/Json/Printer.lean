import ModelineAssist.Json.Basic

/-!
Writing JSON text on one line. Characters beyond ASCII are written as escapes of their UTF-16 code
units, so that the text is ASCII whatever it says.
-/
namespace ModelineAssist.Json

/-- A code unit as an escape. -/
def unitEscape (n : Nat) : List Char :=
  '\\' :: 'u' :: [n / 4096 % 16, n / 256 % 16, n / 16 % 16, n % 16].map Nat.digitChar

/-- A character as it stands in a string. -/
def escape (c : Char) : List Char :=
  if c == '"' then ['\\', '"']
  else if c == '\\' then ['\\', '\\']
  else
    let n := c.toNat
    if 0x20 ≤ n && n < 0x7F then [c]
    else if n < 0x10000 then unitEscape n
    else unitEscape (0xD800 + (n - 0x10000) / 0x400) ++ unitEscape (0xDC00 + (n - 0x10000) % 0x400)

/-- A string in quotes. -/
def quote (s : String) : List Char := '"' :: s.toList.flatMap escape ++ ['"']

/-- Texts with commas between them. -/
def commas : List (List Char) → List Char
  | [] => []
  | [t] => t
  | t :: ts => t ++ ',' :: commas ts

mutual

/-- The text of a value. -/
def print : Json → List Char
  | .null => "null".toList
  | .bool true => "true".toList
  | .bool false => "false".toList
  | .int n => (toString n).toList
  | .real d => (toString d.mantissa ++ "e" ++ toString d.exponent).toList
  | .string s => quote s
  | .array items => '[' :: commas (printAll items) ++ [']']
  | .object members => '\x7b' :: commas (printMembers members) ++ ['\x7d']

/-- The texts of some values. -/
def printAll : List Json → List (List Char)
  | [] => []
  | j :: js => print j :: printAll js

/-- The texts of the members of an object. -/
def printMembers : List (String × Json) → List (List Char)
  | [] => []
  | (name, value) :: ms => (quote name ++ ':' :: print value) :: printMembers ms

end

/-- The text of a value as a string. -/
def render (j : Json) : String := String.ofList (print j)

end ModelineAssist.Json
