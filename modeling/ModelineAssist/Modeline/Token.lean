import ModelineAssist.Text.Columns
import ModelineAssist.Text.WhiteSpace

/-!
The tokens of a modeline: the longest stretches of characters that are not white space, each with
the column at which it starts. An option is a token; its name ends before the first `=`.
-/
namespace ModelineAssist.Modeline
open Text

/-- Characters that options are written with: all that are not white space. -/
def isSolid (c : Char) : Bool := !isWhiteSpace c

/-- A stretch of solid characters, and the column of the first of them. -/
structure Token where
  start : Nat
  text : List Char
  deriving DecidableEq, Repr

/-- The column just past a token. -/
def Token.stop (t : Token) : Nat := t.start + columns t.text

/-- The name of an option: the token up to its first `=`. -/
def Token.name (t : Token) : List Char := t.text.takeWhile (· != '=')

/-- The column just past the name of an option. -/
def Token.nameStop (t : Token) : Nat := t.start + columns t.name

/-- Whether a column lies on a token or just past it. -/
def Token.touches (t : Token) (column : Nat) : Bool := t.start ≤ column && column ≤ t.stop

/-- Puts a solid character that starts at a column in front of the tokens behind it: it belongs to
the first of them if that one starts where the character ends, and is a token of its own if not. -/
def consSolid (column : Nat) (c : Char) : List Token → List Token
  | [] => [⟨column, [c]⟩]
  | t :: ts =>
    if t.start = column + width c then ⟨column, c :: t.text⟩ :: ts else ⟨column, [c]⟩ :: t :: ts

/-- The tokens of a text that starts at a column. -/
def tokens : Nat → List Char → List Token
  | _, [] => []
  | column, c :: cs =>
    let behind := tokens (column + width c) cs
    if isSolid c then consSolid column c behind else behind

end ModelineAssist.Modeline
