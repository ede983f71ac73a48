import ModelineAssist.Text.ExtendingTable
import ModelineAssist.Text.UnprintableTable

/-!
A text in double quotes, as messages show it: quotes and backslashes are escaped, and so is every
character that would not be seen by itself.
-/
namespace ModelineAssist.Text

/-- The digits of a number in base sixteen. -/
def hexDigits (n : Nat) : List Char := Nat.toDigits 16 n

/-- Whether a character is seen by itself. -/
def isVisible (c : Char) : Bool :=
  !onRuns unprintableRuns c.toNat && !onRuns graphemeExtendRuns c.toNat

/-- A character between double quotes. -/
def quoteChar (c : Char) : List Char :=
  if c = '"' then ['\\', '"']
  else if c = '\\' then ['\\', '\\']
  else if c = '\n' then ['\\', 'n']
  else if c = '\r' then ['\\', 'r']
  else if c = '\t' then ['\\', 't']
  else if c.toNat = 0 then ['\\', '0']
  else if isVisible c then [c]
  else ['\\', 'u', '\x7b'] ++ hexDigits c.toNat ++ ['\x7d']

/-- A text in double quotes. -/
def quoted (s : String) : String :=
  String.ofList ('"' :: s.toList.flatMap quoteChar ++ ['"'])

end ModelineAssist.Text
