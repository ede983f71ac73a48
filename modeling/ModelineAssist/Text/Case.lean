import ModelineAssist.Text.Case.CasedTable
import ModelineAssist.Text.Case.FoldingTable
import ModelineAssist.Text.Case.LowercaseTable
import ModelineAssist.Text.Case.UppercaseTable

/-!
Capital and small letters: which letters are capitals, the lowercase of a text, and case folding.
-/
namespace ModelineAssist.Text

/-! ### Capital letters -/

/-- Characters with the Unicode property Uppercase. -/
def isUppercase (c : Char) : Bool := onRuns uppercaseRuns c.toNat

/-- The capital letters of ASCII. -/
def isAsciiUpper (c : Char) : Bool := 'A' ≤ c && c ≤ 'Z'

/-- The small letter of an ASCII capital; any other character stays. -/
def asciiLower (c : Char) : Char := if isAsciiUpper c then Char.ofNat (c.toNat + 32) else c

/-- The 128 characters of ASCII. -/
def isAscii (c : Char) : Bool := c.toNat < 0x80

/-! ### Lowercase

Characters are lowercased one by one, with two exceptions: the dotted capital I becomes an i and a
combining dot, and a capital sigma becomes a final sigma where it ends a word. It ends a word when,
skipping what is case-ignorable, a cased character stands before it and none after it.
-/

/-- Characters with the Unicode property Cased. -/
def isCased (c : Char) : Bool := onRuns casedRuns c.toNat

/-- Characters with the Unicode property Case_Ignorable. -/
def isCaseIgnorable (c : Char) : Bool := onRuns caseIgnorableRuns c.toNat

/-- The lowercase of a character by itself, for all but the dotted capital I one character. -/
def lowercaseChar (c : Char) : List Char :=
  if isAscii c then [asciiLower c]
  else if c.toNat = 0x130 then ['i', '\u0307']
  else [Char.ofNat (shiftBy lowercaseShifts c.toNat)]

/-- Whether the first character that is not case-ignorable is cased. -/
def startsCased (cs : List Char) : Bool :=
  match cs.dropWhile isCaseIgnorable with
  | [] => false
  | c :: _ => isCased c

/-- The lowercase of a capital sigma between what stands before it, read backwards, and after it. -/
def lowercaseSigma (before after : List Char) : Char :=
  if startsCased before && !startsCased after then 'ς' else 'σ'

/-- The lowercase of the rest of a text, given what was read before it, backwards. -/
def lowercaseAfter : List Char → List Char → List Char
  | _, [] => []
  | before, c :: cs =>
    (if c = 'Σ' then [lowercaseSigma before cs] else lowercaseChar c) ++
      lowercaseAfter (c :: before) cs

/-- The lowercase of a text. -/
def lowercase (cs : List Char) : List Char := lowercaseAfter [] cs

/-- The lowercase of a string. -/
def lowercaseString (s : String) : String := String.ofList (lowercase s.toList)

/-! ### Folding

Simple case folding takes one character to one character, so that texts that differ in case alone
fold to the same text. It joins more than lowercasing does, as the two small sigmas or the long s
and s.
-/

/-- The simple case folding of a character. -/
def fold (c : Char) : Char :=
  if isAscii c then asciiLower c else Char.ofNat (shiftBy foldingShifts c.toNat)

/-- Whether folding changes the character. -/
def foldsAway (c : Char) : Bool := fold c != c

end ModelineAssist.Text
