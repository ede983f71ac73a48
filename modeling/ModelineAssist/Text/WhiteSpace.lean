/-!
White space in the sense of Unicode. Everything that separates, trims or delimits in a modeline
goes by this one set: 25 characters, among them the line separators, the no-break spaces and the
ideographic space, but neither the zero-width characters nor the byte order mark.
-/
namespace ModelineAssist.Text

/-- The characters with the Unicode property White_Space. -/
def isWhiteSpace (c : Char) : Bool :=
  let n := c.toNat
  (0x9 ≤ n && n ≤ 0xD) || n == 0x20 || n == 0x85 || n == 0xA0 || n == 0x1680 ||
    (0x2000 ≤ n && n ≤ 0x200A) || n == 0x2028 || n == 0x2029 || n == 0x202F || n == 0x205F ||
    n == 0x3000

/-- A text that shows nothing: white space alone, or no character at all. -/
def isBlank (text : List Char) : Bool := text.all isWhiteSpace

theorem isBlank_cons (c : Char) (cs : List Char) :
    isBlank (c :: cs) = (isWhiteSpace c && isBlank cs) := rfl

end ModelineAssist.Text
