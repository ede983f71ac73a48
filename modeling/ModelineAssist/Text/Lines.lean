/-!
Lines of a document. A line ends after a line feed, a carriage return, the pair of the two, or one
of the other Unicode line breaks; the line is handed out without the carriage returns and line feeds
at its end. A text with `k` breaks has `k + 1` lines, the last of which may be empty.
-/
namespace ModelineAssist.Text

/-- The characters after which a line ends. -/
def isLineBreak (c : Char) : Bool :=
  let n := c.toNat
  (0xA ≤ n && n ≤ 0xD) || n == 0x85 || n == 0x2028 || n == 0x2029

/-- Puts a character in front of the first of some lines. -/
def consFirst (c : Char) : List (List Char) → List (List Char)
  | [] => [[c]]
  | line :: lines => (c :: line) :: lines

/-- The lines of a text, each with the break that ends it. -/
def brokenLines : List Char → List (List Char)
  | [] => [[]]
  | '\r' :: '\n' :: cs => ['\r', '\n'] :: brokenLines cs
  | c :: cs => if isLineBreak c then [c] :: brokenLines cs else consFirst c (brokenLines cs)

/-- Drops the carriage returns and line feeds at the end of a line. -/
def dropLineEnd (line : List Char) : List Char :=
  (line.reverse.dropWhile fun c => c == '\r' || c == '\n').reverse

/-- The lines of a text without what ends them. -/
def lines (text : List Char) : List (List Char) := (brokenLines text).map dropLineEnd

/-- The line with the given number, counted from 0. -/
def line? (text : List Char) (n : Nat) : Option (List Char) := (lines text)[n]?

theorem flatten_consFirst (c : Char) (ls : List (List Char)) :
    (consFirst c ls).flatten = c :: ls.flatten := by
  cases ls <;> simp [consFirst]

/-- Breaking a text into lines loses nothing. -/
theorem flatten_brokenLines (text : List Char) : (brokenLines text).flatten = text := by
  fun_induction brokenLines text with
  | case1 => rfl
  | case2 cs ih => simp [ih]
  | case3 c cs _ _ ih => simp [ih]
  | case4 c cs _ _ ih => rw [flatten_consFirst, ih]

theorem brokenLines_ne_nil (text : List Char) : brokenLines text ≠ [] := by
  fun_induction brokenLines text with
  | case1 => simp
  | case2 cs _ => simp
  | case3 c cs _ _ _ => simp
  | case4 c cs _ _ ih =>
    cases h : brokenLines cs <;> simp [consFirst]

end ModelineAssist.Text
