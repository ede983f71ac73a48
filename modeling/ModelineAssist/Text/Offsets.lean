import ModelineAssist.Text.Columns

/-!
Offsets into a line, counted in the bytes of its UTF-8 form. A line is cut at offsets, which is
possible only between two characters. From an offset to a column and back the way leads over the
number of the character that they belong to.
-/
namespace ModelineAssist.Text

/-- How many bytes a text takes. -/
def byteLength : List Char → Nat
  | [] => 0
  | c :: cs => c.utf8Size + byteLength cs

@[simp] theorem byteLength_nil : byteLength [] = 0 := rfl

@[simp] theorem byteLength_cons (c : Char) (cs : List Char) :
    byteLength (c :: cs) = c.utf8Size + byteLength cs := rfl

@[simp] theorem byteLength_append (a b : List Char) :
    byteLength (a ++ b) = byteLength a + byteLength b := by
  induction a with
  | nil => simp
  | cons c cs ih => simp [ih, Nat.add_assoc]

theorem byteLength_eq (text : List Char) : byteLength text = (String.ofList text).utf8ByteSize := by
  induction text with
  | nil => rfl
  | cons c cs ih =>
    rw [byteLength_cons, ih, String.ofList_cons, String.utf8ByteSize_append,
      String.utf8ByteSize_singleton]

/-- What is wrong with an offset at which a line is to be cut or read. -/
inductive Misplaced
  /-- It would lie in front of the line. -/
  | before
  /-- It lies behind the line. -/
  | beyond
  /-- It falls within a character. -/
  | within
  /-- It lies in front of the offset that it should lie behind. -/
  | reversed
  deriving DecidableEq, Repr

/-- Goes back from an offset. -/
def goBack (offset n : Nat) : Except Misplaced Nat :=
  if offset < n then .error .before else .ok (offset - n)

/-! ### Cutting -/

/-- The two parts of a text that is cut at an offset. -/
def cutAt : Nat → List Char → Except Misplaced (List Char × List Char)
  | 0, text => .ok ([], text)
  | _ + 1, [] => .error .beyond
  | n + 1, c :: cs =>
    if n + 1 < c.utf8Size then .error .within
    else (cutAt (n + 1 - c.utf8Size) cs).map fun (left, right) => (c :: left, right)

/-- The part of a line between two offsets. -/
def slice (line : List Char) (start stop : Nat) : Except Misplaced (List Char) :=
  if stop < start then .error .reversed
  else do
    let (left, _) ← cutAt stop line
    let (_, part) ← cutAt start left
    return part

/-! ### Offsets and columns -/

/-- How many characters end at an offset or before it. -/
def charsUpTo : Nat → List Char → Nat
  | _, [] => 0
  | n, c :: cs => if n < c.utf8Size then 0 else charsUpTo (n - c.utf8Size) cs + 1

/-- The number of the character that an offset belongs to. -/
def charOfOffset (line : List Char) (offset : Nat) : Except Misplaced Nat :=
  if byteLength line < offset then .error .beyond else .ok (charsUpTo offset line)

/-- The number of the character that a column belongs to. -/
def charOfColumn (line : List Char) (column : Nat) : Except Misplaced Nat :=
  if columns line < column then .error .beyond else .ok (leftOf column line).length

/-- The offset at which a character starts. -/
def offsetOfChar (line : List Char) (n : Nat) : Except Misplaced Nat :=
  if line.length < n then .error .beyond else .ok (byteLength (line.take n))

/-- The column at which a character starts. -/
def columnOfChar (line : List Char) (n : Nat) : Except Misplaced Nat :=
  if line.length < n then .error .beyond else .ok (columns (line.take n))

/-- The offset of a column, where a column behind the line counts as its end. -/
def offsetOfColumn (line : List Char) (column : Nat) : Except Misplaced Nat := do
  let n ← charOfColumn line (min column (columns line))
  offsetOfChar line n

/-- The column of an offset. -/
def columnOfOffset (line : List Char) (offset : Nat) : Except Misplaced Nat := do
  let n ← charOfOffset line offset
  columnOfChar line n

end ModelineAssist.Text
