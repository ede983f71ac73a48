import ModelineAssist.Text.Offsets
import ModelineAssist.Text.WhiteSpace

/-!
The marker of a modeline: optional white space, a comment leader `//` or `#`, optional white space
and the word `camel-k:`. What stands behind the marker are the options.
-/
namespace ModelineAssist.Modeline
open Text

/-- Takes a word off the front of a text. -/
def afterWord? : List Char → List Char → Option (List Char)
  | [], text => some text
  | _ :: _, [] => none
  | w :: ws, c :: cs => if w = c then afterWord? ws cs else none

theorem afterWord?_eq_some_iff {word text rest : List Char} :
    afterWord? word text = some rest ↔ text = word ++ rest := by
  induction word generalizing text with
  | nil => simp [afterWord?, eq_comm]
  | cons w ws ih =>
    cases text with
    | nil => simp [afterWord?]
    | cons c cs =>
      by_cases h : w = c
      · simp [afterWord?, h, ih]
      · simp [afterWord?, h, Ne.symm h]

/-- The leader of a comment line in the brace languages. -/
def slashes : List Char := ['/', '/']

/-- The leader of a comment line in scripts and data files. -/
def hash : List Char := ['#']

/-- The word that makes a comment a modeline. -/
def keyword : List Char := "camel-k:".toList

/-- What stands behind a comment leader at the front of a text. -/
def afterLeader? (text : List Char) : Option (List Char) :=
  (afterWord? slashes text).or (afterWord? hash text)

/-- The options of a modeline: what stands behind its marker. -/
def options? (line : List Char) : Option (List Char) :=
  (afterLeader? (line.dropWhile isWhiteSpace)).bind fun comment =>
    afterWord? keyword (comment.dropWhile isWhiteSpace)

/-- The number of characters through the end of the marker. -/
def markerLength? (line : List Char) : Option Nat :=
  (options? line).map fun options => line.length - options.length

/-- The offset at which the marker stops. -/
def markerStop? (line : List Char) : Option Nat :=
  (markerLength? line).map fun n => byteLength (line.take n)

end ModelineAssist.Modeline
