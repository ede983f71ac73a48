import ModelineAssist.Text.Case
import ModelineAssist.Text.Grapheme.Cluster
import ModelineAssist.Text.Latin

/-!
Scattered matching: what has been typed falls into words at its spaces, and a word fits a label when
its letters occur in the label in the same order, with anything between them. No letter of a word
has a meaning of its own; only a backslash before a space keeps the space in the word.

Each word decides for itself how letters are compared. An ASCII word is read letter by letter;
another word is read by grapheme clusters, each standing for its first character. A label counts as
ASCII when all its clusters start with an ASCII character; no other word than an ASCII word fits it.
-/
namespace ModelineAssist.Matching
open Text

/-- How capital and small letters are told apart. -/
inductive CaseRule
  /-- Case never counts. -/
  | ignore
  /-- Case counts if a capital letter has been typed. -/
  | smart
  /-- Case always counts. -/
  | respect
  deriving DecidableEq, Repr

/-- Adds a character in front of the first word. -/
def consWord (c : Char) : List (List Char) → List (List Char)
  | [] => [[c]]
  | w :: ws => (c :: w) :: ws

/-- Splits a text at the spaces that do not follow a backslash; `escaped` tells whether the
character before the text is a backslash. -/
def splitWords (escaped : Bool) : List Char → List (List Char)
  | [] => [[]]
  | c :: cs =>
    if c = ' ' ∧ escaped = false then [] :: splitWords false cs
    else consWord c (splitWords (c == '\\') cs)

/-- Reads a backslash before a space as the space alone. -/
def unescape : List Char → List Char
  | [] => []
  | '\\' :: ' ' :: cs => ' ' :: unescape cs
  | c :: cs => c :: unescape cs

/-- A word of what has been typed, with the way its letters are compared. -/
structure Word where
  letters : List Char
  /-- The word consists of ASCII characters. -/
  ascii : Bool
  /-- Labels are folded before they are compared. -/
  folding : Bool
  /-- Labels lose the marks of their Latin letters before they are compared. -/
  unaccenting : Bool
  deriving DecidableEq, Repr

/-- An ASCII word under a case rule. -/
def Word.ofAscii (rule : CaseRule) (letters : List Char) : Word :=
  match rule with
  | .ignore => ⟨letters.map asciiLower, true, true, true⟩
  | .smart => ⟨letters, true, !letters.any isAsciiUpper, true⟩
  | .respect => ⟨letters, true, false, true⟩

/-- A word with characters beyond ASCII under a case rule: accents count if it has one. -/
def Word.ofUnicode (rule : CaseRule) (letters : List Char) : Word :=
  match rule with
  | .ignore =>
    let folded := letters.map fold
    ⟨folded, false, true, !folded.any isLatinVariant⟩
  | .smart => ⟨letters, false, !letters.any foldsAway, !letters.any isLatinVariant⟩
  | .respect => ⟨letters, false, false, !letters.any isLatinVariant⟩

/-- The word that a stretch of typed text stands for. -/
def Word.ofTyped (rule : CaseRule) (text : List Char) : Word :=
  if text.all isAscii then Word.ofAscii rule (unescape text)
  else Word.ofUnicode rule (unescape (clusterHeads text))

/-- The words of what has been typed. -/
def words (rule : CaseRule) (typed : List Char) : List Word :=
  ((splitWords false typed).filter (· ≠ [])).map (Word.ofTyped rule)

/-- A label as it is compared with words. -/
structure Label where
  letters : List Char
  /-- The label counts as ASCII. -/
  ascii : Bool
  deriving DecidableEq, Repr

/-- The label that a text stands for. -/
def Label.ofText (text : List Char) : Label :=
  let heads := clusterHeads text
  if text.all isAscii || heads.all isAscii then ⟨text, true⟩ else ⟨heads, false⟩

/-- A letter of a label as a word sees it. -/
def Word.sees (w : Word) (c : Char) : Char :=
  let c := if w.unaccenting then latinBase c else c
  if w.folding then fold c else c

/-- Whether a word fits a label. -/
def Word.fits (w : Word) (label : Label) : Bool :=
  if label.ascii then
    w.ascii &&
      w.letters.isSublist (label.letters.map fun c => if w.folding then asciiLower c else c)
  else w.letters.isSublist (label.letters.map w.sees)

/-- Whether every word of what has been typed fits the label. -/
def scattered (rule : CaseRule) (label typed : List Char) : Bool :=
  (words rule typed).all (·.fits (Label.ofText label))

end ModelineAssist.Matching
