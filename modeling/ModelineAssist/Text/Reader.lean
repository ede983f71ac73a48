/-!
Reading a text from its front. A reader takes what it knows off the text and yields what that means,
or fails and leaves the text to be read in another way.
-/
namespace ModelineAssist.Text

/-- A reader of things from the front of a text. -/
abbrev Reader := StateT (List Char) Option

namespace Reader

/-- Reads nothing, in vain. -/
def fail {α : Type} : Reader α := fun _ => none

/-- Reads in a first way or, if that fails, in a second one. -/
def or {α : Type} (first second : Reader α) : Reader α := fun cs =>
  match first cs with
  | some r => some r
  | none => second cs

/-- Reads something, or nothing if that fails. -/
def maybe {α : Type} (r : Reader α) : Reader (Option α) := fun cs =>
  match r cs with
  | some (a, rest) => some (some a, rest)
  | none => some (none, cs)

/-- The text still to be read. -/
def remaining : Reader (List Char) := fun cs => some (cs, cs)

/-- The next character, which is left there. -/
def peek? : Reader (Option Char) := fun cs => some (cs.head?, cs)

/-- Whether the next character is as asked. -/
def nextIs (p : Char → Bool) : Reader Bool := fun cs => some (cs.head?.any p, cs)

/-- Takes the next character, if it is as asked. -/
def satisfying (p : Char → Bool) : Reader Char
  | [] => none
  | c :: cs => if p c then some (c, cs) else none

/-- Takes a character. -/
def char (c : Char) : Reader Unit := do
  let _ ← satisfying (· == c)

/-- Takes a character if it is next, and tells whether it was. -/
def tryChar (c : Char) : Reader Bool
  | [] => some (false, [])
  | x :: cs => if x = c then some (true, cs) else some (false, x :: cs)

/-- Takes a word. -/
def word (w : String) : Reader Unit := fun cs =>
  if w.toList.isPrefixOf cs then some ((), cs.drop w.length) else none

/-- Takes a word if it is next, and tells whether it was. -/
def tryWord (w : String) : Reader Bool := fun cs =>
  if w.toList.isPrefixOf cs then some (true, cs.drop w.length) else some (false, cs)

/-- Takes the characters at the front that are as asked. -/
def takeWhile (p : Char → Bool) : Reader (List Char) := fun cs =>
  some (cs.takeWhile p, cs.dropWhile p)

/-- Takes the characters at the front that are as asked, at least one. -/
def takeSome (p : Char → Bool) : Reader (List Char) := fun cs =>
  match cs.takeWhile p with
  | [] => none
  | taken => some (taken, cs.dropWhile p)

/-- Whether everything has been read. -/
def atEnd : Reader Bool := fun cs => some (cs.isEmpty, cs)

/-- Goes on only under a condition. -/
def check (b : Bool) : Reader Unit := if b then pure () else fail

/-- Reads something as often as it can be read, at most a given number of times. -/
def many {α : Type} (r : Reader α) : Nat → Reader (List α)
  | 0 => pure []
  | n + 1 => do
    match ← maybe r with
    | some a => return a :: (← many r n)
    | none => return []

/-- What a reader makes of a whole text. -/
def whole? {α : Type} (r : Reader α) (text : List Char) : Option α :=
  match r text with
  | some (a, []) => some a
  | _ => none

end Reader

end ModelineAssist.Text
