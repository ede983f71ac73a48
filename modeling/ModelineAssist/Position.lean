/-!
Places in a document as editors name them: lines and columns counted from 0 in 32-bit words, columns
in UTF-16 code units.
-/
namespace ModelineAssist

/-- A place between two characters of a document. -/
structure Position where
  line : UInt32
  character : UInt32
  deriving DecidableEq, Repr

/-- The text between two places. -/
structure Range where
  start : Position
  stop : Position
  deriving DecidableEq, Repr

/-- The text between two columns of a line. -/
def Range.onLine (line : UInt32) (start stop : Nat) : Range :=
  ⟨⟨line, start.toUInt32⟩, ⟨line, stop.toUInt32⟩⟩

end ModelineAssist
