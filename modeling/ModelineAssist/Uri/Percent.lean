import ModelineAssist.Decimal

/-!
Percent escapes in identifiers: a byte written as a percent sign and two hexadecimal digits. Which
characters are escaped depends on the part of the identifier that they stand in; those beyond ASCII
always are, byte by byte in UTF-8. An escape that is there already stays as it is.
-/
namespace ModelineAssist.Uri

/-- A byte as an escape. -/
def byteEscape (b : UInt8) : List Char :=
  '%' :: [b.toNat / 16, b.toNat % 16].map fun n => (Nat.digitChar n).toUpper

/-- A text with the characters of a class escaped, and those beyond ASCII. -/
def escape (isEscaped : Char → Bool) (cs : List Char) : List Char :=
  cs.flatMap fun c =>
    if isEscaped c || 0x7F ≤ c.toNat then (String.utf8EncodeChar c).flatMap byteEscape else [c]

/-- The bytes of a text, escapes resolved. A percent sign that starts no escape stands for itself.
-/
def unescape : List Char → List UInt8
  | '%' :: high :: low :: cs =>
    match digitValue? 16 high, digitValue? 16 low with
    | some h, some l => (h * 16 + l).toUInt8 :: unescape cs
    | _, _ => 0x25 :: unescape (high :: low :: cs)
  | c :: cs => String.utf8EncodeChar c ++ unescape cs
  | [] => []

/-! ### What is escaped where -/

/-- The control characters. -/
def isControl (c : Char) : Bool := c.toNat < 0x20

/-- What is escaped in a fragment. -/
def escapedInFragment (c : Char) : Bool := isControl c || [' ', '"', '<', '>', '\x60'].contains c

/-- What is escaped in the query of a scheme. -/
def escapedInQuery (special : Bool) (c : Char) : Bool :=
  isControl c || [' ', '"', '#', '<', '>'].contains c || (special && c == '\x27')

/-- What is escaped in a segment of a path. -/
def escapedInPath (c : Char) : Bool :=
  escapedInFragment c || ['#', '?', '\x7b', '\x7d'].contains c

/-- What is escaped in the name and the password of a user. -/
def escapedInUser (c : Char) : Bool :=
  escapedInPath c || ['/', ':', ';', '=', '@', '[', '\\', ']', '^', '|'].contains c

end ModelineAssist.Uri
