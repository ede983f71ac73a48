import ModelineAssist.Text.Grapheme.BasesTable
import ModelineAssist.Text.Grapheme.MarksTable

/-!
Extended grapheme clusters: what a reader takes for one character, however many code points write
it. A text is read from left to right; whether a cluster starts at a character depends on the class
of the character before it and on three facts about what came earlier in the same cluster.
-/
namespace ModelineAssist.Text

/-- The classes of code points that the rules of segmentation tell apart. -/
inductive ClusterClass
  | carriageReturn | lineFeed | control | extend | joiner | regional | prepend | spacingMark
  | hangulL | hangulV | hangulT | hangulLV | hangulLVT | other
  deriving DecidableEq, Repr

/-- The class of a character. -/
def clusterClass (c : Char) : ClusterClass :=
  let n := c.toNat
  if n == 0xD then .carriageReturn
  else if n == 0xA then .lineFeed
  else if 0x20 ≤ n && n < 0x7F then .other
  else if n == 0x200D then .joiner
  else if 0x1F1E6 ≤ n && n ≤ 0x1F1FF then .regional
  else if (0x1100 ≤ n && n ≤ 0x115F) || (0xA960 ≤ n && n ≤ 0xA97C) then .hangulL
  else if (0x1160 ≤ n && n ≤ 0x11A7) || (0xD7B0 ≤ n && n ≤ 0xD7C6) then .hangulV
  else if (0x11A8 ≤ n && n ≤ 0x11FF) || (0xD7CB ≤ n && n ≤ 0xD7FB) then .hangulT
  else if 0xAC00 ≤ n && n ≤ 0xD7A3 then
    if (n - 0xAC00) % 28 == 0 then .hangulLV else .hangulLVT
  else if onRuns controlRuns n then .control
  else if onRuns extendRuns n then .extend
  else if onRuns spacingMarkRuns n then .spacingMark
  else if onRuns prependRuns n then .prepend
  else .other

/-- Characters with the property Extended_Pictographic. -/
def isPictograph (c : Char) : Bool := onRuns pictographRuns c.toNat

/-- What has to be known of the text so far to tell whether the next character starts a cluster. -/
structure ClusterState where
  /-- The class of the character just read. -/
  last : ClusterClass
  /-- The cluster so far is a pictograph followed by extending characters alone. -/
  pictograph : Bool
  /-- The same with a joiner behind it. -/
  joined : Bool
  /-- An odd number of regional indicators stands at the end. -/
  oddRegional : Bool
  /-- A conjunct consonant is followed by extending and linking signs alone. -/
  conjunct : Bool
  /-- The same, with a linking sign among them. -/
  linked : Bool
  deriving DecidableEq, Repr

/-- The state before the first character. -/
def ClusterState.start : ClusterState := ⟨.control, false, false, false, false, false⟩

/-- Whether a cluster starts at a character of class `next`. -/
def startsCluster (s : ClusterState) (c : Char) (next : ClusterClass) : Bool :=
  match s.last, next with
  | .carriageReturn, .lineFeed => false
  | .carriageReturn, _ | .lineFeed, _ | .control, _ => true
  | _, .carriageReturn | _, .lineFeed | _, .control => true
  | .hangulL, .hangulL | .hangulL, .hangulV | .hangulL, .hangulLV | .hangulL, .hangulLVT => false
  | .hangulLV, .hangulV | .hangulV, .hangulV | .hangulLV, .hangulT | .hangulV, .hangulT => false
  | .hangulLVT, .hangulT | .hangulT, .hangulT => false
  | _, .extend | _, .joiner | _, .spacingMark => false
  | .prepend, _ => false
  | .regional, .regional => !s.oddRegional
  | _, _ =>
    !((s.joined && isPictograph c) || (s.linked && onRuns conjunctConsonantRuns c.toNat))

/-- The state after one more character. -/
def ClusterState.next (s : ClusterState) (c : Char) : ClusterState :=
  let k := clusterClass c
  let consonant := onRuns conjunctConsonantRuns c.toNat
  let linker := onRuns conjunctLinkerRuns c.toNat
  let keeps := k == .extend || k == .joiner
  { last := k
    pictograph := isPictograph c || (s.pictograph && k == .extend)
    joined := s.pictograph && k == .joiner
    oddRegional := k == .regional && !s.oddRegional
    conjunct := consonant || (s.conjunct && (keeps || linker) && c.toNat != 0x200C)
    linked := !consonant && s.conjunct && (linker || (s.linked && keeps && c.toNat != 0x200C)) }

/-- The characters of a text at which a cluster starts, from a given state on. -/
def clusterHeadsFrom : ClusterState → List Char → List Char
  | _, [] => []
  | s, c :: cs =>
    let rest := clusterHeadsFrom (s.next c) cs
    if startsCluster s c (clusterClass c) then c :: rest else rest

/-- The first characters of the grapheme clusters of a text. -/
def clusterHeads (cs : List Char) : List Char := clusterHeadsFrom .start cs

end ModelineAssist.Text
