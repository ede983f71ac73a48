/-!
File paths as text, with `/` between their parts. The parts that lead nowhere, empty ones and single
dots, do not count; a double dot is kept, since what it leads to is known only on disk.
-/
namespace ModelineAssist.Path

/-- The parts of a path. -/
def parts (path : String) : List (List Char) :=
  (path.toList.splitOn '/').filter fun part => part ≠ [] ∧ part ≠ ['.']

/-- Whether a path starts at the root. -/
def isAbsolute (path : String) : Bool := path.toList.head? == some '/'

/-- A path seen from a directory; an absolute one stays. -/
def inDirectory (directory path : String) : String :=
  if isAbsolute path then path else directory ++ "/" ++ path

/-- Parts with `/` between them. -/
def joinParts : List (List Char) → List Char
  | [] => []
  | [p] => p
  | p :: ps => p ++ '/' :: joinParts ps

/-- The way from a directory to a path: up out of the parts that only the directory has, and down
the parts that only the path has. -/
def wayFrom : List (List Char) → List (List Char) → List (List Char)
  | [], path => path
  | directory, [] => directory.map fun _ => ['.', '.']
  | d :: ds, p :: ps =>
    if d = p then wayFrom ds ps else (d :: ds).map (fun _ => ['.', '.']) ++ p :: ps

/-- An absolute path as it is written from a directory. -/
def relativeTo (directory path : String) : String :=
  String.ofList (joinParts (wayFrom (parts directory) (parts path)))

end ModelineAssist.Path
