import ModelineAssist.Files.Path

/-!
What is known of a file system: some directories and the contents of some files, under absolute
paths. A path is followed part by part, so a double dot leads up only from a directory that exists.
-/
namespace ModelineAssist

/-- Where a path leads. -/
inductive Node
  | file (content : List UInt8)
  | directory
  deriving DecidableEq, Repr

/-- Directories and files by the parts of their paths. The root is always there. -/
structure FileTree where
  nodes : List (List (List Char) × Node)

namespace FileTree

/-- The node at a place given by its parts, none of which is a double dot. -/
def at? (tree : FileTree) (place : List (List Char)) : Option Node :=
  if place = [] then some .directory
  else (tree.nodes.find? (·.1 = place)).map (·.2)

/-- Follows the parts of a path from a directory on. -/
def follow (tree : FileTree) : List (List Char) → List (List Char) → Option Node
  | place, [] => tree.at? place
  | place, part :: rest =>
    match tree.at? place with
    | some .directory =>
      if part = ['.', '.'] then follow tree place.dropLast rest
      else follow tree (place ++ [part]) rest
    | _ => none

/-- The content of a file; `none` where there is no file. -/
def read? (tree : FileTree) (path : String) : Option (List UInt8) :=
  match tree.follow [] (Path.parts path) with
  | some (.file content) => some content
  | _ => none

/-- Adds a directory and those that it lies in. -/
def addDirectory (tree : FileTree) (path : String) : FileTree :=
  let parts := Path.parts path
  let places := (List.range parts.length).map fun n => parts.take (n + 1)
  ⟨tree.nodes ++ places.map fun place => (place, .directory)⟩

/-- Adds a file and the directories that it lies in. -/
def addFile (tree : FileTree) (path : String) (content : List UInt8) : FileTree :=
  let parts := Path.parts path
  let tree := tree.addDirectory (String.ofList (Path.joinParts parts.dropLast))
  ⟨tree.nodes ++ [(parts, .file content)]⟩

end FileTree

end ModelineAssist
