import ModelineAssist.Files.Tree
import ModelineAssist.Settings.Decode
import ModelineAssist.Settings.Format
import ModelineAssist.Settings.Merge

/-!
Loading the settings of a workspace. Over the defaults lie the settings of the user, over these the
settings of the workspace. Each of the two comes from a file whose name is fixed up to its
extension, which tells the format; where there is no such file, or none that can be read, nothing is
set. A file with the bare name hides those with an extension and sets nothing, as its format is
unknown.
-/
namespace ModelineAssist.Settings

/-- What loading depends on beside the workspace. -/
structure Surroundings where
  /-- The home directory of the user. -/
  home : String
  /-- The current directory, from which messages name files. -/
  directory : String
  files : FileTree

/-- Why settings could not be loaded. -/
inductive LoadError
  /-- The path of the workspace is no text. -/
  | rootNotText
  /-- A file does not follow its format. -/
  | unreadable
  | misfit (m : Misfit)
  deriving DecidableEq, Repr

/-- The wording of an error. -/
def LoadError.message : LoadError → String
  | .rootNotText => "Can't convert root_dir to str"
  | .unreadable => "Build err: the file does not follow its format"
  | .misfit m => m.message

/-- The entries of a file in a format; `none` if it does not follow the format. -/
def readFile (around : Surroundings) (path : String) (format : Format) (content : List UInt8) :
    Option (List (String × Value)) :=
  match String.fromUTF8? content.toByteArray with
  | none => some []
  | some text =>
    (format.parse? text.toList).map fun entries =>
      Value.locateAll (Path.relativeTo around.directory path) entries

/-- The entries of the first file there is under a name and one of some extensions. -/
def readWith (around : Surroundings) (stem : String) :
    List (String × Format) → Option (List (String × Value))
  | [] => some []
  | (extension, format) :: rest =>
    let path := stem ++ "." ++ extension
    match around.files.read? path with
    | some content => readFile around path format content
    | none => readWith around stem rest

/-- The entries of a file given by its name without extension. -/
def readSource (around : Surroundings) (stem : String) : Option (List (String × Value)) :=
  let stem := Path.inDirectory around.directory stem
  match around.files.read? stem with
  | some _ => some []
  | none => readWith around stem extensions

/-- The settings file of the user. -/
def userStem (around : Surroundings) : String := around.home ++ "/.config/camelk-modeline/settings"

/-- The settings file of a workspace. -/
def workspaceStem (root : String) : String := root ++ "/.camelk-modeline"

/-- The files that loading looks for. -/
def candidateFiles (around : Surroundings) (root : String) : List String :=
  [userStem around, workspaceStem root].flatMap fun stem =>
    let stem := Path.inDirectory around.directory stem
    stem :: extensions.map fun e => stem ++ "." ++ e.1

/-- The settings of a workspace. -/
def load (around : Surroundings) (root : List UInt8) : Except LoadError Settings :=
  match String.fromUTF8? root.toByteArray with
  | none => .error .rootNotText
  | some root =>
    match readSource around (userStem around) with
    | none => .error .unreadable
    | some user =>
      match readSource around (workspaceStem root) with
      | none => .error .unreadable
      | some workspace =>
        match ofValue (layOver workspace (layOver user defaultValue)) with
        | .ok settings => .ok settings
        | .error m => .error (.misfit m)

end ModelineAssist.Settings
