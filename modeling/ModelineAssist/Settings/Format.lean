import ModelineAssist.Settings.Format.Ini
import ModelineAssist.Settings.Format.Json
import ModelineAssist.Settings.Format.Json5
import ModelineAssist.Settings.Format.Ron
import ModelineAssist.Settings.Format.Toml.Document
import ModelineAssist.Settings.Format.Yaml.Document

/-!
The formats of settings files, and the extensions that tell them.
-/
namespace ModelineAssist.Settings

/-- A format of settings files. -/
inductive Format
  | toml | json | yaml | ini | ron | json5
  deriving DecidableEq, Repr

/-- The entries of a file in a format; `none` if it does not follow the format. -/
def Format.parse? : Format → List Char → Option (List (String × Value))
  | .toml => parseToml?
  | .json => parseJson?
  | .yaml => parseYaml?
  | .ini => parseIni?
  | .ron => parseRon?
  | .json5 => parseJson5?

/-- The extensions of settings files, in lowercase only. -/
def extensions : List (String × Format) :=
  [("toml", .toml), ("json", .json), ("yaml", .yaml), ("yml", .yaml), ("ini", .ini),
    ("ron", .ron), ("json5", .json5)]

end ModelineAssist.Settings
