import ModelineAssist.CommandLine.Arguments
import ModelineAssist.Server.Events

/-!
What the program says about itself and about its arguments.
-/
namespace ModelineAssist.CommandLine
open Server

/-- The version of the program. -/
def versionText : String := s!"{programName} {programVersion}\n"

/-- How the program is called, with some of its options. -/
def usageText (used : List Flag) : String :=
  if used = [] then s!"Usage: {programName} [OPTIONS]"
  else s!"Usage: {programName} " ++ String.intercalate " " (used.map Flag.usage)

/-- What the program is for and what may be given. -/
def helpText : String :=
  "Completion and hover for Camel K modeline options, as a library and a Language Server\n\n" ++
  usageText [] ++ "\n\nOptions:\n" ++
  "      --log-level <LOG_LEVEL>  Log filter used when RUST_LOG is not set " ++
    "(e.g. \"debug\", \"camelk_modeline=trace\") [default: info]\n" ++
  "  -h, --help                   Print help\n" ++
  "  -V, --version                Print version\n"

/-- The lines that say what is wrong with arguments. -/
def ArgumentError.lines : ArgumentError → List String
  | .unexpected argument meant used =>
    [s!"error: unexpected argument '{argument}' found", ""] ++
      (match meant with
        | some flag => [s!"  tip: a similar argument exists: '--{flag.name}'", ""]
        | none => []) ++
      [usageText used, ""] ++ hint
  | .unexpectedValue value flag used =>
    [s!"error: unexpected value '{value}' for '{flag.usage}' found; no more were expected", "",
      usageText used, ""] ++ hint
  | .missingValue flag =>
    [s!"error: a value is required for '{flag.usage}' but none was supplied", ""] ++ hint
  | .repeated flag =>
    [s!"error: the argument '{flag.usage}' cannot be used multiple times", "", usageText [], ""] ++
      hint
where
  /-- Where to find out more. -/
  hint : List String := ["For more information, try '--help'."]

end ModelineAssist.CommandLine
