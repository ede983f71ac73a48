import ModelineAssist.CommandLine.Wording
import ModelineAssist.Log.Filter
import ModelineAssist.Server.Connection

/-!
Runs of the program. It gives information and ends, complains about its arguments and ends, or
serves an editor until no more messages come. What is logged in the meantime goes through a filter,
which the environment gives or else the arguments.
-/
namespace ModelineAssist.CommandLine
open Server Settings Log

/-- A program that serves an editor. -/
structure Serving where
  filter : Filter
  connection : Connection

/-- The filter: that of the environment if it can be read, else that of the arguments; and what is
said about the latter. -/
def chooseFilter (environment : Option String) (argument : String) : Filter × List String :=
  match environment.bind Filter.parse? with
  | some filter => (filter, [])
  | none => Filter.parseLossy argument

/-- What the program writes, and what it sends to the editor. -/
structure Output where
  stdout : String
  stderr : List String
  sent : List Json

/-- How the program begins. -/
inductive Beginning
  /-- It ends at once, with an exit code. -/
  | ends (code : UInt32) (output : Output)
  | serves (serving : Serving) (output : Output)

/-- How the program begins with some arguments. -/
def start (arguments : List String) (environment : Option String) : Beginning :=
  match request arguments with
  | .error e => .ends 2 ⟨"", e.lines, []⟩
  | .ok .help => .ends 0 ⟨helpText, [], []⟩
  | .ok .version => .ends 0 ⟨versionText, [], []⟩
  | .ok (.serve level) =>
    let (filter, complaints) := chooseFilter environment level
    .serves ⟨filter, .fresh⟩ ⟨"", complaints, []⟩

/-- What comes of a message. -/
def Serving.handle (around : Surroundings) (s : Serving) (j : Json) : Serving × Output :=
  let exchange := s.connection.handle around j
  let lines := (exchange.events.filter s.filter.passes).map Event.line
  ({ s with connection := exchange.connection }, ⟨"", lines, exchange.sent⟩)

/-- What comes of messages one after another. -/
def Serving.handleAll (around : Surroundings) (s : Serving) : List Json → List Output
  | [] => []
  | j :: js =>
    let (s, output) := s.handle around j
    output :: s.handleAll around js

/-- A whole run: the exit code and all that is written and sent. -/
def run (around : Surroundings) (arguments : List String) (environment : Option String)
    (messages : List Json) : UInt32 × Output :=
  match start arguments environment with
  | .ends code output => (code, output)
  | .serves serving output =>
    let outputs := output :: serving.handleAll around messages
    (0, ⟨output.stdout, outputs.flatMap (·.stderr), outputs.flatMap (·.sent)⟩)

end ModelineAssist.CommandLine
