/-!
What is logged: events of a level, each from a part of the program, with a message and some values.
-/
namespace ModelineAssist.Log

/-- How grave an event is. -/
inductive Level
  | error | warn | info | debug | trace
  deriving DecidableEq, Repr

/-- The levels, the gravest first. -/
def Level.all : List Level := [.error, .warn, .info, .debug, .trace]

/-- How a level is written in the log. -/
def Level.name : Level → String
  | .error => "ERROR"
  | .warn => "WARN"
  | .info => "INFO"
  | .debug => "DEBUG"
  | .trace => "TRACE"

/-- The place of a level: the gravest has 1. -/
def Level.rank : Level → Nat
  | .error => 1
  | .warn => 2
  | .info => 3
  | .debug => 4
  | .trace => 5

/-- An event. -/
structure Event where
  level : Level
  /-- The part of the program that the event comes from. -/
  target : String
  message : String
  /-- The values that belong to the event, by name. -/
  fields : List (String × String)
  deriving DecidableEq, Repr

/-- A character of a message. What a terminal would take for a command is shown by its code. -/
def shownChar (c : Char) : List Char :=
  let code := Nat.toDigits 16 c.toNat
  if ['\x1b', '\x07', '\x08', '\x0c', '\x7f'].contains c then
    ['\\', 'x'] ++ (if c.toNat < 0x10 then '0' :: code else code)
  else if 0x80 ≤ c.toNat && c.toNat < 0xA0 then ['\\', 'u', '\x7b'] ++ code ++ ['\x7d']
  else [c]

/-- A message as it is shown. -/
def shown (message : String) : String := String.ofList (message.toList.flatMap shownChar)

/-- The line that an event is in the log. -/
def Event.line (e : Event) : String :=
  s!"{e.level.name} {e.target}: {shown e.message}" ++
    String.join (e.fields.map fun f => s!" {f.1}={f.2}")

end ModelineAssist.Log
