import ModelineAssist.Text.Similarity

/-!
The arguments of the program: an option for the log filter, and two flags that ask what the program
is. The arguments are read from left to right, and the first that is wrong or asks for information
decides. A value that stands behind its option is stored only when the next option is met, or at the
end.
-/
namespace ModelineAssist.CommandLine

/-- What may be given. -/
inductive Flag
  | logLevel
  | help
  | version
  deriving DecidableEq, Repr

/-- What may be given, in the order in which it is listed. -/
def Flag.all : List Flag := [.logLevel, .help, .version]

/-- The name of an option. -/
def Flag.name : Flag → String
  | .logLevel => "log-level"
  | .help => "help"
  | .version => "version"

/-- How an option is shown. -/
def Flag.usage : Flag → String
  | .logLevel => "--log-level <LOG_LEVEL>"
  | f => "--" ++ f.name

/-- The option of a name. -/
def Flag.ofName? (name : String) : Option Flag := Flag.all.find? (·.name = name)

/-- The flag of a letter. -/
def Flag.ofLetter? : Char → Option Flag
  | 'h' => some .help
  | 'V' => some .version
  | _ => none

/-- The option whose name is most like a word, if one is much like it. -/
def Flag.like? (word : String) : Option Flag :=
  let alike := fun f : Flag => Text.similarity word.toList f.name.toList
  (Flag.all.filter fun f => decide ((7 : Rat) / 10 < alike f)).foldl (fun best f =>
    match best with
    | some b => if alike b ≤ alike f then some f else some b
    | none => some f) none

/-- What is wrong with arguments. `used` are the options that a better usage would hold. -/
inductive ArgumentError
  | unexpected (argument : String) (meant : Option Flag) (used : List Flag)
  | unexpectedValue (value : String) (flag : Flag) (used : List Flag)
  | missingValue (flag : Flag)
  | repeated (flag : Flag)
  deriving DecidableEq, Repr

/-- What the arguments ask for. -/
inductive Request
  | help
  | version
  | serve (logLevel : String)
  deriving DecidableEq, Repr

/-- How far the reading of arguments has come. -/
structure Progress where
  /-- The log filter, once it has been stored. -/
  level : Option String
  /-- The option for the log filter that has been met but not stored, with the value it has by now.
  -/
  pending : Option (Option String)

namespace Progress

/-- The options that have been stored. -/
def used (p : Progress) : List Flag := if p.level.isSome then [.logLevel] else []

/-- What is wrong with storing the option that has been met. -/
def error? (p : Progress) : Option ArgumentError :=
  match p.pending with
  | none => none
  | some none => some (.missingValue .logLevel)
  | some (some _) => if p.level.isSome then some (.repeated .logLevel) else none

/-- Stores the option that has been met. One that is met again undoes what was stored. -/
def settled (p : Progress) : Progress :=
  match p.pending with
  | some (some v) => ⟨if p.level.isSome then none else some v, none⟩
  | _ => ⟨p.level, none⟩

/-- Stores the option that has been met, if nothing is wrong with it. -/
def settle (p : Progress) : Except ArgumentError Progress :=
  match p.error? with
  | some e => .error e
  | none => .ok p.settled

end Progress

/-- An argument with two dashes: the name of an option, and the value behind an equals sign. -/
def long? (argument : String) : Option (String × Option String) :=
  match argument.toList with
  | '-' :: '-' :: cs =>
    let name := cs.takeWhile (· ≠ '=')
    match cs.drop name.length with
    | [] => some (String.ofList name, none)
    | _ :: value => some (String.ofList name, some (String.ofList value))
  | _ => none

/-- An argument with one dash: its first letter. -/
def short? (argument : String) : Option Char :=
  match argument.toList with
  | '-' :: c :: _ => if c = '-' then none else some c
  | _ => none

/-- A flag that asks for information, met where everything before has to be in order. -/
def information (p : Progress) (flag : Flag) : Except ArgumentError Request := do
  let _ ← p.settle
  return if flag = .version then .version else .help

/-- An argument with two dashes that names no option. -/
def unknownOption (p : Progress) (name : String) : ArgumentError :=
  let used := p.settled.used
  match Flag.like? name with
  | some flag =>
    .unexpected ("--" ++ name) (some flag) (if used.contains flag then used else used ++ [flag])
  | none => .unexpected ("--" ++ name) none used

/-- Reads arguments. -/
def read : Progress → List String → Except ArgumentError Request
  | p, [] => do
    let p ← p.settle
    return .serve (p.level.getD "info")
  | p, argument :: rest =>
    if argument = "--" then
      match rest with
      | [] => do
        let p ← p.settle
        return .serve (p.level.getD "info")
      | extra :: _ => .error (.unexpected extra none [])
    else
      match long? argument, short? argument with
      | some (name, value), _ =>
        match Flag.ofName? name, value with
        | some .logLevel, some v => do
          let p ← p.settle
          let p ← Progress.settle ⟨p.level, some (some v)⟩
          read p rest
        | some .logLevel, none => do
          let p ← p.settle
          read ⟨p.level, some none⟩ rest
        | some flag, some v => .error (.unexpectedValue v flag (p.used ++ [flag]))
        | some flag, none => information p flag
        | none, _ => .error (unknownOption p name)
      | none, some letter =>
        match Flag.ofLetter? letter with
        | some flag => information p flag
        | none => .error (.unexpected (String.ofList ['-', letter]) none [])
      | none, none =>
        if p.pending = some none then read ⟨p.level, some (some argument)⟩ rest
        else .error (.unexpected argument none [])

/-- What arguments ask for. -/
def request (arguments : List String) : Except ArgumentError Request :=
  read ⟨none, none⟩ arguments

end ModelineAssist.CommandLine
