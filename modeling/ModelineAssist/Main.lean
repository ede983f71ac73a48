import ModelineAssist.CommandLine.Run
import ModelineAssist.Json.Parser
import ModelineAssist.Json.Printer

/-!
The program: its arguments, its environment, and the editor at its standard input and output.
Messages are framed by a header that tells their length in bytes. This is all that reads and writes;
what is written is decided elsewhere.
-/
namespace ModelineAssist.Main
open CommandLine Server

/-- Writes lines for the log. -/
def writeLog (lines : List String) : IO Unit := do
  let stderr ← IO.getStderr
  for line in lines do stderr.putStrLn line

/-- Sends messages to the editor. -/
def send (messages : List Json) : IO Unit := do
  let stdout ← IO.getStdout
  for message in messages do
    let body := message.render
    stdout.putStr s!"Content-Length: {body.utf8ByteSize}\r\n\r\n{body}"
  stdout.flush

/-- The length that a line of a header gives. -/
def headerLength? (line : String) : Option Nat :=
  match line.splitOn ":" with
  | [name, value] =>
    if name.trimAscii.copy.toLower == "content-length" then value.trimAscii.copy.toNat? else none
  | _ => none

/-- Reads a header up to its empty line: the length of the message, or `none` at the end of input.
-/
partial def readHeader (stdin : IO.FS.Stream) (length : Nat) : IO (Option Nat) := do
  let line ← stdin.getLine
  if line.isEmpty then return none
  else if line.trimAscii.isEmpty then return some length
  else readHeader stdin ((headerLength? line).getD length)

/-- Reads the given number of bytes, or as many as there are. -/
partial def readBytes (stdin : IO.FS.Stream) (count : Nat) (before : ByteArray) : IO ByteArray := do
  if count = 0 then return before
  let bytes ← stdin.read count.toUSize
  if bytes.isEmpty then return before
  readBytes stdin (count - bytes.size) (before ++ bytes)

/-- Adds those of some files that there are. -/
def withFiles (tree : FileTree) : List String → IO FileTree
  | [] => return tree
  | path :: paths => do
    let tree ← try
        let content ← IO.FS.readBinFile path
        pure (tree.addFile path content.toList)
      catch _ => pure tree
    withFiles tree paths

/-- What a message may need of the file system. -/
def surroundings (c : Connection) (message : Json) : IO Settings.Surroundings := do
  let home := (← IO.getEnv "HOME").getD "~"
  let directory := (← IO.currentDir).toString
  let around : Settings.Surroundings := ⟨home, directory, ⟨[]⟩⟩
  match (c.loads? message).bind fun root => String.fromUTF8? root.toByteArray with
  | some root =>
    let files ← withFiles ⟨[]⟩ (Settings.candidateFiles around root)
    return { around with files }
  | none => return around

/-- Serves the editor until it sends no more. -/
partial def serve (stdin : IO.FS.Stream) (serving : Serving) : IO Unit := do
  let some length ← readHeader stdin 0 | return
  let bytes ← readBytes stdin length ByteArray.empty
  match (String.fromUTF8? bytes).bind fun text => Json.parse? text.toList with
  | none =>
    send [unreadableJson]
    serve stdin serving
  | some message =>
    let around ← surroundings serving.connection message
    let (serving, output) := serving.handle around message
    writeLog output.stderr
    send output.sent
    if serving.connection.isOpen then serve stdin serving

end ModelineAssist.Main

open ModelineAssist CommandLine in
/-- Runs the program. -/
def main (arguments : List String) : IO UInt32 := do
  match start arguments (← IO.getEnv "RUST_LOG") with
  | .ends code output =>
    IO.print output.stdout
    Main.writeLog output.stderr
    return code
  | .serves serving output =>
    Main.writeLog output.stderr
    Main.serve (← IO.getStdin) serving
    return 0
