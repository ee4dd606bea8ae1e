import Componentry.CommandLine

/-!
# The program

Carries out its command line on the files around it. What it says and does is decided elsewhere;
here texts are read and files are written.
-/

set_option autoImplicit false

namespace Componentry.Program
open Componentry.CommandLine

/-- What the system says of a path that cannot be used. -/
def faultOf (path : FilePath) : IO.Error → FileFault
  | .noFileOrDirectory .. => .missing path.text
  | .alreadyExists .. => .occupied path.text
  | .inappropriateType .. => .notDirectory path.text
  | _ => .isDirectory path.text

/-- An action on a path, with what the system says against it; a path that cannot be ends the
program. -/
def attempt {α : Type} (path : FilePath) (action : IO α) : IO (Except FileFault α) := do
  if path.isImpossible then throw (IO.userError FileFault.impossible.message)
  match ← action.toBaseIO with
  | .ok a => return .ok a
  | .error e => return .error (faultOf path e)

/-- Reads the markup that a command names. -/
def readInput (input : String) : IO (Except FileFault String) := do
  if input == "-" then return .ok (← (← IO.getStdin).readToEnd)
  let path := FilePath.ofText input
  let text ← attempt path (IO.FS.readFile path.text)
  return text.map fun s => String.ofList (Text.unixLines s.toList)

/-- Writes files one after the other, and counts them. -/
def writeAll (base : FilePath) : Nat → List GeneratedFile → IO (Except FileFault Nat)
  | written, [] => return .ok written
  | written, f :: rest => do
    let target := f.target base
    match ← attempt target.parent (IO.FS.createDirAll target.parent.text) with
    | .error fault => return .error fault
    | .ok () =>
      match ← attempt target (IO.FS.writeFile target.text f.content) with
      | .error fault => return .error fault
      | .ok () => writeAll base (written + 1) rest

/-- Tells what happened on the way. -/
def tell (records : List Record) (least : Int) : IO Unit := do
  for r in records do
    if least ≤ LogLevels.number r.level then
      IO.eprintln (match r.level with
        | .warning => "WARNING - " ++ r.text
        | .error => "ERROR - " ++ r.text)

/-- The result of an outcome; a fault ends the program. -/
def settle {α : Type} (least : Int) (o : Outcome α) : IO α := do
  tell o.records least
  match o.result with
  | .ok a => return a
  | .error f => throw (IO.userError f.message)

/-- The home directory of the user, the only one that is known. -/
def homes : IO (String → Option FilePath) := do
  let home ← IO.getEnv "HOME"
  return fun user => if user == "" then home.map FilePath.ofText else none

/-- Writes the files of a conversion. -/
def writeOutput (least : Int) (settings : Settings) (asked : Option String) (c : Conversion)
    (milliseconds : String) : IO Reply := do
  let working := FilePath.ofText (← IO.currentDir).toString
  let home ← homes
  let directory ← settle least
    (Outcome.ofExcept (outputDirectory home working (outputText settings asked)))
  match ← attempt directory (IO.FS.createDirAll directory.text) with
  | .error f => return unwritable c f
  | .ok () =>
    match ← writeAll directory 0 c.files with
    | .error f => return unwritable c f
    | .ok written => return success c written directory milliseconds

/-- Carries out the command that converts a page. -/
def convert (least : Int) (settings : Settings) (command : ConvertCommand) : IO Reply := do
  match ← settle least (override settings command.overrides) with
  | .error reply => return reply
  | .ok settings =>
    match ← readInput command.input with
    | .error f => return unreadable command.input f
    | .ok markup =>
      let options ← settle least (Outcome.ofExcept (command.wishes.options settings))
      let start ← IO.monoMsNow
      let c ← settle least (options.convert settings (some markup))
      let time := Text.natText ((← IO.monoMsNow) - start)
      if c.succeeded then writeOutput least settings command.output c time else return failure c

/-- Carries out a command line. -/
def run (arguments : List String) : IO Reply := do
  let settings := Settings.standard
  match Invocation.ofArguments arguments with
  | .error stop => return Reply.ofStop stop
  | .ok i =>
    let levels ← settle 0 (Outcome.ofExcept (levels settings i))
    match i.command with
    | some (.convert command) => convert levels.root.value settings command
    | some (.config rest) => settle levels.root.value (config settings rest)
    | none => return Reply.ofStop .help

end Componentry.Program

/-- Carries out the command line and gives its code. -/
def main (arguments : List String) : IO UInt32 := do
  let reply ← Componentry.Program.run arguments
  IO.print reply.text
  if reply.code == 2 then IO.eprint Componentry.CommandLine.Reply.usage
  return reply.code.toUInt32
