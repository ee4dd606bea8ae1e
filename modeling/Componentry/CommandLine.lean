import Componentry.CommandLine.Reply
import Componentry.Logging
import Componentry.Output
import Componentry.Text.Lines

/-!
# The command line

A command line is carried out in surroundings: a tree of files, a text at hand, and what is known of
home directories and of the time that passes.
-/

set_option autoImplicit false

namespace Componentry
open Componentry.Text

namespace CommandLine

/-- What stands around a command line. -/
structure Surroundings where
  /-- The text that the name `-` means. -/
  standardInput : String := ""
  /-- The home directory of a user; without a name, that of the one who asks. -/
  home : String → Option FilePath
  /-- How long a conversion takes. -/
  milliseconds : String

/-- Reads the markup that a command names. -/
def readInput (s : Surroundings) (t : FileTree) (input : String) : Except FileFault String :=
  if input == "-" then .ok s.standardInput
  else (t.read (FilePath.ofText input)).map fun text =>
    String.ofList (unixLines text.toList)

/-- The working directory of a tree as a path. -/
def workingPath (t : FileTree) : FilePath := ⟨"/", t.workingDirectory⟩

/-- Writes the files of a conversion. -/
def writeOutput (s : Surroundings) (settings : Settings) (asked : Option String) (c : Conversion)
    (t : FileTree) : Outcome (Reply × FileTree) :=
  (Outcome.ofExcept (outputDirectory s.home (workingPath t) (outputText settings asked))).bind
    fun directory =>
      let refuse (t : FileTree) (f : FileFault) : Outcome (Reply × FileTree) :=
        if f.isReported then
          ⟨[⟨.error, "Writing output failed: " ++ f.message⟩], .ok (unwritable c f, t)⟩
        else .fail (.file f)
      match t.ensure directory with
      | (t, .error f) => refuse t f
      | (t, .ok ()) =>
        match t.placeAll directory c.files with
        | (t, .error f) => refuse t f
        | (t, .ok written) => .ok (success c written.length directory s.milliseconds, t)

/-- Carries out the command that converts a page. -/
def convert (s : Surroundings) (settings : Settings) (command : ConvertCommand) (t : FileTree) :
    Outcome (Reply × FileTree) := do
  match ← override settings command.overrides with
  | .error reply => return (reply, t)
  | .ok settings =>
    match readInput s t command.input with
    | .error f =>
      if f.isReported then return (unreadable command.input f, t) else Outcome.fail (.file f)
    | .ok markup =>
      let options ← Outcome.ofExcept (command.wishes.options settings)
      let c ← options.convert settings (some markup)
      if c.succeeded then writeOutput s settings command.output c t else return (failure c, t)

/-- The levels of records for a command line. -/
def levels (settings : Settings) (i : Invocation) : Except Fault LogLevels :=
  let asked := match i.level.filter fun s => s != "" with
    | some s => .text s
    | none => (settings.get? "debug.level").getD (.text "WARNING")
  LogLevels.configure asked [] []

/-- Carries out a command line. -/
def run (s : Surroundings) (settings : Settings) (arguments : List String) (t : FileTree) :
    Outcome (Reply × FileTree) :=
  match Invocation.ofArguments arguments with
  | .error stop => .ok (Reply.ofStop stop, t)
  | .ok i =>
    (Outcome.ofExcept (levels settings i)).bind fun l =>
      Outcome.atLeast l.root.value (match i.command with
        | some (.convert command) => convert s settings command t
        | some (.config rest) => (config settings rest).bind fun reply => .ok (reply, t)
        | none => .ok (Reply.ofStop .help, t))

end CommandLine
end Componentry
