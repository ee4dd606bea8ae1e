import Componentry.Conversion
import Componentry.Files.Tree
import Componentry.CommandLine.Command
import Componentry.Setting

/-!
# Replies to commands

A command is answered with a code and a text: zero for success, one for a command that was not
carried out, two for arguments that make no sense.
-/

set_option autoImplicit false

namespace Componentry.CommandLine
open Componentry.Text

/-- The answer to a command. -/
structure Reply where
  code : Nat
  text : String
deriving Repr, DecidableEq

namespace Reply

/-- The answer with a line of success. -/
def done (line : String) : Reply := ⟨0, line ++ "\n"⟩

/-- The answer with a line on what is wrong. -/
def refused (line : String) : Reply := ⟨1, line ++ "\n"⟩

/-- How the command is called. -/
def usage : String := "usage: componentry [-h] [--log-level LOG_LEVEL] \x7bconvert,config\x7d ...

Convert HTML mockups into React components.

commands:
  convert  [-o OUTPUT] [--format \x7bjsx,tsx\x7d] [--css \x7bcss-modules,tailwind,vanilla,none\x7d]
           [--no-split] [--name NAME] [--select SELECTOR] [--set KEY=VALUE] [--no-progress] input
           Convert an HTML file into components.
  config   [list | get <key> | set <key> <value> | reset]
           Inspect or change configuration.
"

/-- The answer to arguments that ask for help or make no sense. -/
def ofStop : Stop → Reply
  | .help => ⟨0, usage⟩
  | .refused => ⟨2, ""⟩

end Reply

/-! ## Settings -/

/-- How the command for settings is called. -/
def configUsage : String := "Usage:
  config list                Show the current configuration as JSON.
  config get <key>           Show one value (e.g., splitter.max_component_depth).
  config set <key> <value>   Check how a value is cast (not persisted; use 'convert --set KEY=VALUE').
  config reset               Reload the configuration from settings.json."

/-- A value as the command shows it. -/
def shownValue (s : Setting) : String :=
  match s with
  | .list _ | .group _ => s.write
  | s => s.shown

/-- The words of a value without the double quotes around it. -/
def unquoted (s : String) : String :=
  if startsWith s "\"" && endsWith s "\"" then dropLast (dropFirst s 1) 1 else s

/-- The answer to a command for settings. -/
def config (settings : Settings) (arguments : List String) : Outcome Reply :=
  match arguments with
  | [] => .ok (.refused configUsage)
  | "list" :: _ => .ok (.done settings.root.write)
  | "get" :: rest =>
    match rest with
    | [key] =>
      match settings.get? key with
      | some s => .ok (.done (shownValue s))
      | none => .ok (.refused ("❌ Error: Unknown config key '" ++ key ++ "'."))
    | _ => .ok (.refused "Usage: config get <key>")
  | "set" :: rest =>
    match rest with
    | key :: first :: more => do
      let value := unquoted (join " " (first :: more))
      let (put, settings) ← settings.set key (.text value)
      if put then
        let value := (settings.get? key).getD .null
        return .done ("✅ Config updated: " ++ key ++ " = " ++ value.shown ++ " (type: "
          ++ value.kindName ++ ")")
      else return .refused ("❌ Error: Failed to set config value for key '" ++ key ++ "'.")
    | _ => .ok (.refused "Usage: config set <key> <value>")
  | "reset" :: _ =>
    .ok (.done "✅ Configuration has been reset to the values from settings.json.")
  | other :: _ => .ok (.refused ("Unknown command: 'config " ++ other ++ "'."))

/-! ## Conversions -/

/-- Puts overrides into the settings, each a key and a value around an equals sign, up to the first
one that cannot be put. -/
def override : Settings → List String → Outcome (Except Reply Settings)
  | settings, [] => .ok (.ok settings)
  | settings, s :: rest =>
    let refusal : Reply :=
      .refused ("❌ Error: Invalid override '" ++ s ++ "' (expected KEY=VALUE).")
    match cutAt ['='] s.toList with
    | none => .ok (.error refusal)
    | some (key, value) =>
      (settings.set (trim (String.ofList key)) (.text (trim (String.ofList value)))).bind
        fun (put, settings) => if put then override settings rest else .ok (.error refusal)

/-- The answer when the markup cannot be read. -/
def unreadable (input : String) (f : FileFault) : Reply :=
  .refused ("❌ Error: Could not read '" ++ input ++ "': " ++ f.message)

/-- The lines for the warnings of a conversion. -/
def warningText (c : Conversion) : String :=
  concat (c.warnings.map fun w => "⚠️  " ++ w ++ "\n")

/-- The answer to a conversion that failed, which it did with a reason. -/
def failure (c : Conversion) : Reply :=
  ⟨1, warningText c ++ "❌ Conversion failed: " ++ c.error.getD "None" ++ "\n"⟩

/-- The answer when files cannot be written. -/
def unwritable (c : Conversion) (f : FileFault) : Reply :=
  ⟨1, warningText c ++ "❌ Error: Could not write output: " ++ f.message ++ "\n"⟩

/-- The answer to a conversion whose files are written. -/
def success (c : Conversion) (written : Nat) (directory : FilePath) (milliseconds : String) :
    Reply :=
  ⟨0, warningText c ++ "✅ " ++ natText c.componentCount ++ " components, " ++ natText written
    ++ " files written to " ++ directory.text ++ " (" ++ milliseconds ++ " ms).\n"⟩

/-- The directory for files, as it was asked for or as the settings say. -/
def outputText (settings : Settings) (asked : Option String) : String :=
  match asked.filter fun s => s != "" with
  | some s => s
  | none =>
    match (settings.get? "output.directory").map Setting.shown with
    | some s => if s == "" then "output" else s
    | none => "output"

/-- The directory for files as a path from the root. A first part that starts with `~` stands for a
home directory. -/
def outputDirectory (home : String → Option FilePath) (working : FilePath) (text : String) :
    Except Fault FilePath :=
  let path := FilePath.ofText text
  match path.isAbsolute, path.parts with
  | false, first :: rest =>
    match first.toList with
    | '~' :: user =>
      if user.contains '\x00' then .error (.file .impossible)
      else match home (String.ofList user) with
        | some h => .ok (working.under (h.under ⟨"", rest⟩))
        | none => .error .noHome
    | _ => .ok (working.under path)
  | _, _ => .ok (working.under path)

end Componentry.CommandLine
