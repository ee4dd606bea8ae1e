import Componentry.CommandLine.Arguments
import Componentry.Conversion.Options

/-!
# Commands

A command line names a command: one converts a page, the other shows and changes settings. Each has
options of its own, and the level of records can be set before either.
-/

set_option autoImplicit false

namespace Componentry.CommandLine

/-- The command that converts a page: where its markup is, and what is wished for. -/
structure ConvertCommand where
  input : String := ""
  output : Option String := none
  typed : Option Bool := none
  strategy : Option String := none
  keepsWhole : Bool := false
  name : Option String := none
  selectors : Option (List String) := none
  overrides : List String := []
  hidesProgress : Bool := false

namespace ConvertCommand

/-- The strategies that can be asked for. -/
def strategies : List String := StyleStrategy.all.map StyleStrategy.name ++ ["none"]

/-- The options of the command. -/
def options : Options ConvertCommand := [
  ("-h", .help),
  ("--help", .help),
  ("-o", .value fun s c => some { c with output := some s }),
  ("--output", .value fun s c => some { c with output := some s }),
  ("--format", .value fun s c =>
    (ConversionOptions.typed? s).map fun typed => { c with typed := some typed }),
  ("--css", .value fun s c =>
    if strategies.contains s then some { c with strategy := some s } else none),
  ("--no-split", .flag fun c => { c with keepsWhole := true }),
  ("--name", .value fun s c => some { c with name := some s }),
  ("--select", .value fun s c =>
    some { c with selectors := some (c.selectors.getD [] ++ [s]) }),
  ("--set", .value fun s c => some { c with overrides := c.overrides ++ [s] }),
  ("--no-progress", .flag fun c => { c with hidesProgress := true })]

/-- Takes the place of the markup in. -/
def takeInput (plain : List String) (c : ConvertCommand) : Except Stop ConvertCommand :=
  match plain with
  | [input] => .ok { c with input }
  | _ => .error .refused

/-- What is wished for in the conversion. -/
def wishes (c : ConvertCommand) : ConversionWishes :=
  { name := c.name, typed := c.typed, strategy := c.strategy,
    splits := if c.keepsWhole then some false else none, selectors := c.selectors,
    showsProgress := !c.hidesProgress }

end ConvertCommand

/-- What a command line asks for. -/
inductive Command where
  | convert (c : ConvertCommand)
  | config (arguments : List String)

/-- A command line: the level of records, and the command if there is one. -/
structure Invocation where
  level : Option String := none
  command : Option Command := none

namespace Invocation

/-- The options before the command. -/
def options : Options Invocation := [
  ("-h", .help),
  ("--help", .help),
  ("--log-level", .value fun s i => some { i with level := some s })]

/-- The options of the command for settings. -/
def configOptions : Options (List String) := [("-h", .help), ("--help", .help)]

/-- Takes the command in, which comes before its own arguments. -/
def takeCommand (plain : List String) (i : Invocation) : Except Stop Invocation :=
  match plain with
  | "convert" :: rest =>
    (readArguments ConvertCommand.options .one ConvertCommand.takeInput {} rest).map fun c =>
      { i with command := some (.convert c) }
  | "config" :: rest =>
    (readArguments configOptions .several (fun plain _ => .ok plain) [] rest).map fun plain =>
      { i with command := some (.config plain) }
  | _ => .error .refused

/-- Reads a command line. -/
def ofArguments (arguments : List String) : Except Stop Invocation :=
  readArguments options .command takeCommand {} arguments

end Invocation
end Componentry.CommandLine
