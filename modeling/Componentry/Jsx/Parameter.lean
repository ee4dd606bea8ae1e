import Componentry.Attributes.Printer
import Componentry.Document.Node
import Componentry.Jsx.Attribute
import Componentry.Text.Quoted

/-!
# Parameters of components

A typed component names its parameters: those found in the page, where a value is written as a name
in curly brackets, and those of the user, which come in place of found ones of the same name.
-/

set_option autoImplicit false

namespace Componentry.Jsx
open Componentry.Text

/-- A parameter of a component. -/
structure Parameter where
  name : String
  type : String := "string"
  required : Bool := false
  default : Option String := none
  description : Option String := none
deriving Repr, DecidableEq

/-- A character that starts a name. -/
def startsName (c : Char) : Bool := isAsciiLetter c || c == '_' || c == '$'

/-- A character within a name. -/
def isNameChar (c : Char) : Bool := isWordChar c || c == '$'

/-- The name that a value refers to. -/
def referred? (value : String) : Option String :=
  (expression? value.toList).bind fun body =>
    match trimChars body with
    | c :: rest =>
      if startsName c && rest.all isNameChar then some (String.ofList (c :: rest)) else none
    | [] => none

/-- The type of a parameter by its name, or else by its value. -/
def typeOf (name value : String) : String :=
  let lowered := lower name
  let body := expression? value.toList
  if contains lowered "count" || contains lowered "num" then "number"
  else if startsWith lowered "is" || startsWith lowered "has" then "boolean"
  else if contains lowered "callback" || contains lowered "handler" then "() => void"
  else match body with
    | none => "string"
    | some s =>
      if !s.isEmpty && s.all isDecimal then "number"
      else if s == "true".toList || s == "false".toList then "boolean"
      else "string"

/-- The parameters that the values in a page refer to, each once. -/
def detect (root : Node) : List Parameter :=
  let values := root.elements.flatMap fun n => n.attributes.toMarkup.entries.filterMap fun (_, v) =>
    match v with
    | .text s => (referred? s).map fun name => (name, s)
    | .switch _ => none
  values.foldl (fun found (name, value) =>
    if found.any fun p => p.name == name then found
    else found ++ [{ name, type := typeOf name value }]) []

/-- Found parameters together with those of the user. -/
def mergeParameters (found own : List Parameter) : List Parameter :=
  (((Dict.ofList (found.map fun p => (p.name, p))).putAll (own.map fun p => (p.name, p)))).values

/-- The lines of a parameter in a type. -/
def Parameter.typeLines (p : Parameter) : List String :=
  (match p.description.filter fun s => s != "" with
    | some s => ["  /** " ++ s ++ " */"]
    | none => [])
    ++ ["  " ++ p.name ++ (if p.required then "" else "?") ++ ": " ++ p.type ++ ";"]

/-- The type of the parameters of a component. -/
def parameterType (component : String) (l : List Parameter) : String :=
  let name := component ++ "Props"
  if l.isEmpty then "interface " ++ name ++ " \x7b\x7d\n\n"
  else
    join "\n" (["interface " ++ name ++ " \x7b"] ++ l.flatMap Parameter.typeLines ++ ["\x7d"])
      ++ "\n\n"

/-- A parameter in the head of a component. -/
def Parameter.binding (p : Parameter) : String :=
  match p.default with
  | some s => p.name ++ " = " ++ quoted s
  | none => p.name

/-- The parameters in the head of a component, with their type where it is declared. -/
def parameterList (component : String) (declaresType : Bool) (l : List Parameter) : String :=
  if l.isEmpty then ""
  else
    "\x7b " ++ join ", " (l.map Parameter.binding) ++ " \x7d"
      ++ (if declaresType then ": " ++ component ++ "Props" else "")

end Componentry.Jsx
