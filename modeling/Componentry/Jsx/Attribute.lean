import Componentry.Jsx.Property
import Componentry.Setting

/-!
# Writing properties

A property is written as an attribute in JSX. A text in curly brackets is an expression, any other
one stands in quotes; a handler becomes a function, a style a literal, and a switch that is on
stands alone. Characters that would end a text or a value are written as references.
-/

set_option autoImplicit false

namespace Componentry.Jsx
open Componentry.Text

/-- The references for characters that would end a text, in the order in which they are put in. -/
def textReferences : List (Char × String) :=
  [('&', "&amp;"), ('<', "&lt;"), ('>', "&gt;"), ('\x7b', "&#123;"), ('\x7d', "&#125;")]

/-- A text with its special characters escaped. -/
def escapeText (s : String) : String := replaceEach s textReferences

/-- The references for characters that would end a value, in the order in which they are put in. -/
def valueReferences : List (Char × String) :=
  [('&', "&amp;"), ('"', "&quot;"), ('<', "&lt;"), ('>', "&gt;")]

/-- A value with its special characters escaped. -/
def escapeAttribute (s : String) : String := replaceEach s valueReferences

/-- A text without one line feed at its end. -/
def withoutLineFeed (s : List Char) : List Char :=
  match s.reverse with
  | '\n' :: rest => rest.reverse
  | _ => s

/-- A number: digits, perhaps with a point and more digits. -/
def isNumeric (s : String) : Bool :=
  let body := withoutLineFeed s.toList
  match body.dropWhile isDecimal with
  | [] => !body.isEmpty
  | '.' :: fraction => isDecimal (body.headD ' ') && !fraction.isEmpty && fraction.all isDecimal
  | _ => false

/-- A text between single quotes. -/
def singleQuoted (s : String) : String :=
  "'" ++ replace (replace s "\\" "\\\\") "'" "\\'" ++ "'"

/-- An entry of a literal; a number stands without quotes. -/
def entryText (name value : String) : String :=
  name ++ ": " ++ (if isNumeric value then value else singleQuoted value)

/-- The literal of a map of texts. -/
def literal (entries : List (String × String)) : String :=
  "\x7b " ++ join ", " (entries.map fun (name, value) => entryText name value) ++ " \x7d"

/-- The text of a value that stands in a map. -/
def plainText (value : PropertyValue) : String := value.toSetting.shown

/-- The text of an expression in curly brackets; the end of a line may follow it. -/
def expression? : List Char → Option (List Char)
  | '\x7b' :: inner =>
    match inner.reverse with
    | '\x7d' :: body => some body.reverse
    | '\n' :: '\x7d' :: body => some body.reverse
    | _ => none
  | _ => none

/-- The texts of a map, if it holds nothing else. -/
def texts? (entries : List (String × PropertyValue)) : Option (List (String × String)) :=
  entries.mapM fun (name, value) =>
    match value with
    | .text s => some (name, s)
    | _ => none

/-- The code of a handler without the semicolons at its end. -/
def handlerBody (s : String) : String :=
  String.ofList (dropEndWhile (· == ';') (trimChars s.toList))

/-- How a property is written under a name, nothing where it is off or empty. -/
def attributeText (name : String) (p : Property) : String :=
  match p.value with
  | .switch on => if on then name else ""
  | .none => ""
  | .text s =>
    match expression? s.toList with
    | some body => name ++ "=\x7b" ++ String.ofList body ++ "\x7d"
    | none =>
      if p.kind == .event then name ++ "=\x7b() => \x7b " ++ handlerBody s ++ "; \x7d\x7d"
      else name ++ "=\"" ++ escapeAttribute s ++ "\""
  | .map entries =>
    if p.kind == .style then
      if entries.isEmpty then ""
      else "style=\x7b" ++ literal ((texts? entries).getD []) ++ "\x7d"
    else
      name ++ "=\x7b" ++ literal (entries.map fun (key, value) => (key, plainText value)) ++ "\x7d"
  | value => name ++ "=\x7b" ++ plainText value ++ "\x7d"

/-- The name that a property is written under: the class by either of its names. -/
def writtenName (renamesClass : Bool) (p : Property) : String :=
  if p.name == "className" && !renamesClass then "class" else p.name

/-- A property as an attribute. -/
def writeProperty (renamesClass : Bool) (p : Property) : String :=
  attributeText (writtenName renamesClass p) p

/-- Properties as attributes, with spaces between. -/
def writeProperties (renamesClass : Bool) (l : List Property) : String :=
  join " " ((l.map (writeProperty renamesClass)).filter fun s => s != "")

/-- A property is a style with entries. -/
def isStyled (p : Property) : Bool :=
  match p.kind, p.value with
  | .style, .map entries => !entries.isEmpty
  | _, _ => false

/-- What there is to say of a property: the code of a handler is made a function. -/
def warning? (renamesClass : Bool) (p : Property) : Option String :=
  match p.kind, p.value with
  | .event, .text s =>
    if (expression? s.toList).isSome then none
    else some ("Inline handler on " ++ writtenName renamesClass p
      ++ " wrapped in an arrow function.")
  | _, _ => none

/-- A property that can be written: a style has texts only. -/
def writable (p : Property) : Except Fault Unit :=
  match p.kind, p.value with
  | .style, .map entries => if (texts? entries).isSome then .ok () else .error .unusableValue
  | _, _ => .ok ()

end Componentry.Jsx
