import Componentry.Dict
import Componentry.Text.Case
import Componentry.Text.Letters
import Componentry.Text.Slice

/-!
# Declarations and rules

An inline style declares values for properties, whose names are put in lower case; a declaration
without a name or a value is none, and the last one of a property counts. A value may be marked as
important.

A rule gives declarations to what its selectors mean. Values that are used more than once can be
declared as variables at the top, in the order in which they first come.
-/

set_option autoImplicit false

namespace Componentry.Stylesheet
open Componentry.Text

/-! ## Declarations -/

/-- The mark of an important value. -/
def importantMark : String := "!important"

/-- The property and the value of a declaration. -/
def declaration? (piece : List Char) : Option (String × String) :=
  match cutAt [':'] piece with
  | none => none
  | some (property, value) =>
    let property := lowerChars (trimChars property)
    let value := trimChars value
    if property.isEmpty || value.isEmpty then none
    else some (String.ofList property, String.ofList value)

/-- The declarations of an inline style. -/
def declarations (style : String) : Dict String :=
  Dict.ofList ((splitWhere (· == ';') style.toList).filterMap declaration?)

/-- A value without its marks, and whether it has one. -/
def splitImportant (value : String) : String × Bool :=
  if contains value importantMark then (trim (replace value importantMark ""), true)
  else (trim value, false)

/-- A text that tells sets of declarations apart, whatever their order. -/
def declarationKey (declared : Dict String) : String :=
  join ";" ((declared.entries.mergeSort fun a b => le a.1 b.1).map fun (property, value) =>
    property ++ ":" ++ value)

/-- A declaration as a style sheet writes it. -/
structure Declaration where
  property : String
  value : String
  important : Bool
deriving Repr, DecidableEq

/-- The declaration of a property. -/
def Declaration.of (property value : String) : Declaration :=
  let (value, important) := splitImportant value
  { property, value, important }

/-- The style of one element: what the element is, and what it declares. -/
structure ElementStyle where
  tag : String
  declared : Dict String

/-- The declarations of a style, as a style sheet writes them. -/
def ElementStyle.declarations (s : ElementStyle) : List Declaration :=
  s.declared.entries.map fun (property, value) => Declaration.of property value

/-! ## Rules -/

/-- A rule of a style sheet. -/
structure Rule where
  selectors : List String
  declarations : List Declaration
  media : Option String := none

/-- How often each value is declared in some styles. -/
def valueCounts (styles : List ElementStyle) : Dict Nat :=
  (styles.flatMap ElementStyle.declarations).foldl
    (fun counts d => counts.alter d.value fun n => n.getD 0 + 1) Dict.empty

/-- The variables for the values that are declared more than once, by value. -/
def repeatedValues (styles : List ElementStyle) : Dict String :=
  ((valueCounts styles).entries.filter fun (_, n) => 2 ≤ n).foldl
    (fun sharedValues (value, _) =>
      sharedValues.put value ("--css-var-" ++ natText sharedValues.size)) Dict.empty

/-- A value, or the variable that stands for it. -/
def writeValue (sharedValues : Dict String) (value : String) : String :=
  match sharedValues.get? value with
  | some name => "var(" ++ name ++ ")"
  | none => value

/-- The line of a declaration. -/
def Declaration.line (sharedValues : Dict String) (d : Declaration) : String :=
  "  " ++ d.property ++ ": " ++ writeValue sharedValues d.value
    ++ (if d.important then " " ++ importantMark else "") ++ ";"

/-- The lines of a rule. -/
def Rule.lines (sharedValues : Dict String) (r : Rule) : List String :=
  let media := r.media.getD ""
  (if media == "" then [] else [media ++ " \x7b"])
    ++ [join ", " r.selectors ++ " \x7b"]
    ++ r.declarations.map (Declaration.line sharedValues)
    ++ ["\x7d"]
    ++ (if media == "" then [] else ["\x7d"])

/-- The lines that declare variables. -/
def variableLines (sharedValues : Dict String) : List String :=
  if sharedValues.isEmpty then []
  else [":root \x7b"]
    ++ sharedValues.entries.map (fun (value, name) => "  " ++ name ++ ": " ++ value ++ ";")
    ++ ["\x7d", ""]

/-- A style sheet: its header, its variables and its rules. Without a rule it is empty. -/
def write (header : List String) (sharedValues : Dict String) (rules : List Rule) : String :=
  if rules.isEmpty then ""
  else join "\n" (["/*"] ++ header.map (fun l => " * " ++ l) ++ [" */", ""]
    ++ variableLines sharedValues ++ rules.flatMap fun r => r.lines sharedValues ++ [""])

end Componentry.Stylesheet
