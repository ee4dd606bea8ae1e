import Componentry.Attributes
import Componentry.Attributes.Style

/-!
# Writing bags back to markup

A bag gives back markup attributes: the class first, then the plain attributes under their markup
names, the style, and the events. Switches that are off are left out; one that is on is written
without a value.
-/

set_option autoImplicit false

namespace Componentry.Attributes
open Componentry.Text

/-- The references for the characters that delimit values. -/
def escapeValueChar (c : Char) : List Char :=
  if c == '&' then "&amp;".toList
  else if c == '<' then "&lt;".toList
  else if c == '>' then "&gt;".toList
  else if c == '"' then "&quot;".toList
  else if c == '\'' then "&#x27;".toList
  else [c]

/-- A value with its delimiters escaped. -/
def escapeValue (s : String) : String := String.ofList (s.toList.flatMap escapeValueChar)

/-- The class, if it is not empty, as the first entry. -/
def classEntries (a : Attributes) : List (String × AttributeValue) :=
  match a.className with
  | some name => if name.isEmpty then [] else [("class", .text name)]
  | none => []

/-- The plain attributes that are not off, under their markup names. -/
def plainEntries (a : Attributes) : List (String × AttributeValue) :=
  (a.plain.entries.filter fun e => e.2 != .switch false).map fun (name, value) =>
    ((markupName? name).getD name, value)

/-- The style, if it has entries. -/
def styleEntries (a : Attributes) : List (String × AttributeValue) :=
  match a.style with
  | some style => if style.isEmpty then [] else [("style", .text (Style.write style))]
  | none => []

/-- The handlers. -/
def eventEntries (a : Attributes) : List (String × AttributeValue) :=
  a.events.map fun e => (e.event, .text e.code)

/-- The markup attributes of a bag. -/
def toMarkup (a : Attributes) : Dict AttributeValue :=
  Dict.ofList (a.classEntries ++ a.plainEntries ++ a.styleEntries ++ a.eventEntries)

/-- One attribute in markup. -/
def writeEntry (name : String) : AttributeValue → String
  | .switch _ => name
  | .text s => name ++ "=\"" ++ escapeValue s ++ "\""

/-- The markup attributes of a bag as text, with spaces between. -/
def write (a : Attributes) : String :=
  join " " (a.toMarkup.entries.map fun (name, value) => writeEntry name value)

end Componentry.Attributes
