import Componentry.Attributes
import Componentry.Attributes.Style
import Componentry.Markup.Tree

/-!
# Sorting attributes into bags

Each attribute of an element goes to one part of the bag, the first that fits: event handlers by
their `on…` name, the style, the class, and all others among the plain attributes, under their
component name if they have one. A switch that is empty or repeats its own name is on.
-/

set_option autoImplicit false

namespace Componentry.Attributes
open Componentry.Text Componentry.Markup

/-- A name that starts with `on` and a letter. -/
def isEventName (name : String) : Bool :=
  match name.toList with
  | 'o' :: 'n' :: c :: _ => isAsciiLetter c
  | _ => false

/-- A name of the data or accessibility families, which stays as it is. -/
def isPassedThrough (lowered : String) : Bool :=
  startsWith lowered "data-" || startsWith lowered "aria-"

/-- Sorts one attribute into a bag. -/
def sort (a : Attributes) (name value : String) : Attributes :=
  let lowered := lower name
  if isEventName name then { a with events := a.events ++ [⟨name, value⟩] }
  else if lowered == "style" then { a with style := some (Style.parse value) }
  else if lowered == "class" then { a with className := some value }
  else
    let key := (componentName? lowered).getD name
    if switches.contains lowered then
      let on := value == "" || value == lowered
      { a with plain := a.plain.put key (if on then .switch true else .text value) }
    else if isPassedThrough lowered then { a with plain := a.plain.put name (.text value) }
    else { a with plain := a.plain.put key (.text value) }

/-- The bag of an element's attributes. -/
def ofTag (tag : Tag) : Attributes :=
  tag.attributes.entries.foldl (fun a e => a.sort e.1 e.2) {}

/-- The `data-` attributes, without the start of their names and in camel case. -/
def dataOf (tag : Tag) : Dict String :=
  Dict.ofList (tag.attributes.entries.filterMap fun (name, value) =>
    (after? "data-" name).map fun rest => (Style.camelCase rest, value))

/-- The `aria-` attributes. -/
def ariaOf (tag : Tag) : Dict String :=
  Dict.ofList (tag.attributes.entries.filter fun (name, _) => startsWith name "aria-")

end Componentry.Attributes
