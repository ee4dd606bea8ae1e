import Componentry.Dict
import Componentry.Text.Case
import Componentry.Text.Slice

/-!
# Style attributes

An inline style is a list of declarations. As a map it has its property names in camel case and its
values as written; a piece without a colon or without a name is no declaration.
-/

set_option autoImplicit false

namespace Componentry.Style
open Componentry.Text

/-- A lower case ASCII letter. -/
def isSmall (c : Char) : Bool := 'a' ≤ c && c ≤ 'z'

/-- A dash and a small letter become the capital letter. -/
def joinHumps : List Char → List Char
  | [] => []
  | '-' :: c :: rest =>
    if isSmall c then c.toUpper :: joinHumps rest else '-' :: joinHumps (c :: rest)
  | c :: rest => c :: joinHumps rest

/-- A property name in camel case. -/
def camelCase (property : String) : String := String.ofList (joinHumps property.toList)

/-- A dash before every ASCII capital. -/
def splitHumps (s : List Char) : List Char :=
  s.flatMap fun c => if c.isUpper then ['-', c] else [c]

/-- A property name in lower case with dashes. -/
def kebabCase (property : String) : String :=
  String.ofList (lowerChars (splitHumps property.toList))

/-- The name and the value of a declaration, both trimmed. -/
def declaration? (piece : List Char) : Option (List Char × List Char) :=
  match cutAt [':'] piece with
  | none => none
  | some (name, value) =>
    let name := trimChars name
    if name.isEmpty then none else some (name, trimChars value)

/-- The declarations of an inline style, in order. -/
def declarations (s : String) : List (String × String) :=
  (splitWhere (· == ';') s.toList).filterMap fun piece =>
    (declaration? piece).map fun (name, value) => (String.ofList name, String.ofList value)

/-- The map of an inline style, names in camel case. -/
def parse (s : String) : Dict String :=
  Dict.ofList ((declarations s).map fun (name, value) => (camelCase name, value))

/-- The inline style of a map. -/
def write (style : Dict String) : String :=
  join "; " (style.entries.map fun (name, value) => kebabCase name ++ ": " ++ value)

/-- A text without a dash is its own camel case. -/
theorem joinHumps_of_no_dash : ∀ {s : List Char}, '-' ∉ s → joinHumps s = s
  | [], _ => rfl
  | c :: rest, h => by
    have hc : c ≠ '-' := fun e => h (e ▸ List.mem_cons_self)
    have hr : '-' ∉ rest := fun hm => h (List.mem_cons_of_mem _ hm)
    rw [joinHumps, joinHumps_of_no_dash hr]
    intro _ _ e
    exact (hc e).elim

end Componentry.Style
