import Componentry.Naming
import Componentry.Markup.Tree.Builder

/-!
# Names from content

Markup suggests a name by what it shows: its first heading, button or link, or a common topic in
one of its paragraphs.
-/

set_option autoImplicit false

namespace Componentry.Naming
open Componentry.Text Componentry.Markup

/-- Topics that name what is about them. -/
def topics : List String := [
  "contact", "support", "help", "about", "settings", "profile", "dashboard", "login", "register",
  "search", "filter", "sort", "product", "service", "feature", "pricing", "team", "news"]

/-- Headings of all levels. -/
def headings : List String := ["h1", "h2", "h3", "h4", "h5", "h6"]

/-- The text of the first element of some names, if it is not empty. -/
def firstText? (tree : Tree) (names : List String) : Option String :=
  ((tree.find? fun t => names.any fun name => t.isNamed name).map Tree.trimmedText).filter
    fun s => s != ""

/-- The first topic in a text. -/
def topicOf? (s : String) : Option String := topics.find? fun topic => contains s topic

/-- What a tree shows that can name it. -/
def shown? (tree : Tree) : Option String :=
  match firstText? tree headings with
  | some s => some s
  | none =>
    match firstText? tree ["button"] with
    | some s => some (s ++ "Button")
    | none =>
      match firstText? tree ["a"] with
      | some s => some (s ++ "Link")
      | none =>
        ((Tree.elementsIn tree.children).filter fun t => t.isNamed "p").findSome? fun p =>
          topicOf? (lower p.trimmedText)

/-- The name that markup suggests, a plain one with a number where it suggests none. -/
def suggest (number : Nat) (markup : String) : Except Fault String :=
  (Tree.parse markup).map fun tree =>
    match shown? tree with
    | some s => pascalCase s
    | none => plainName number none

end Componentry.Naming
