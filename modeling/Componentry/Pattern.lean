import Componentry.Document.Printer
import Componentry.Similarity

/-!
# Repeating patterns

Elements that go by the same key make a group, and a group whose members repeat one another is a
pattern. The key of an element is what it says of itself: the component it names, else its id, its
first class, or its element name.

The elements of a page that may repeat are grouped by their keys, in the order in which the keys
first come. A group is a pattern when it is large enough, or named like a section, and its members
are similar enough; members that say something of themselves need no similarity.
-/

set_option autoImplicit false

namespace Componentry
open Componentry.Text

/-- What a pattern looks like by its key. -/
inductive PatternKind where
  | card
  | nav
  | list
  | section
  | unknown
deriving Repr, DecidableEq

namespace PatternKind

/-- The word for a kind. -/
def name : PatternKind → String
  | .card => "card"
  | .nav => "nav"
  | .list => "list"
  | .section => "section"
  | .unknown => "unknown"

/-- The parts of keys that suggest a kind, the kinds in the order in which they are tried. -/
def keywords : List (PatternKind × List String) := [
  (.card, ["card", "product"]),
  (.nav, ["nav", "menu", "link", "breadcrumb"]),
  (.list, ["item", "list", "row", "entry"]),
  (.section, ["section", "hero", "feature"])]

/-- The kind that a key suggests. -/
def ofKey (key : String) : PatternKind :=
  let plain := replace (lower key) "__" "-"
  match keywords.find? fun (_, parts) => parts.any fun part => contains plain part with
  | some (kind, _) => kind
  | none => .unknown

end PatternKind

/-- Keys by the kind that each suggests. -/
def groupKeys (keys : List String) : Dict (List String) :=
  keys.foldl (fun groups key =>
    groups.alter (PatternKind.ofKey key).name fun others => others.getD [] ++ [key]) Dict.empty

namespace Node

/-- The key that an element goes by. -/
def key (n : Node) : String :=
  match n.attributes.textOf? "data-component" with
  | some component => component
  | none =>
    match n.attributes.textOf? "id" with
    | some id => id
    | none =>
      match n.attributes.classes with
      | c :: _ => c
      | [] => n.tagOrNone

/-- How a pattern lists an element. -/
def keyWithTag (n : Node) : String := n.key ++ " (" ++ n.shownTag ++ ")"

/-- Elements that repeat by nature. -/
def repeatingTags : List String := ["tr", "li", "dt", "dd", "td", "th"]

/-- An element may belong to a pattern: it says something of itself, or repeats by nature. -/
def mayRepeat (n : Node) : Bool :=
  n.attributes.counts "id" || !n.attributes.classes.isEmpty || n.attributes.counts "data-component"
    || repeatingTags.contains n.tagOrNone

end Node

/-- A pattern: the key and the members of a group, and how surely the members repeat one another. -/
structure Pattern (α : Type) where
  key : String
  members : List Node
  confidence : α

namespace Pattern
variable {α : Type}

/-- The names of sections, which make a pattern even when they stand alone. -/
def sectionNames : List String := [
  "hero", "breadcrumb", "header", "footer", "sidebar", "aside", "main", "section", "banner", "cta",
  "modal", "dialog"]

/-- The characters that start a selector. -/
def isSelectorMark (c : Char) : Bool := c == '.' || c == '#'

/-- A key without its selector mark and with a dash for a double underscore. -/
def nameOfKey (key : String) : String :=
  let bare := match key.toList with
    | c :: rest => if isSelectorMark c then rest else c :: rest
    | [] => []
  replace (String.ofList bare) "__" "-"

/-- A key is the name of a section. -/
def namesSection (key : String) : Bool :=
  let bare := (lower key).toList.filter fun c => !isSelectorMark c
  sectionNames.contains (replace (String.ofList bare) "__" "-")

/-- The name of a pattern. -/
def name (p : Pattern α) : String := nameOfKey p.key

/-- The number of members. -/
def count (p : Pattern α) : Nat := p.members.length

/-- The members as a pattern lists them. -/
def elements (p : Pattern α) : List String := p.members.map Node.keyWithTag

/-- What the pattern looks like. -/
def kind (p : Pattern α) : PatternKind := PatternKind.ofKey p.key

/-- The number of characters that a sample shows. -/
def sampleSize : Nat := 200

/-- The start of the markup of the first member. -/
def sample (p : Pattern α) : String :=
  match p.members with
  | [] => "..."
  | m :: _ => takeFirst m.write sampleSize ++ "..."

end Pattern

/-! ## Detection -/

/-- When a group is a pattern. -/
structure PatternOptions (α : Type) where
  leastCount : Int
  threshold : α

namespace Pattern
variable {α : Type} [Score α]

/-- The elements that may repeat, by their keys. -/
def groups (root : Node) : Dict (List Node) :=
  ((root.elements.filter Node.mayRepeat).filter fun n => n.key != "").foldl
    (fun groups n => groups.alter n.key fun others => others.getD [] ++ [n]) Dict.empty

/-- A member says something of itself besides its id. -/
def isExplicit (n : Node) : Bool :=
  !n.attributes.classes.isEmpty || n.attributes.counts "data-component"

/-- The pattern of a group, if it makes one. -/
def ofGroup? (o : PatternOptions α) (key : String) (members : List Node) : Option (Pattern α) :=
  let confidence : α := Similarity.confidence (members.map Node.shape)
  let threshold := if members.any isExplicit then Score.zero else o.threshold
  let enough := o.leastCount ≤ members.length || namesSection key
  if enough && Score.atMost threshold confidence then some { key, members, confidence } else none

/-- The patterns of a page. -/
def detect (o : PatternOptions α) (root : Node) : List (Pattern α) :=
  (groups root).entries.filterMap fun (key, members) => ofGroup? o key members

end Pattern
end Componentry
