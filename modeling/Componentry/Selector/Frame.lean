import Componentry.Selector
import Componentry.Markup.Place
import Componentry.Text.Case

/-!
# Pages in frames

The content of an `iframe` is a page of its own. Some tests look at the whole tree, others keep to
the page they start in: they do not leave a frame upward and do not enter one downward. Names of
elements and attributes are compared without regard to case.
-/

set_option autoImplicit false

namespace Componentry.Selector
open Componentry.Text Componentry.Markup

/-- The name of an element with its ASCII capitals put in lower case. -/
def nameOf (p : Place) : String := asciiLower p.tag.name

/-- The value of an attribute, its name compared without regard to case. -/
def valueIn? (t : Tag) (name : String) : Option String :=
  (t.attributes.entries.find? fun e => asciiLower e.1 == asciiLower name).map Prod.snd

/-- The value of an attribute of an element. -/
def valueOf? (p : Place) (name : String) : Option String := valueIn? p.tag name

/-- The value of an attribute, nothing where it is missing. -/
def valueOrNone (p : Place) (name : String) : String := (valueOf? p name).getD ""

/-- A tag of a frame that holds a page of its own. -/
def isFrameTag (t : Tag) : Bool := asciiLower t.name == "iframe"

/-- An element is such a frame. -/
def isFrame (p : Place) : Bool := isFrameTag p.tag

/-- The elements of the same page around one, the nearest first. -/
def pageAncestors (p : Place) : List Place := p.ancestors.takeWhile fun q => !isFrame q

/-- The elements of the same page below one, in document order; a frame's own page is not one. -/
def pageDescendants (p : Place) : List Place := p.descendantsWhere fun t => !isFrameTag t

/-- The elements in a relation to one, the nearest first. -/
def relatives (keepsToPage : Bool) (r : Relation) (p : Place) : List Place :=
  match r with
  | .ancestor => if keepsToPage then pageAncestors p else p.ancestors
  | .parent => p.parent?.toList.filter fun q => !(keepsToPage && isFrame q)
  | .earlier => p.previous
  | .previous => p.previous.head?.toList
  | .descendant => if keepsToPage then pageDescendants p else p.descendants
  | .child => if keepsToPage && isFrame p then [] else p.inside
  | .later => p.next
  | .next => p.next.head?.toList

mutual
/-- The strings of a tree that are text of the page. -/
def pageStrings : Tree → List String
  | .string kind text => if kind.isText then [text] else []
  | .element tag children => if isFrameTag tag then [] else pageStringsIn children

/-- The strings of trees that are text of the page. -/
def pageStringsIn : List Tree → List String
  | [] => []
  | t :: rest => pageStrings t ++ pageStringsIn rest
end

/-- The text of an element on its page. -/
def pageText (p : Place) : String := concat (pageStrings p.toTree)

/-- The texts directly in an element, none for a frame. -/
def ownTexts (p : Place) : List String :=
  if isFrame p then []
  else p.children.filterMap fun t => match t with
    | .string kind text => if kind.isText then some text else none
    | .element _ _ => none

/-- An element is the first one at the top, or the first one in a frame. -/
def isTopmost (p : Place) : Bool :=
  match p.parent? with
  | none => false
  | some parent =>
    (parent.parent?.isNone && p.before.all fun t => t.tag?.isNone) || isFrame parent

end Componentry.Selector
