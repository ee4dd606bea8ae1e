import Componentry.Selector.Frame

/-!
# Content and surroundings

What an element has in it and beside it: whether it is empty or the only content of its page, and
whether its text passes tests. The text that the first test looks at is the one that all tests look
at.
-/

set_option autoImplicit false

namespace Componentry.Selector
open Componentry.Text Componentry.Markup

/-- A string that is more than blank, an element, or a data section. -/
def isContent : Tree → Bool
  | .element _ _ => true
  | .string .cdata _ => true
  | .string kind text => kind.isText && !isBlankText text

/-- An element is the only content of the whole page, or of a frame. -/
def isRoot (p : Place) : Bool :=
  isTopmost p && !(p.before.any isContent) && !(p.after.any isContent)

/-- An element holds no element and no text but blanks. -/
def isEmpty (p : Place) : Bool :=
  p.children.all fun t => match t with
    | .element _ _ => false
    | .string kind text => !(kind.isText && text.toList.any fun c => !isPlainBlank c)

/-- An element that a page may define: a name without a dash, or with a colon. -/
def isDefined (p : Place) : Bool :=
  let name := (nameOf p).toList
  !name.contains '-' || name.contains ':'

/-- A control without text, that of frames included. -/
def isUnfilled (p : Place) : Bool :=
  let text := concat (Tree.stringsIn StringKind.isText p.children)
  text == "" || text == "\n"

/-- What tests of text look at: the texts directly in an element, or all of its text. -/
inductive Said where
  | texts (l : List String)
  | whole (s : String)

namespace Said

/-- What the first of some tests looks at in an element. -/
def ofTest (t : TextTest) (p : Place) : Said :=
  if t.own then .texts (ownTexts p) else .whole (pageText p)

/-- A test holds. One of the texts directly in an element looks into each text, or each character
of the whole; one of the whole text looks into the whole, or for a text as a whole. -/
def passes (said : Said) (t : TextTest) : Bool :=
  t.values.any fun value =>
    match said, t.own with
    | .texts l, true => l.any fun text => contains text value
    | .whole s, true => s.toList.any fun c => contains (String.ofList [c]) value
    | .texts l, false => l.contains value
    | .whole s, false => contains s value

end Said

/-- All tests of the text of an element hold. -/
def passesTexts (tests : List TextTest) (p : Place) : Bool :=
  match tests with
  | [] => true
  | first :: _ => tests.all (Said.ofTest first p).passes

end Componentry.Selector
