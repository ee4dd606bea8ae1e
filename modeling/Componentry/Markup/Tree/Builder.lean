import Componentry.Markup.Tree
import Componentry.Markup.Token

/-!
# Building trees from tokens

Tokens open, fill and close elements. Nothing is implied: an end tag closes up to the nearest open
element of its name and is passed over when none is open, and whatever is open at the end closes
there. A void element closes where it starts, and one later end tag of its name is passed over for
it.
-/

set_option autoImplicit false

namespace Componentry.Markup
open Componentry.Text

/-- Elements that hold nothing. -/
def voidNames : List String := [
  "area", "base", "br", "col", "embed", "hr", "img", "input", "keygen", "link", "menuitem", "meta",
  "param", "source", "track", "wbr", "basefont", "bgsound", "command", "frame", "image", "isindex",
  "nextid", "spacer"]

/-- Elements whose blank strings are kept as they are. -/
def blankKeepers : List String := ["pre", "textarea"]

/-- Attributes whose value is a list of words. -/
def isWordList (name key : String) : Bool :=
  match key with
  | "class" | "accesskey" | "dropzone" => true
  | "rel" => name == "a" || name == "link" || name == "area"
  | "rev" => name == "a" || name == "link"
  | "headers" => name == "td" || name == "th"
  | "accept-charset" => name == "form"
  | "archive" => name == "object"
  | "sizes" => name == "icon"
  | "sandbox" => name == "iframe"
  | "for" => name == "output"
  | _ => false

/-- The attributes of an element: the last value of a name counts, and the words of a list stand
with single spaces between them. -/
def attributesOf (name : String) (written : List (String × String)) : Dict String :=
  (Dict.ofList written).mapEntries fun key value =>
    if isWordList name key then join " " (words value) else value

/-- An open element: what is in it so far, the last thing first. -/
structure Frame where
  tag : Tag
  children : List Tree

namespace Frame

/-- Takes in one more thing. -/
def adopt (f : Frame) (t : Tree) : Frame := { f with children := t :: f.children }

/-- The element, closed. -/
def toTree (f : Frame) : Tree := .element f.tag f.children.reverse

/-- Closes the elements inside the nearest one of a name and that one. Without one of the name
this closes everything but the outermost, so it is asked for only where one is open. -/
def closeTo (name : String) : Frame → List Frame → Frame × List Frame
  | f, [] => (f, [])
  | f, g :: outer =>
    if f.tag.name == name then (g.adopt f.toTree, outer)
    else closeTo name (g.adopt f.toTree) outer

/-- Closes everything. -/
def closeAll : Frame → List Frame → Tree
  | f, [] => f.toTree
  | f, g :: outer => closeAll (g.adopt f.toTree) outer

end Frame

/-- The state of building: the characters of the string being read, if any, the innermost open
element and those around it, and the void elements whose end tag would be passed over. -/
structure Builder where
  pending : Option (List Char) := none
  current : Frame
  outer : List Frame := []
  passedOver : List String := []

namespace Builder

/-- The name of the element that stands for the whole text. -/
def documentName : String := "[document]"

/-- Nothing read yet. -/
def start : Builder := { current := ⟨⟨documentName, Dict.empty⟩, []⟩ }

/-- The open elements, the innermost first. -/
def openNames (b : Builder) : List String :=
  b.current.tag.name :: b.outer.map fun f => f.tag.name

/-- The kind that plain data has here. -/
def dataKind (b : Builder) : StringKind :=
  (b.openNames.findSome? StringKind.ofContainer?).getD .plain

/-- A string of blanks becomes one line feed or one space, unless blanks are kept here. -/
def settle (b : Builder) (characters : List Char) : List Char :=
  if characters.all isPlainBlank && !(b.openNames.any fun n => blankKeepers.contains n) then
    if characters.contains '\n' then ['\n'] else [' ']
  else characters

/-- Ends the string being read. -/
def endString (b : Builder) (kind : Option StringKind) : Builder :=
  match b.pending with
  | none => b
  | some characters =>
    let text := String.ofList (b.settle characters)
    { b with
      pending := none
      current := b.current.adopt (.string (kind.getD b.dataKind) text) }

/-- A string of its own. -/
def addString (b : Builder) (kind : StringKind) (characters : List Char) : Builder :=
  let b := b.endString none
  { b with pending := some characters }.endString (some kind)

/-- Opens an element. -/
def push (b : Builder) (tag : Tag) : Builder :=
  let b := b.endString none
  { b with current := ⟨tag, []⟩, outer := b.current :: b.outer }

/-- Closes the nearest open element of a name, if there is one. -/
def close (b : Builder) (name : String) : Builder :=
  let b := b.endString none
  if b.openNames.contains name && name != documentName then
    let (current, outer) := Frame.closeTo name b.current b.outer
    { b with current, outer }
  else b

/-- An end tag: passed over once for each void element of its name. -/
def finish (b : Builder) (name : String) : Builder :=
  if b.passedOver.contains name then { b with passedOver := b.passedOver.erase name }
  else b.close name

/-- Takes in a token. -/
def step (b : Builder) : Token → Builder
  | .data characters =>
    if characters.isEmpty then b
    else { b with pending := some (b.pending.getD [] ++ characters) }
  | .start name attributes closed =>
    let b := b.push ⟨name, attributesOf name attributes⟩
    if closed then b.close name
    else if voidNames.contains name then
      let b := b.close name
      { b with passedOver := name :: b.passedOver }
    else b
  | .finish name => b.finish name
  | .comment characters => b.addString .comment characters
  | .cdata characters => b.addString .cdata characters
  | .doctype characters => b.addString .doctype characters
  | .instruction characters => b.addString .instruction characters
  | .declaration characters => b.addString .declaration characters

/-- The whole tree. -/
def done (b : Builder) : Tree :=
  let b := b.endString none
  Frame.closeAll b.current b.outer

end Builder

/-- The tree of tokens. -/
def Tree.ofTokens (tokens : List Token) : Tree := (tokens.foldl Builder.step Builder.start).done

/-- The tree of a text: an element that stands for the whole, with the top-level content in it. -/
def Tree.parse (s : String) : Except Fault Tree := (Token.scan s.toList).map Tree.ofTokens

end Componentry.Markup
