import Componentry.Dict
import Componentry.Text.Blank
import Componentry.Text.Case
import Componentry.Text.Slice

/-!
# Markup trees

A tree of elements and strings. Strings remember what kind of markup they were: plain text, the
text of elements whose content is set apart (scripts, style sheets, templates, ruby annotations),
or a comment, a data section, an instruction, a document type, another declaration. The text of an
element is made of the plain strings and data sections below it; an element whose content is set
apart has the strings of its own kind as its text.
-/

set_option autoImplicit false

namespace Componentry.Markup
open Componentry.Text

/-- The kinds of strings in markup. -/
inductive StringKind where
  | plain
  | script
  | stylesheet
  | template
  | rubyText
  | rubyParenthesis
  | comment
  | cdata
  | instruction
  | doctype
  | declaration
deriving Repr, DecidableEq

namespace StringKind

/-- The kind of the strings directly or indirectly below an element that sets its content apart. -/
def ofContainer? : String → Option StringKind
  | "script" => some .script
  | "style" => some .stylesheet
  | "template" => some .template
  | "rt" => some .rubyText
  | "rp" => some .rubyParenthesis
  | _ => none

/-- Strings that are text of the page, set apart or not. -/
def isText : StringKind → Bool
  | .plain | .script | .stylesheet | .template | .rubyText | .rubyParenthesis => true
  | .comment | .cdata | .instruction | .doctype | .declaration => false

end StringKind

/-- The name and the attributes of an element. -/
structure Tag where
  name : String
  attributes : Dict String

/-- The value of an attribute. -/
def Tag.value? (t : Tag) (name : String) : Option String := t.attributes.get? name

/-- The class names of an element. -/
def Tag.classes (t : Tag) : List String := words ((t.value? "class").getD "")

/-- An element with what is in it, or a string. -/
inductive Tree where
  | element (tag : Tag) (children : List Tree)
  | string (kind : StringKind) (text : String)

namespace Tree

instance : Inhabited Tree := ⟨.string .plain ""⟩

/-- The tag of an element. -/
def tag? : Tree → Option Tag
  | .element tag _ => some tag
  | .string _ _ => none

/-- What is in an element. -/
def children : Tree → List Tree
  | .element _ children => children
  | .string _ _ => []

/-- An element of a name. -/
def isNamed (name : String) (t : Tree) : Bool :=
  match t with
  | .element tag _ => tag.name == name
  | .string _ _ => false

mutual
/-- The elements of a tree in document order, the tree itself first. -/
def elements : Tree → List Tree
  | .element tag children => .element tag children :: elementsIn children
  | .string _ _ => []

/-- The elements of the trees of a list, in document order. -/
def elementsIn : List Tree → List Tree
  | [] => []
  | t :: rest => elements t ++ elementsIn rest
end

mutual
/-- The strings of some kinds in a tree, in document order. -/
def strings (wanted : StringKind → Bool) : Tree → List String
  | .element _ children => stringsIn wanted children
  | .string kind text => if wanted kind then [text] else []

/-- The strings of some kinds in the trees of a list. -/
def stringsIn (wanted : StringKind → Bool) : List Tree → List String
  | [] => []
  | t :: rest => strings wanted t ++ stringsIn wanted rest
end

/-- The kinds of strings that are the text of an element of a name. -/
def textKinds (name : String) (kind : StringKind) : Bool :=
  match StringKind.ofContainer? name with
  | some own => kind == own
  | none => kind == .plain || kind == .cdata

/-- The text of an element. -/
def text (t : Tree) : String :=
  match t with
  | .element tag children => concat (stringsIn (textKinds tag.name) children)
  | .string _ s => s

/-- The text of an element with every string of it trimmed. -/
def trimmedText (t : Tree) : String :=
  match t with
  | .element tag children => concat ((stringsIn (textKinds tag.name) children).map trim)
  | .string _ s => trim s

/-- The first element below a tree that a test holds of. -/
def find? (t : Tree) (p : Tree → Bool) : Option Tree := (elementsIn t.children).find? p

end Tree
end Componentry.Markup
