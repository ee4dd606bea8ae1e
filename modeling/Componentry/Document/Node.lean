import Componentry.Attributes.Extract
import Componentry.Markup.Place

/-!
# Nodes of a document

A node is an element, a text, a comment or a fragment, with an id and its depth; the nodes inside
it follow in document order. All walks go in that order: a node first, then what is inside it.
-/

set_option autoImplicit false

namespace Componentry
open Componentry.Text Componentry.Markup

/-- What a node stands for. -/
inductive NodeKind where
  | element
  | text
  | comment
  | fragment
deriving Repr, DecidableEq

namespace NodeKind

/-- The word for a kind. -/
def name : NodeKind → String
  | .element => "element"
  | .text => "text"
  | .comment => "comment"
  | .fragment => "fragment"

/-- The kind of a word. -/
def ofName? : String → Option NodeKind
  | "element" => some .element
  | "text" => some .text
  | "comment" => some .comment
  | "fragment" => some .fragment
  | _ => none

end NodeKind

/-- What a node says of itself. An element read from markup knows its place there. -/
structure Label where
  id : String
  kind : NodeKind
  tag : Option String := none
  attributes : Attributes := {}
  text : Option String := none
  depth : Nat := 0
  place : Option Place := none

/-- A node with the nodes inside it. -/
inductive Node where
  | mk (label : Label) (children : List Node)

namespace Node

instance : Inhabited Node := ⟨.mk { id := "", kind := .fragment } []⟩

def label : Node → Label
  | .mk label _ => label

def children : Node → List Node
  | .mk _ children => children

def id (n : Node) : String := n.label.id
def kind (n : Node) : NodeKind := n.label.kind
def tag (n : Node) : Option String := n.label.tag
def attributes (n : Node) : Attributes := n.label.attributes
def depth (n : Node) : Nat := n.label.depth

/-- The text of a node, nothing where it has none. -/
def textOrNone (n : Node) : String := n.label.text.getD ""

/-- The name of an element, nothing where it has none. -/
def tagOrNone (n : Node) : String := n.label.tag.getD ""

/-- The name of an element as it is written out. -/
def shownTag (n : Node) : String := n.label.tag.getD "None"

def isElement (n : Node) : Bool := n.kind == .element

/-- The elements directly inside. -/
def elementChildren (n : Node) : List Node := n.children.filter isElement

mutual
/-- The node and all nodes below it in document order. -/
def preorder : Node → List Node
  | .mk label children => .mk label children :: preorderAll children

/-- The nodes of a list, each followed by those below it. -/
def preorderAll : List Node → List Node
  | [] => []
  | n :: rest => preorder n ++ preorderAll rest
end

mutual
/-- The number of levels of elements below a node. -/
def nesting : Node → Nat
  | .mk _ children => nestingAmong children

/-- The number of levels of elements that nodes add below their parent. -/
def nestingAmong : List Node → Nat
  | [] => 0
  | n :: rest => max (if n.isElement then nesting n + 1 else 0) (nestingAmong rest)
end

/-- The elements of a node in document order, itself first if it is one. -/
def elements (n : Node) : List Node := n.preorder.filter isElement

/-- The elements below a node, the node itself left out. -/
def innerElements (n : Node) : List Node := (preorderAll n.children).filter isElement

/-- The texts of a node and all below it, one after the other. -/
def textContent (n : Node) : String :=
  concat ((n.preorder.filter fun m => m.kind == .text).map textOrNone)

/-- The ids of a node and all below it. -/
def ids (n : Node) : List String := n.preorder.map id

/-- The pairs of a node and one directly inside it, in document order. -/
def links (n : Node) : List (Node × Node) :=
  n.preorder.flatMap fun m => m.children.map fun c => (m, c)

/-- The id of the node that another stands in. -/
def parentId? (root : Node) (id : String) : Option String :=
  (root.links.find? fun (_, c) => c.id == id).map fun (m, _) => m.id

/-- A node stands before its descendants, which follow in the order of the page. -/
theorem preorder_mk (label : Label) (children : List Node) :
    preorder (.mk label children) = .mk label children :: preorderAll children := by
  rw [preorder]

/-- The nodes of two forests in a row are those of the first, then those of the second. -/
theorem preorderAll_append (l m : List Node) :
    preorderAll (l ++ m) = preorderAll l ++ preorderAll m := by
  induction l with
  | nil => rfl
  | cons n rest ih => rw [List.cons_append, preorderAll, preorderAll, ih, List.append_assoc]

/-- A walk starts with the node itself. -/
theorem mem_preorder_self (n : Node) : n ∈ n.preorder := by
  cases n
  rw [preorder]
  exact List.mem_cons_self

end Node
end Componentry
