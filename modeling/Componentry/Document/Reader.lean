import Componentry.Document
import Componentry.Section.Analysis

/-!
# Reading documents

Markup is read into a tree, and the part of the tree that shows is kept: the content of the body,
or of the page without its head. Elements are always kept, comments and blank texts on demand,
other declarations never, and nothing below a depth limit. A single element at the top is the root;
otherwise a fragment is. Kept nodes are numbered as the walk meets them.
-/

set_option autoImplicit false

namespace Componentry
open Componentry.Text Componentry.Markup

/-- How far the reading of a page has come. -/
structure Progress where
  stage : String
  processed : Nat
  total : Nat

/-- What to keep of a page, the rules for its sections, and who is told of the progress: an
observer that fails says why. -/
structure ReadOptions where
  maxDepth : Option Int := none
  keepsBlanks : Bool := false
  keepsComments : Bool := false
  rules : List SectionRule := []
  observer : Option (Progress → Option String) := none

namespace ReadOptions

/-- A tree is kept, leaving its depth aside. -/
def keeps (o : ReadOptions) : Tree → Bool
  | .element _ _ => true
  | .string .comment _ => o.keepsComments
  | .string kind text => kind.isText && (o.keepsBlanks || !isBlankText text)

/-- A depth lies within the limit. -/
def reaches (o : ReadOptions) (depth : Nat) : Bool :=
  match o.maxDepth with
  | none => true
  | some limit => (depth : Int) ≤ limit

end ReadOptions

namespace Node

/-- The id with a number. -/
def numberedId (n : Nat) : String := "node-" ++ natText n

/-- The label of a kept string. -/
def stringLabel (number depth : Nat) (kind : StringKind) (text : String) : Label :=
  { id := numberedId number, kind := if kind == .comment then .comment else .text,
    text := some text, depth }

/-- The label of an element at its place. -/
def elementLabel (number depth : Nat) (place : Place) : Label :=
  { id := numberedId number, kind := .element, tag := some place.tag.name,
    attributes := Attributes.ofTag place.tag, depth, place := some place }

mutual
/-- The node of a tree that stands in a parent, and the next free number. -/
def readOne (o : ReadOptions) (parent : Place) (before after : List Tree) (depth number : Nat) :
    Tree → Option Node × Nat
  | .string kind text =>
    if o.reaches depth && o.keeps (.string kind text) then
      (some (.mk (stringLabel number depth kind text) []), number + 1)
    else (none, number)
  | .element tag children =>
    if o.reaches depth then
      let place := Place.child parent before tag children after
      let (nodes, next) := readAll o place [] (depth + 1) (number + 1) children
      (some (.mk (elementLabel number depth place) nodes), next)
    else (none, number)

/-- The nodes of the trees of a list, and the next free number. -/
def readAll (o : ReadOptions) (parent : Place) (before : List Tree) (depth number : Nat) :
    List Tree → List Node × Nat
  | [] => ([], number)
  | t :: rest =>
    let (node, next) := readOne o parent before rest depth number t
    let (nodes, last) := readAll o parent (t :: before) depth next rest
    (node.toList ++ nodes, last)
end

end Node

namespace Document

/-- A tree within its parent, with what stands before it and after it. -/
structure Slot where
  before : List Tree
  tree : Tree
  after : List Tree

/-- The trees of a list as slots. -/
def slotsFrom : List Tree → List Tree → List Slot
  | _, [] => []
  | before, t :: rest => ⟨before, t, rest⟩ :: slotsFrom (t :: before) rest

/-- The place whose content shows, and that content: all of the body, else the page or the whole
without its head. -/
def shown (top : Place) : Place × List Slot :=
  let inner := top.descendants
  match inner.find? fun p => p.tag.name == "body" with
  | some body => (body, slotsFrom [] body.children)
  | none =>
    let page := (inner.find? fun p => p.tag.name == "html").getD top
    (page, (slotsFrom [] page.children).filter fun s => !s.tree.isNamed "head")

/-- The nodes of slots, and the next free number. -/
def readSlots (o : ReadOptions) (parent : Place) (depth : Nat) : Nat → List Slot → List Node × Nat
  | number, [] => ([], number)
  | number, s :: rest =>
    let (node, next) := Node.readOne o parent s.before s.after depth number s.tree
    let (nodes, last) := readSlots o parent depth next rest
    (node.toList ++ nodes, last)

/-- A fragment of nodes. -/
def fragment (nodes : List Node) : Node := .mk { id := Node.numberedId 0, kind := .fragment } nodes

/-- The root of a page; a depth limit below zero leaves a single element without one. -/
def readRoot? (o : ReadOptions) (top : Place) : Option Node :=
  let (parent, slots) := shown top
  match slots.filter fun s => o.keeps s.tree with
  | [⟨before, .element tag children, after⟩] =>
    (Node.readOne o parent before after 0 0 (.element tag children)).1
  | kept => some (fragment (readSlots o parent 1 1 kept).1)

/-- A text that is not empty. -/
def filled (s : Option String) : Option String := s.filter fun s => s != ""

/-- What a page says of itself. -/
def describe (source : String) (tree : Tree) : Metadata :=
  let value (t : Tree) (name : String) : Option String := t.tag?.bind fun tag => tag.value? name
  { source
    title := filled ((tree.find? fun t => t.isNamed "title").map Tree.text)
    language := filled ((tree.find? fun t => t.isNamed "html").bind fun t => value t "lang")
    charset := filled ((tree.find? fun t => t.isNamed "meta" && (value t "charset").isSome).bind
      fun t => value t "charset")
    viewport := filled ((tree.find? fun t =>
      t.isNamed "meta" && value t "name" == some "viewport").bind fun t => value t "content") }

/-- What the nodes of a page add up to. -/
def tally (m : Metadata) (root : Node) : Metadata :=
  let nodes := root.preorder
  let elements := nodes.filter Node.isElement
  { m with
    nodeCount := nodes.length
    maxDepth := elements.foldl (fun d n => max d n.depth) 0
    tags := sortedDistinct (elements.filterMap fun n => filled n.tag)
    classes := sortedDistinct (elements.flatMap fun n => n.attributes.classes)
    ids := sortedDistinct (elements.filterMap fun n => n.attributes.textOf? "id") }

/-- Tells the observer. -/
def report (o : ReadOptions) (p : Progress) : Outcome Unit :=
  match o.observer.bind fun observe => observe p with
  | none => .ok ()
  | some why => .warn ("Progress callback failed during '" ++ p.stage ++ "': " ++ why)

/-- The document of an empty page: a fragment without content. -/
def blank : Document := { root := fragment [], metadata := { nodeCount := 1 } }

/-- Reads a page. -/
def read (o : ReadOptions) (markup : Option String) : Outcome Document := do
  match markup with
  | none => .fail .noMarkup
  | some markup =>
    let source := trim markup
    if source == "" then return blank
    report o ⟨"parsing", 0, 0⟩
    let tree ← Outcome.ofExcept (Tree.parse source)
    let top := (Place.ofTree tree).getD default
    match readRoot? o top with
    | none =>
      report o ⟨"analyzing", 0, 0⟩
      .fail .noRoot
    | some root =>
      let metadata := tally (describe source tree) root
      let count := metadata.nodeCount
      report o ⟨"analyzing", count, count⟩
      let sections ← PageSection.analyze root o.rules
      report o ⟨"complete", count, count⟩
      return { root, metadata, sections }

/-- The progress that was reported while a page was read. -/
def progress (d : Document) : List Progress :=
  if d.metadata.source == "" then []
  else
    let count := d.metadata.nodeCount
    [⟨"parsing", 0, 0⟩, ⟨"analyzing", count, count⟩, ⟨"complete", count, count⟩]

end Document
end Componentry
