import Componentry.Document.Reader
import Componentry.Operation

/-!
# Page readers

A reader is used for one page after the other. It keeps the number of the next id, the rules for the
sections of the last page, and the selectors among them that could not be read. A page starts these
anew where it comes to them: the numbers as soon as there is markup, the rules when the nodes have
been read.
-/

set_option autoImplicit false

namespace Componentry
open Componentry.Text Componentry.Markup Componentry.Document

/-- A reader of pages, with what the last page left. -/
structure PageReader where
  next : Nat := 0
  rules : List SectionRule := []
  unreadable : PageSection.Unreadable := []

namespace PageReader

/-- The next number. -/
def number : Operation PageReader Nat := .take fun r => (r.next, { r with next := r.next + 1 })

/-- Reads the tree in a slot; its nodes take the next numbers. -/
def slot (o : ReadOptions) (parent : Place) (depth : Nat) (s : Slot) :
    Operation PageReader (Option Node) :=
  .take fun r =>
    let (node, next) := Node.readOne o parent s.before s.after depth r.next s.tree
    (node, { r with next })

/-- Reads the trees in slots. -/
def slots (o : ReadOptions) (parent : Place) (depth : Nat) :
    List Slot → Operation PageReader (List Node)
  | [] => return []
  | s :: rest => do
    let node ← slot o parent depth s
    let nodes ← slots o parent depth rest
    return node.toList ++ nodes

/-- A new fragment of nodes that are read after it was numbered. -/
def fragment (nodes : Operation PageReader (List Node)) : Operation PageReader Node := do
  let number ← number
  let nodes ← nodes
  return .mk { id := Node.numberedId number, kind := .fragment } nodes

/-- Reads the root of a page. -/
def root? (o : ReadOptions) (top : Place) : Operation PageReader (Option Node) :=
  let (parent, found) := shown top
  match found.filter fun s => o.keeps s.tree with
  | [⟨before, .element tag children, after⟩] =>
    slot o parent 0 ⟨before, .element tag children, after⟩
  | kept => return some (← fragment (slots o parent 1 kept))

/-- Takes the rules for a page, with no selector found unreadable yet. -/
def start (rules : List SectionRule) : Operation PageReader Unit :=
  .change fun r => { r with rules, unreadable := [] }

/-- Finds the candidates for sections with the rules taken. -/
def candidates (root : Node) : Operation PageReader (List PageSection) :=
  .find fun r =>
    let (unreadable, found) := PageSection.candidates r.rules r.unreadable root.elements
    (⟨unreadable.map fun u => PageSection.unreadableReport u.2, found⟩, { r with unreadable })

/-- Finds the sections of a page. -/
def sections (root : Node) (rules : List SectionRule) :
    Operation PageReader (List PageSection) := do
  start rules
  return PageSection.outermost (← candidates root)

/-- Reads a page. -/
def read (o : ReadOptions) (markup : Option String) : Operation PageReader Document := do
  match markup with
  | none => .ofOutcome (.fail .noMarkup)
  | some markup =>
    let source := trim markup
    .change fun r => { r with next := 0 }
    if source == "" then
      return { root := ← fragment (return []), metadata := { nodeCount := 1 } }
    .ofOutcome (report o ⟨"parsing", 0, 0⟩)
    let tree ← Operation.ofOutcome (.ofExcept (Tree.parse source))
    let top := (Place.ofTree tree).getD default
    match ← root? o top with
    | none =>
      .ofOutcome (report o ⟨"analyzing", 0, 0⟩)
      start o.rules
      .ofOutcome (.fail .noRoot)
    | some root =>
      let metadata := tally (describe source tree) root
      let count := metadata.nodeCount
      .ofOutcome (report o ⟨"analyzing", count, count⟩)
      let sections ← sections root o.rules
      .ofOutcome (report o ⟨"complete", count, count⟩)
      return { root, metadata, sections }

end PageReader
end Componentry
