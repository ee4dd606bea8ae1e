import Componentry.Document.PageReader
import Componentry.Splitting

/-!
# Splitters

A splitter is used for one page after the other. It keeps its page reader and its giver of names,
and of the last page how many components there were, the components by their ids, the warnings, and
the selectors that could not be read. Every page starts these anew, but for the reader, which does
so itself. The elements of a page are visited in document order, each id once; a component that is
found is entered at once into the one that it stands in.
-/

set_option autoImplicit false

namespace Componentry
open Componentry.Text

/-- A component with one more inside it. -/
def Component.hold {α : Type} (id : String) (c : Component α) : Component α :=
  { c with children := c.children ++ [id] }

/-- What finds components, with what the last page left. -/
structure Extractor (α : Type) where
  options : SplitOptions α
  detection : PatternOptions α
  namer : Namer
  count : Nat := 0
  extracted : Dict (Component α) := Dict.empty
  warnings : List String := []
  unreadable : List String := []

namespace Extractor
variable {α : Type}

/-- One with options, that has seen no page. -/
def ofOptions (o : SplitOptions α) : Extractor α :=
  { options := o, detection := ⟨o.leastOccurrences, o.threshold⟩
    namer := { convention := o.convention } }

/-- Forgets what the last page left. -/
def reset (x : Extractor α) : Extractor α :=
  { options := x.options, detection := x.detection, namer := x.namer.forget }

/-- Notes a selector that cannot be read. -/
def note (selector : String) (fault : Fault) (x : Extractor α) : Extractor α :=
  { x with
    warnings := x.warnings ++ [Split.unreadableReport selector fault]
    unreadable := selector :: x.unreadable }

end Extractor

/-- A way through a page: what finds components, the ids met so far, and the names and ids of the
components found so far. -/
structure Extracting (α : Type) extends Extractor α where
  visited : List String := []
  names : List String := []
  components : List String := []

namespace Extracting
variable {α : Type} [Score α]

/-- Whether a selector of the user means an element. One that could not be read is not asked
again. -/
def selects (n : Node) (selector : String) : Operation (Extracting α) Bool := do
  if (← .kept).unreadable.contains selector then return false
  match n.isSelectedBy selector with
  | .ok answer => return answer
  | .error (.invalidSelector text mistake) =>
    let fault := Fault.invalidSelector text mistake
    .change fun p => { p with toExtractor := p.toExtractor.note selector fault }
    .ofOutcome (.warn (Split.unreadableReport selector fault))
    return false
  | .error fault => .ofOutcome (.fail fault)

/-- Whether a selector of a list means an element; those behind it are not asked. -/
def selectsAny (n : Node) : List String → Operation (Extracting α) Bool
  | [] => return false
  | s :: rest => do if ← selects n s then return true else selectsAny n rest

/-- The decision on an element. The user's selectors are asked only about elements that mean nothing
by themselves. -/
def decide (patterns : List (Pattern α)) (n : Node) :
    Operation (Extracting α) (Option (Decision α)) := do
  let o := (← .kept).options
  if Node.semanticTags.contains n.tagOrNone then return Decision.of? o [] patterns n
  if ← selectsAny n o.selectors then
    return some { confidence := Score.ratio 9 10, reason := .customSelector }
  return Decision.of? o [] patterns n

/-- Enters a component into the one that it stands in. -/
def enter (id : String) (owner : Option String) (extracted : Dict (Component α)) :
    Dict (Component α) :=
  match owner.bind fun owner => (extracted.get? owner).map fun c => (owner, c) with
  | some (owner, c) => extracted.put owner (c.hold id)
  | none => extracted

/-- Makes a component of an element, and gives its id. -/
def extract (n : Node) (depth : Nat) (owner : Option String) (decision : Decision α) :
    Operation (Extracting α) String :=
  .take fun p =>
    let e : Extraction α := { node := n, depth, owner := none, decision }
    let (name, namer) := p.namer.name { e.nameRequest with existing := p.names }
    let component := { Extraction.component [] e name p.count with parentId := owner }
    (component.id, { p with
      namer
      count := p.count + 1
      extracted := enter component.id owner (p.extracted.put component.id component)
      names := p.names ++ [name]
      components := p.components ++ [component.id] })

/-- Meets an element that so many components are around, and gives the same for what is inside it.
Below the limit nothing is decided. -/
def meet (patterns : List (Pattern α)) (depth : Nat) (owner : Option String) (n : Node) :
    Operation (Extracting α) (Nat × Option String) := do
  .change fun p => { p with visited := p.visited ++ [n.id] }
  if (← .kept).options.deepest < depth then return (depth, owner)
  match ← decide patterns n with
  | none => return (depth, owner)
  | some decision => return (depth + 1, some (← extract n depth owner decision))

mutual
/-- Visits an element that was not visited before, and those below it. -/
def visit (patterns : List (Pattern α)) (depth : Nat) (owner : Option String) :
    Node → Operation (Extracting α) Unit
  | .mk label children => do
    if label.kind != .element || (← .kept).visited.contains label.id then return ()
    let (depth, owner) ← meet patterns depth owner (.mk label children)
    visitAll patterns depth owner children

/-- Visits the elements of a list and those below them. -/
def visitAll (patterns : List (Pattern α)) (depth : Nat) (owner : Option String) :
    List Node → Operation (Extracting α) Unit
  | [] => return ()
  | n :: rest => do
    visit patterns depth owner n
    visitAll patterns depth owner rest
end

/-- Visits the elements of a page. -/
def page (patterns : List (Pattern α)) (root : Node) : Operation (Extracting α) Unit :=
  if root.isElement then visit patterns 0 none root
  else do
    .change fun p => { p with visited := p.visited ++ [root.id] }
    visitAll patterns 0 none root.children

/-- The components of a page. -/
def componentsOf (patterns : List (Pattern α)) (root : Node) :
    Operation (Extracting α) (List (Component α)) := do
  page patterns root
  let p ← .kept
  return p.components.filterMap p.extracted.get?

end Extracting

namespace Extractor
variable {α : Type} [Score α]

/-- Splits a page from its root. -/
def split (root : Node) : Operation (Extractor α) (Split α) := do
  let x ← .kept
  if !root.isElement && root.elementChildren.isEmpty then return {}
  let patterns := if x.options.findsPatterns then Pattern.detect x.detection root else []
  let components ← (Extracting.componentsOf patterns root).within
    (fun x => { toExtractor := x }) fun p _ => p.toExtractor
  let tree ← Operation.ofOutcome (ContainmentTree.build (components.map Component.contained))
  return { components, patterns, tree, warnings := (← .kept).warnings }

end Extractor

/-- What is split: a text of markup, or a page that was read. -/
inductive SplitSource where
  | text (markup : Option String)
  | page (d : Document)

/-- A splitter: what finds components, and a reader for texts. -/
structure Splitter (α : Type) extends Extractor α where
  reader : PageReader := {}

namespace Splitter
variable {α : Type}

/-- A new splitter with options. -/
def ofOptions (o : SplitOptions α) : Splitter α := { toExtractor := .ofOptions o }

/-- A new splitter with the options of another one. -/
def asNew (s : Splitter α) : Splitter α := { toExtractor := s.toExtractor.reset }

variable [Score α]

/-- Splits a page from its root. -/
def splitRoot (root : Node) : Operation (Splitter α) (Split α) :=
  (Extractor.split root).within toExtractor fun x s => { s with toExtractor := x }

/-- Splits a text or a page; a blank text has no components. -/
def split (source : SplitSource) : Operation (Splitter α) (Split α) := do
  .change fun s => { s with toExtractor := s.toExtractor.reset }
  match source with
  | .page d => splitRoot d.root
  | .text none => return {}
  | .text (some markup) =>
    if isBlankText markup then return {}
    let d ← (PageReader.read {} (some markup)).within reader fun r s => { s with reader := r }
    splitRoot d.root

end Splitter
end Componentry
