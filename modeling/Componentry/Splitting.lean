import Componentry.Splitting.Decision
import Componentry.Containment
import Componentry.Document.Reader

/-!
# Splitting pages into components

The elements of a page are visited in document order, and each one for which there is a reason
becomes a component. Its depth is the number of components around it, and its parent the nearest of
these; below the depth limit no element is visited. Ids and names are given in document order.
-/

set_option autoImplicit false

namespace Componentry
open Componentry.Text

/-- A visit to an element: how many components are around it, the node of the nearest one, and the
decision. -/
structure Visit (α : Type) where
  node : Node
  depth : Nat
  owner : Option String
  decision : Option (Decision α)

/-- An element that becomes a component. -/
structure Extraction (α : Type) where
  node : Node
  depth : Nat
  owner : Option String
  decision : Decision α

namespace Visit
variable {α : Type}

mutual
/-- The visits to an element and those below it. -/
def below (decide : Node → Option (Decision α)) (deepest : Int) (depth : Nat)
    (owner : Option String) : Node → List (Visit α)
  | .mk label children =>
    if label.kind != .element || deepest < depth then []
    else
      let node := Node.mk label children
      match decide node with
      | none => ⟨node, depth, owner, none⟩ :: belowAll decide deepest depth owner children
      | some decision =>
        ⟨node, depth, owner, some decision⟩
          :: belowAll decide deepest (depth + 1) (some label.id) children

/-- The visits to the elements of a list and those below them. -/
def belowAll (decide : Node → Option (Decision α)) (deepest : Int) (depth : Nat)
    (owner : Option String) : List Node → List (Visit α)
  | [] => []
  | n :: rest => below decide deepest depth owner n ++ belowAll decide deepest depth owner rest
end

/-- The visits to the elements of a page. -/
def ofRoot (decide : Node → Option (Decision α)) (deepest : Int) (root : Node) :
    List (Visit α) :=
  if root.isElement then below decide deepest 0 none root
  else belowAll decide deepest 0 none root.elementChildren

/-- The element as one that becomes a component. -/
def extraction? (v : Visit α) : Option (Extraction α) :=
  v.decision.map fun decision => ⟨v.node, v.depth, v.owner, decision⟩

end Visit

namespace Extraction
variable {α : Type} [Score α]

/-- What a name is wanted for. -/
def nameRequest (e : Extraction α) : NameRequest :=
  { node := some e.node, type := e.decision.type, hints := e.decision.hints }

/-- The names of extracted elements, one after the other. -/
def names : Namer → List (Extraction α) → List String
  | _, [] => []
  | namer, e :: rest =>
    let (name, namer) := namer.name e.nameRequest
    name :: names namer rest

/-- The id of the component with a place in the list. -/
def componentId (i : Nat) : String := "component-" ++ natText (i + 1)

/-- The id of the component that a node became. -/
def idOfNode? (all : List (Extraction α)) (nodeId : String) : Option String :=
  (all.findIdx? fun e => e.node.id == nodeId).map componentId

/-- The ids of the components directly inside a node. -/
def idsInside (all : List (Extraction α)) (nodeId : String) : List String :=
  (all.zipIdx.filter fun (e, _) => e.owner == some nodeId).map fun (_, i) => componentId i

/-- The component of an extracted element. -/
def component (all : List (Extraction α)) (e : Extraction α) (name : String) (i : Nat) :
    Component α :=
  let n := e.node
  { id := componentId i
    name
    type := if n.tagOrNone == "" then "div" else n.tagOrNone
    markup := n.write
    depth := e.depth
    classes := n.attributes.classes
    blockClass := n.blockClass?
    role := n.role
    pattern := e.decision.pattern.map Pattern.name
    properties := n.suggestedProperties e.decision.pattern.isSome
    content := n.content (e.decision.reason == .repeatingPattern)
    children := idsInside all n.id
    parentId := e.owner.bind (idOfNode? all)
    confidence := Score.clamp e.decision.confidence
    reason := e.decision.reason
    nodeId := n.id }

/-- The components of extracted elements. -/
def components (namer : Namer) (all : List (Extraction α)) : List (Component α) :=
  ((all.zip (names namer all)).zipIdx).map fun ((e, name), i) => component all e name i

end Extraction

namespace Component
variable {α : Type}

/-- Where a component stands. -/
def contained (c : Component α) : Contained :=
  { id := c.id, children := c.children, depth := c.depth, parentId := c.parentId }

end Component

/-- A page split into components. -/
structure Split (α : Type) where
  components : List (Component α) := []
  patterns : List (Pattern α) := []
  tree : ContainmentTree := {}
  warnings : List String := []

namespace Split
variable {α : Type} [Score α]

/-- The report of an unreadable selector. -/
def unreadableReport (selector : String) (fault : Fault) : String :=
  "Invalid custom component selector '" ++ selector ++ "': " ++ fault.message

/-- The reports of the selectors that cannot be read, each once, up to the first other fault, which
refuses. The selectors found before are given. -/
def complaints : List String → List (CustomSelector × Fault) → List String × Option Fault
  | _, [] => ([], none)
  | found, (s, fault) :: rest =>
    match fault with
    | .invalidSelector _ _ =>
      if found.contains s.text then complaints found rest
      else
        let (reports, refusal) := complaints (s.text :: found) rest
        (unreadableReport s.text fault :: reports, refusal)
    | fault => ([], some fault)

/-- Splits a page from its root. -/
def ofRoot (o : SplitOptions α) (root : Node) : Outcome (Split α) := do
  if !root.isElement && root.elementChildren.isEmpty then return {}
  let patterns := if o.findsPatterns then
    Pattern.detect ⟨o.leastOccurrences, o.threshold⟩ root else []
  let selectors := o.selectors.map CustomSelector.ofText
  let visits := Visit.ofRoot (Decision.of? o selectors patterns) o.deepest root
  let (warnings, refusal) :=
    complaints [] (visits.flatMap fun v => Decision.troubles selectors v.node)
  let _ ← warnings.mapM Outcome.warn
  if let some fault := refusal then Outcome.fail fault
  let components :=
    Extraction.components { convention := o.convention } (visits.filterMap Visit.extraction?)
  let tree ← ContainmentTree.build (components.map Component.contained)
  return { components, patterns, tree, warnings }

/-- Splits a text of markup; a blank one has no components. -/
def ofText (o : SplitOptions α) (markup : Option String) : Outcome (Split α) := do
  match markup with
  | none => return {}
  | some s =>
    if isBlankText s then return {}
    ofRoot o (← Document.read {} s).root

end Split
end Componentry
