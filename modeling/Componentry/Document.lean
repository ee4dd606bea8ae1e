import Componentry.Section
import Componentry.Document.Node

/-!
# Documents

A document is the root of the nodes kept of a page, what the page says of itself, and the sections
found in it. The nodes are numbered in the order of the walk from the root.
-/

set_option autoImplicit false

namespace Componentry
open Componentry.Text

/-- What a page says of itself and what its nodes add up to. -/
structure Metadata where
  source : String := ""
  title : Option String := none
  language : Option String := none
  charset : Option String := none
  viewport : Option String := none
  nodeCount : Nat := 0
  maxDepth : Nat := 0
  tags : List String := []
  classes : List String := []
  ids : List String := []

/-- A page that was read. -/
structure Document where
  root : Node
  metadata : Metadata := {}
  sections : List PageSection := []

namespace Document

/-- The nodes in document order. -/
def nodes (d : Document) : List Node := d.root.preorder

/-- The node of an id. -/
def node? (d : Document) (id : String) : Option Node := d.nodes.find? fun n => n.id == id

/-- Every node of a section with the name of its component; of several sections with a node the
last one counts. -/
def componentNames (d : Document) : Dict String :=
  d.sections.foldl (fun names s =>
    s.nodes.foldl (fun names n => names.put n.id s.componentName) names) Dict.empty

/-- The nodes that make up sections. -/
def extractable (d : Document) : List Node := d.sections.map (·.node)

/-- The sections of a kind, given by its word. -/
def sectionsOfKind (d : Document) (kind : String) : List PageSection :=
  d.sections.filter fun s => s.kind.name == kind

/-- The sections that are at least so sure. -/
def sectionsOfConfidence (d : Document) (least : Float) : List PageSection :=
  d.sections.filter fun s => least ≤ s.confidence

/-- The first section that holds a node. -/
def sectionOf? (d : Document) (id : String) : Option PageSection :=
  d.sections.find? fun s => s.holds id

/-- A node makes up a section. -/
def isExtractable (d : Document) (n : Node) : Bool := d.sections.any fun s => s.node.id == n.id

/-- A section with the first other one that holds it and all others it holds. -/
structure Standing where
  subject : PageSection
  parent : Option PageSection
  children : List PageSection

/-- How each section stands to the others. -/
def hierarchy (d : Document) : List Standing :=
  let numbered := d.sections.zipIdx
  numbered.map fun (s, i) =>
    let others := (numbered.filter fun (_, j) => j != i).map Prod.fst
    { subject := s
      parent := others.find? fun o => o.holds s.node.id
      children := others.filter fun o => s.holds o.node.id }

end Document
end Componentry
