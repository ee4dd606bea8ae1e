import Componentry.Dict
import Componentry.Outcome

/-!
# Containment trees

Components say which others they contain. The links between known components must not lead in a
circle; a circle is found by following links depth-first in the order in which components and links
are listed, and reported with its links. Without one, every component gets the links that start at
it, one container, and the others in that container.
-/

set_option autoImplicit false

namespace Componentry

/-- What a component says of where it stands. -/
structure Contained where
  id : String
  children : List String := []
  depth : Int := 0
  parentId : Option String := none

/-- A component in a tree. -/
structure TreeNode where
  id : String
  depth : Int
  childIds : List String
  parentId : Option String
  siblings : List String

/-- The tree of components. -/
structure ContainmentTree where
  root : String := ""
  nodes : List TreeNode := []
  links : List (String × String) := []

namespace Contained

/-- A component of an id is listed. -/
def knows (l : List Contained) (id : String) : Bool := l.any fun c => c.id == id

/-- The links between listed components, in order. -/
def links (l : List Contained) : List (String × String) :=
  l.flatMap fun c => (c.children.filter (knows l)).map fun child => (c.id, child)

/-- The components that are referred to and not listed, with where. -/
def unknownLinks (l : List Contained) : List (String × String) :=
  l.flatMap fun c => (c.children.filter fun child => !knows l child).map fun child => (c.id, child)

end Contained

namespace Containment

/-- The targets of the links from a component. -/
def targets (links : List (String × String)) (id : String) : List String :=
  (links.filter fun l => l.1 == id).map Prod.snd

/-- The links along a path. -/
def linksAlong : List String → List (String × String)
  | a :: b :: rest => (a, b) :: linksAlong (b :: rest)
  | _ => []

/-- The circle that closes when a path, given with its end first, leads back to one of its
components. -/
def closing (path : List String) (back : String) : List (String × String) :=
  linksAlong (back :: ((path.takeWhile fun v => v != back).reverse ++ [back]))

/-- Follows the links from the end of a path. The result is a circle, or else the components that
lead to none. A path without a circle has no component twice, so it is no longer than the list of
components, which bounds the depth. -/
def follow (links : List (String × String)) :
    Nat → List String → List String → Except (List (String × String)) (List String)
  | 0, _, safe => .ok safe
  | _ + 1, [], safe => .ok safe
  | fuel + 1, v :: path, safe =>
    (targets links v).foldlM (fun safe t =>
      if (v :: path).contains t then .error (closing (v :: path) t)
      else if safe.contains t then .ok safe
      else (follow links fuel (t :: v :: path) safe).map fun safe => t :: safe) safe

/-- The first circle of links among components. -/
def circle? (ids : List String) (links : List (String × String)) :
    Option (List (String × String)) :=
  let search := ids.foldlM (fun safe v =>
    if safe.contains v then .ok safe
    else (follow links ids.length [v] safe).map fun safe => v :: safe) ([] : List String)
  match search with
  | .ok _ => none
  | .error circle => some circle

end Containment

namespace ContainmentTree

/-- The last container that links to a component. -/
def container? (links : List (String × String)) (id : String) : Option String :=
  (links.reverse.find? fun l => l.2 == id).map Prod.fst

/-- A component with the links that start at it, its container, and the others in there. -/
def node (links : List (String × String)) (id : String) (depth : Int) : TreeNode :=
  let parentId := container? links id
  { id, depth, parentId
    childIds := Containment.targets links id
    siblings := match parentId with
      | none => []
      | some parent => (Containment.targets links parent).filter fun i => i != id }

/-- The first of the shallowest components that nothing contains, or else the first one. -/
def rootOf (l : List Contained) (links : List (String × String)) : String :=
  let free := l.filter fun c =>
    !(links.any fun link => link.2 == c.id) && c.parentId.getD "" == ""
  match free with
  | c :: rest => (rest.foldl (fun best d => if d.depth < best.depth then d else best) c).id
  | [] =>
    match l with
    | c :: _ => c.id
    | [] => ""

/-- The report of a reference to a component that is not listed. -/
def unknownReport (link : String × String) : Record :=
  ⟨.warning, "Component " ++ link.1 ++ " references unknown child " ++ link.2 ++ "."⟩

/-- The tree of components; the last one listed of an id gives its depth. -/
def build (l : List Contained) : Outcome ContainmentTree :=
  let links := Contained.links l
  let depths := Dict.ofList (l.map fun c => (c.id, c.depth))
  match Containment.circle? depths.keys links with
  | some circle => .fail (.circularContainment circle)
  | none =>
    ⟨(Contained.unknownLinks l).map unknownReport,
      .ok { root := rootOf l links, links,
            nodes := depths.entries.map fun (id, depth) => node links id depth }⟩

end ContainmentTree
end Componentry
