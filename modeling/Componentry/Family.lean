import Componentry.Document.Node
import Componentry.Outcome

/-!
# Families of nodes

Nodes are made under an id, and linked one by one: a node holds its children, and knows its parent
without holding it. Making a node under an id that is taken lets go of the old one, which goes on
only as long as another one holds it; a node whose parent is gone has none. As nodes may come to
hold themselves, comparing them need not have an end.
-/

set_option autoImplicit false

namespace Componentry

/-- A node of a family, with the numbers of its children and of its parent. -/
structure Relative where
  id : String
  kind : NodeKind := .element
  tag : Option String := none
  text : Option String := none
  depth : Int := 0
  attributes : Attributes := {}
  children : List Nat := []
  parent : Option Nat := none

/-- A family: all nodes made, by their number, and the numbers behind ids. -/
structure Family where
  members : List Relative := []
  names : Dict Nat := Dict.empty

namespace Relative

/-- Two nodes say the same of themselves. -/
def agrees (a b : Relative) : Bool :=
  a.id == b.id && a.kind == b.kind && a.tag == b.tag && a.text == b.text && a.depth == b.depth
    && a.attributes.identical b.attributes

end Relative

namespace Family

/-- The number behind an id. -/
def number (f : Family) (id : String) : Except Fault Nat :=
  match f.names.get? id with
  | some n => .ok n
  | none => .error (.unknownEntry id)

/-- The node with a number. -/
def member (f : Family) (n : Nat) : Relative := f.members.getD n { id := "" }

/-- The node behind an id. -/
def named (f : Family) (id : String) : Except Fault Relative := (f.number id).map f.member

/-- Makes a node under its id. -/
def make (f : Family) (r : Relative) : Family :=
  { members := f.members ++ [r], names := f.names.put r.id f.members.length }

/-- Changes the node with a number. -/
def change (f : Family) (n : Nat) (g : Relative → Relative) : Family :=
  { f with members := f.members.modify n g }

/-- Gives a node another child, and tells how many it has then. -/
def append (f : Family) (id child : String) : Except Fault (Nat × Family) := do
  let n ← f.number id
  let c ← f.number child
  let f := f.change n fun r => { r with children := r.children ++ [c] }
  return ((f.member n).children.length, f)

/-- Gives a node its parent, which is done once. -/
def setParent (f : Family) (id parent : String) : Except Fault Family := do
  let n ← f.number id
  let p ← f.number parent
  match (f.member n).parent with
  | some _ => .error (.parentAlreadySet (f.member n).id)
  | none => return f.change n fun r => { r with parent := some p }

/-- The nodes among some that an id or one of them holds. -/
def held (f : Family) (among : List Nat) : List Nat :=
  among.filter fun n =>
    f.names.values.contains n || among.any fun m => (f.member m).children.contains n

/-- Lets go of nodes that nothing holds, as often as there are nodes. -/
def heldFor (f : Family) : Nat → List Nat → List Nat
  | 0, among => among
  | rounds + 1, among => heldFor f rounds (f.held among)

/-- The nodes that go on. -/
def kept (f : Family) : List Nat := f.heldFor f.members.length (List.range f.members.length)

/-- The parent of a node, while it goes on. -/
def parent? (f : Family) (id : String) : Except Fault (Option Relative) := do
  let r ← f.named id
  return (r.parent.filter fun p => f.kept.contains p).map f.member

/-- Two lists of nodes are the same, given how two nodes are compared; a node is the same as itself
without that. -/
def sameLists (same : Nat → Nat → Option Bool) : List Nat → List Nat → Option Bool
  | [], [] => some true
  | a :: as, b :: bs =>
    match if a == b then some true else same a b with
    | some true => sameLists same as bs
    | other => other
  | _, _ => some false

/-- Two nodes are the same, with all below them; none where the fuel does not last. -/
def same (f : Family) : Nat → Nat → Nat → Option Bool
  | 0, _, _ => none
  | fuel + 1, a, b =>
    let a := f.member a
    let b := f.member b
    if !a.agrees b || a.children.length != b.children.length then some false
    else sameLists (same f fuel) a.children b.children

/-- Two nodes behind ids are the same. A comparison deeper than there are pairs of nodes comes back
to a pair, and has no end. -/
def equal (f : Family) (id other : String) : Except Fault Bool := do
  let a ← f.number id
  let b ← f.number other
  match f.same (f.members.length * f.members.length + 1) a b with
  | some same => return same
  | none => .error .endlessNesting

/-- The children of a node that are elements. -/
def elementChildren (f : Family) (r : Relative) : List Relative :=
  (r.children.map f.member).filter fun c => c.kind == .element

end Family
end Componentry
