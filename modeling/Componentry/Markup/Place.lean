import Componentry.Markup.Tree.Builder

/-!
# Places in a tree

An element together with everything around it: what stands before and after it in its parent, and
the parent's own place. Two places of one tree are the same exactly when their paths are.
-/

set_option autoImplicit false

namespace Componentry.Markup

/-- An element at its place; what stands before it is listed with the nearest first. -/
inductive Place where
  | top (tag : Tag) (children : List Tree)
  | child (parent : Place) (before : List Tree) (tag : Tag) (children : List Tree)
      (after : List Tree)

namespace Place

instance : Inhabited Place := ⟨.top ⟨"", Dict.empty⟩ []⟩

/-- The tag of the element. -/
def tag : Place → Tag
  | .top tag _ => tag
  | .child _ _ tag _ _ => tag

/-- What is in the element. -/
def children : Place → List Tree
  | .top _ children => children
  | .child _ _ _ children _ => children

/-- The place of the element around. -/
def parent? : Place → Option Place
  | .top _ _ => none
  | .child parent _ _ _ _ => some parent

/-- What stands before the element in its parent, the nearest first. -/
def before : Place → List Tree
  | .top _ _ => []
  | .child _ before _ _ _ => before

/-- What stands after the element in its parent. -/
def after : Place → List Tree
  | .top _ _ => []
  | .child _ _ _ _ after => after

/-- The element alone. -/
def toTree (p : Place) : Tree := .element p.tag p.children

/-- The positions of the element and of those around it, the innermost first. -/
def path : Place → List Nat
  | .top _ _ => []
  | .child parent before _ _ _ => before.length :: parent.path

/-- Two places of one tree are the same. -/
def same (p q : Place) : Bool := p.path == q.path

/-- The elements around, the nearest first. -/
def ancestors : Place → List Place
  | .top _ _ => []
  | .child parent _ _ _ _ => parent :: parent.ancestors

/-- The outermost element. -/
def root : Place → Place
  | .top tag children => .top tag children
  | .child parent _ _ _ _ => parent.root

/-- The places of the elements in a list that follows what stands before it. -/
def placesAmong (parent : Place) : List Tree → List Tree → List Place
  | _, [] => []
  | before, .string kind text :: rest => placesAmong parent (.string kind text :: before) rest
  | before, .element tag children :: rest =>
    .child parent before tag children rest
      :: placesAmong parent (.element tag children :: before) rest

/-- The places of the elements directly inside. -/
def inside (p : Place) : List Place := placesAmong p [] p.children

/-- The places of the elements before this one in its parent, the nearest first. -/
def previous : Place → List Place
  | .top _ _ => []
  | .child parent before _ _ _ =>
    ((placesAmong parent [] parent.children).take (before.countP fun t => t.tag?.isSome)).reverse

/-- The places of the elements after this one in its parent, the nearest first. -/
def next : Place → List Place
  | .top _ _ => []
  | .child parent before tag children after =>
    placesAmong parent (.element tag children :: before) after

mutual
/-- The places of the elements of a tree that stands in a parent, the tree itself first; what is in
elements that are not entered is left out. -/
def placesOf (enters : Tag → Bool) (parent : Place) (before after : List Tree) :
    Tree → List Place
  | .string _ _ => []
  | .element tag children =>
    let here := Place.child parent before tag children after
    here :: (if enters tag then placesIn enters here [] children else [])

/-- The places of the elements of the trees of a list. -/
def placesIn (enters : Tag → Bool) (parent : Place) (before : List Tree) : List Tree → List Place
  | [] => []
  | t :: rest =>
    placesOf enters parent before rest t ++ placesIn enters parent (t :: before) rest
end

/-- The places of the elements below, in document order, without what is in elements that are not
entered. -/
def descendantsWhere (enters : Tag → Bool) (p : Place) : List Place :=
  if enters p.tag then placesIn enters p [] p.children else []

/-- The places of all elements below, in document order. -/
def descendants (p : Place) : List Place := p.descendantsWhere fun _ => true

/-- The place of a whole tree. -/
def ofTree : Tree → Option Place
  | .element tag children => some (.top tag children)
  | .string _ _ => none

/-- There are no more places among siblings than siblings. -/
theorem length_placesAmong_le (parent : Place) :
    ∀ before l : List Tree, (placesAmong parent before l).length ≤ l.length
  | _, [] => Nat.le_refl 0
  | before, .string kind text :: rest =>
    Nat.le_succ_of_le (length_placesAmong_le parent (.string kind text :: before) rest)
  | before, .element tag children :: rest =>
    Nat.succ_le_succ (length_placesAmong_le parent (.element tag children :: before) rest)

end Place
end Componentry.Markup
