import Componentry.Document.Printer
import Componentry.Sum

/-!
# Walks with a stack

A walk can keep what waits on a stack instead of going down a tree by recursion, so that its depth
is no limit. Of the items on the stack the last one is popped, something is done with it, and the
items behind it are pushed one after the other. What is inside a node is pushed from its last member
on and so popped in document order.
-/

set_option autoImplicit false

namespace Componentry

/-- A walk with a stack: what is done with an item that is popped, and what is pushed for it. All
that is pushed together is smaller than the item, so a walk comes to its end. -/
structure StackWalk (σ α : Type) where
  meet : σ → α → σ
  pushed : α → List α
  size : α → Nat
  size_pushed (a : α) : sumOf ((pushed a).map size) < size a

namespace StackWalk
variable {σ α : Type}

/-- Pushes items one after the other; the first of the stack is the one that is popped next. -/
def push (items stack : List α) : List α := items.foldl (fun stack a => a :: stack) stack

/-- Pushed items come off the stack in the reverse of their order. -/
theorem push_eq (items stack : List α) : push items stack = items.reverse ++ stack := by
  induction items generalizing stack with
  | nil => rfl
  | cons a rest ih =>
    rw [push, List.foldl_cons, ← push, ih, List.reverse_cons, List.append_assoc]
    rfl

/-- Pops items until none waits. -/
def run (w : StackWalk σ α) : σ → List α → σ
  | s, [] => s
  | s, a :: stack => w.run (w.meet s a) (push (w.pushed a) stack)
termination_by _ stack => sumOf (stack.map w.size)
decreasing_by
  have smaller := w.size_pushed a
  rw [push_eq, List.map_append, sumOf_append, List.map_reverse, sumOf_reverse,
    List.map_cons, sumOf_cons]
  omega

end StackWalk

namespace Node
open Componentry.Text

/-- The number of nodes of a tree. -/
def extent (n : Node) : Nat := n.preorder.length

/-- The extents of a forest add up to the number of its nodes. -/
theorem sumOf_extent (nodes : List Node) :
    sumOf (nodes.map extent) = (preorderAll nodes).length := by
  induction nodes with
  | nil => rfl
  | cons n rest ih => rw [List.map_cons, sumOf_cons, ih, preorderAll, List.length_append, extent]

/-- The extent of a node is one more than the extents of its children. -/
theorem extent_eq (n : Node) : n.extent = sumOf (n.children.map extent) + 1 := by
  obtain ⟨label, children⟩ := n
  rw [extent, preorder_mk, List.length_cons, sumOf_extent]
  rfl

/-! ## Nodes in document order -/

/-- The walk that lists the nodes it meets. -/
def visiting : StackWalk (List Node) Node where
  meet nodes n := nodes ++ [n]
  pushed n := n.children.reverse
  size := extent
  size_pushed n := by
    rw [List.map_reverse, sumOf_reverse, extent_eq]
    exact Nat.lt_succ_self _

/-- The nodes that a walk from a node meets. -/
def visited (n : Node) : List Node := visiting.run [] [n]

/-- The texts that a walk from a node meets, one after the other. -/
def visitedText (n : Node) : String :=
  concat ((n.visited.filter fun m => m.kind == .text).map textOrNone)

/-! ## Levels of elements -/

/-- The walk that looks for the deepest level. -/
def sounding : StackWalk Nat (Node × Nat) where
  meet deepest item := max deepest item.2
  pushed item := item.1.elementChildren.map fun c => (c, item.2 + 1)
  size item := extent item.1
  size_pushed item := by
    have some_ : ∀ children : List Node,
        sumOf ((children.filter isElement).map extent) ≤ sumOf (children.map extent) := by
      intro children
      induction children with
      | nil => exact Nat.le_refl 0
      | cons c rest ih =>
        rw [List.filter_cons]
        split <;> simp only [List.map_cons, sumOf_cons] <;> omega
    rw [List.map_map, extent_eq]
    exact Nat.lt_succ_of_le (some_ item.1.children)

/-- The deepest level of elements below a node, which stands on level zero itself. -/
def deepestLevel (n : Node) : Nat := sounding.run 0 [(n, 0)]

/-! ## Markup -/

/-- What waits to be written: a node, standing directly in a raw element or not, or the end tag of
one whose content is written. -/
structure Writing where
  node : Node
  closing : Bool := false
  raw : Bool := false

namespace Writing

/-- What is written for an item that is popped. -/
def text : Writing → String
  | ⟨.mk label _, true, _⟩ => endTag label
  | ⟨.mk label _, false, raw⟩ =>
    match label.kind with
    | .text => if raw then label.text.getD "" else Markup.escape (label.text.getD "")
    | .comment => "<!--" ++ label.text.getD "" ++ "-->"
    | .fragment => ""
    | .element => startTag label

/-- What is pushed for an item: the end tag of an element below its content. -/
def pushed : Writing → List Writing
  | ⟨_, true, _⟩ => []
  | ⟨.mk label children, false, _⟩ =>
    match label.kind with
    | .text | .comment => []
    | .fragment => children.reverse.map fun c => { node := c }
    | .element =>
      if isVoid label then []
      else { node := .mk label children, closing := true }
        :: children.reverse.map fun c => { node := c, raw := isRaw label }

/-- An end tag counts once, a node twice, as it may leave an end tag. -/
def size (w : Writing) : Nat := if w.closing then 1 else 2 * w.node.extent

/-- The children of a node, put on the stack to be written, weigh twice their extents. -/
theorem sumOf_size_inside (nodes : List Node) (raw : Bool) :
    sumOf ((nodes.reverse.map fun c => ({ node := c, raw } : Writing)).map size)
      = 2 * sumOf (nodes.map extent) := by
  rw [List.map_reverse, List.map_reverse, sumOf_reverse]
  induction nodes with
  | nil => rfl
  | cons n rest ih =>
    rw [List.map_cons, List.map_cons, sumOf_cons, ih, List.map_cons, sumOf_cons, Nat.mul_add]
    rfl

/-- What a step of the writer puts on the stack weighs less than what it took off. -/
theorem size_pushed : ∀ w : Writing, sumOf (w.pushed.map size) < w.size
  | ⟨_, true, _⟩ => Nat.one_pos
  | ⟨.mk label children, false, raw⟩ => by
    have inside : sumOf (children.map extent) < extent (.mk label children) := by
      rw [extent_eq]
      exact Nat.lt_succ_self _
    have start : size ⟨.mk label children, false, raw⟩ = 2 * extent (.mk label children) := rfl
    rw [pushed, start]
    split
    · exact Nat.mul_pos Nat.two_pos (Nat.zero_lt_of_lt inside)
    · exact Nat.mul_pos Nat.two_pos (Nat.zero_lt_of_lt inside)
    · rw [sumOf_size_inside]
      omega
    · split
      · exact Nat.mul_pos Nat.two_pos (Nat.zero_lt_of_lt inside)
      · rw [List.map_cons, sumOf_cons, sumOf_size_inside, size, if_pos rfl]
        omega

end Writing

/-- The walk that writes markup. -/
def writing : StackWalk String Writing where
  meet markup w := markup ++ w.text
  pushed := Writing.pushed
  size := Writing.size
  size_pushed := Writing.size_pushed

/-- The markup that a walk from a node writes. -/
def written (n : Node) : String := writing.run "" [{ node := n }]

end Node
end Componentry
