import Componentry.Document.Traversal

/-!
# Walks with a stack and recursion

A stack is no more than a list of what recursion would come to next. If what is done for an item and
all behind it is what is done with the item and then, one after the other, for the items behind it,
a walk does the same for the items of its stack. So the nodes of a walk come in the order of the
recursion, with the same texts, levels and markup.
-/

set_option autoImplicit false

namespace Componentry

namespace StackWalk
variable {σ α : Type}

/-- A walk does for a stack, from its first item on, what recursion does for each item. -/
theorem run_eq_foldl (w : StackWalk σ α) {whole : σ → α → σ}
    (recursive : ∀ s a, whole s a = (w.pushed a).reverse.foldl whole (w.meet s a)) (s : σ)
    (stack : List α) : w.run s stack = stack.foldl whole s := by
  induction s, stack using run.induct w with
  | case1 s => rw [run, List.foldl_nil]
  | case2 s a stack ih => rw [run, ih, push_eq, List.foldl_append, ← recursive, List.foldl_cons]

end StackWalk

namespace Node

/-- The nodes met one tree after another are those of the forest. -/
theorem foldl_preorder (met nodes : List Node) :
    nodes.foldl (fun met n => met ++ n.preorder) met = met ++ preorderAll nodes := by
  induction nodes generalizing met with
  | nil => rw [List.foldl_nil, preorderAll, List.append_nil]
  | cons n rest ih => rw [List.foldl_cons, ih, preorderAll, List.append_assoc]

/-- A walk meets the nodes in document order. -/
theorem visited_eq (n : Node) : n.visited = n.preorder := by
  have recursive (met : List Node) (n : Node) : met ++ n.preorder =
      (visiting.pushed n).reverse.foldl (fun met n => met ++ n.preorder) (visiting.meet met n) := by
    obtain ⟨label, children⟩ := n
    have inside : (visiting.pushed (mk label children)).reverse = children :=
      List.reverse_reverse _
    rw [inside, foldl_preorder, preorder_mk, List.append_cons]
    rfl
  rw [visited, StackWalk.run_eq_foldl _ recursive]
  exact List.nil_append _

/-- The text that is gathered on the way is that of the nodes. -/
theorem visitedText_eq (n : Node) : n.visitedText = n.textContent := by
  rw [visitedText, visited_eq, textContent]

/-! ## Levels of elements -/

/-- The nesting among nodes is one more than that of the deepest element among them. -/
theorem nestingAmong_eq (nodes : List Node) :
    nestingAmong nodes = ((nodes.filter isElement).map fun c => c.nesting + 1).foldr max 0 := by
  induction nodes with
  | nil => rfl
  | cons n rest ih =>
    rw [nestingAmong, ih, List.filter_cons]
    split
    · rfl
    · exact Nat.zero_max _

/-- The levels below a node are those of its tallest element, and its own. -/
theorem nesting_eq (n : Node) :
    n.nesting = (n.elementChildren.map fun c => c.nesting + 1).foldr max 0 := by
  obtain ⟨label, children⟩ := n
  rw [nesting, nestingAmong_eq]
  rfl

/-- A walk finds the deepest level, in whatever order it meets the elements. -/
theorem deepestLevel_eq (n : Node) : n.deepestLevel = n.nesting := by
  have recursive (deepest : Nat) (item : Node × Nat) : max deepest (item.2 + item.1.nesting) =
      (sounding.pushed item).reverse.foldl
        (fun deepest item => max deepest (item.2 + item.1.nesting))
        (sounding.meet deepest item) := by
    obtain ⟨n, level⟩ := item
    show max deepest (level + n.nesting) =
      (n.elementChildren.map fun c => (c, level + 1)).reverse.foldl _ (max deepest level)
    rw [List.foldl_reverse, nesting_eq]
    induction n.elementChildren with
    | nil => rfl
    | cons c rest ih =>
      simp only [List.map_cons, List.foldr_cons] at ih ⊢
      rw [← ih]
      omega
  rw [deepestLevel, StackWalk.run_eq_foldl _ recursive, List.foldl_cons, List.foldl_nil,
    Nat.zero_max, Nat.zero_add]

/-! ## Markup -/

namespace Writing

/-- The markup of an item and all inside it. -/
def whole (w : Writing) : String :=
  if w.closing then endTag w.node.label else writeIn w.raw w.node

/-- Markup with that of an item and all inside it. -/
def append (markup : String) (w : Writing) : String := markup ++ w.whole

/-- The children on the stack are written in their order. -/
theorem foldl_inside (markup : String) (raw : Bool) (nodes : List Node) :
    (nodes.reverse.map fun c => ({ node := c, raw } : Writing)).reverse.foldl append markup =
      markup ++ writeAllIn raw nodes := by
  rw [List.map_reverse, List.reverse_reverse]
  induction nodes generalizing markup with
  | nil => rw [List.map_nil, List.foldl_nil, writeAllIn, String.append_empty]
  | cons n rest ih =>
    rw [List.map_cons, List.foldl_cons, ih, writeAllIn, append, String.append_assoc]
    rfl

/-- The markup of an item is what is written for it and then that of the items behind it. -/
theorem append_eq_foldl (markup : String) : ∀ w : Writing,
    append markup w = w.pushed.reverse.foldl append (markup ++ w.text)
  | ⟨.mk label children, true, raw⟩ => rfl
  | ⟨.mk label children, false, raw⟩ => by
    have start : append markup ⟨.mk label children, false, raw⟩ =
        markup ++ writeIn raw (.mk label children) := rfl
    rw [start, writeIn, pushed, text]
    cases label.kind with
    | text => rfl
    | comment => rfl
    | fragment =>
      dsimp only
      rw [foldl_inside, String.append_empty]
    | element =>
      dsimp only
      split
      · rfl
      · rw [List.reverse_cons, List.foldl_append, foldl_inside, ← String.append_assoc,
          ← String.append_assoc]
        rfl

end Writing

/-- A walk writes the markup of a node. -/
theorem written_eq (n : Node) : n.written = n.write := by
  rw [written, StackWalk.run_eq_foldl _ Writing.append_eq_foldl]
  exact String.empty_append

/-- Walks with a stack come to what recursion comes to: the nodes of a tree in document order, their
texts in that order, the levels of elements below elements, and the markup. -/
theorem stack_walks_are_recursive (n : Node) :
    n.visited = n.preorder ∧ n.visitedText = n.textContent ∧
      (n.deepestLevel = n.nesting ∧
        n.nesting = (n.elementChildren.map fun c => c.nesting + 1).foldr max 0) ∧
      n.written = n.write :=
  ⟨visited_eq n, visitedText_eq n, ⟨deepestLevel_eq n, nesting_eq n⟩, written_eq n⟩

end Node
end Componentry
