import Componentry.Document.Reader
import Componentry.Proofs.Document.Walk
import Componentry.Proofs.Text.Numeral
import Mathlib.Data.List.Nodup

/-!
# Numbers and depths of nodes

Reading hands out one number after the other to the nodes that are kept, in the order of the walk,
and nothing to what is left out. A node lies one level below the node it stands in, and within the
depth limit.
-/

set_option autoImplicit false

namespace Componentry.Node
open Componentry.Text Componentry.Markup

/-- Ids tell their numbers apart. -/
theorem numberedId_inj {m n : Nat} : numberedId m = numberedId n ↔ m = n := by
  rw [numberedId, numberedId, String.append_right_inj, natText_inj]

/-- The nodes that are met from a list have the numbers from one number up to the next free one. -/
structure IsNumbered (number next : Nat) (l : List Node) : Prop where
  le : number ≤ next
  ids : (preorderAll l).map id = (List.range' number (next - number)).map numberedId

/-- Nothing takes no number. -/
theorem IsNumbered.nil (number : Nat) : IsNumbered number number [] := by
  refine ⟨Nat.le_refl _, ?_⟩
  rw [preorderAll_nil, Nat.sub_self, List.range'_zero]
  rfl

/-- Two forests in a row, the second numbered from where the first stopped. -/
theorem IsNumbered.append {a b c : Nat} {l m : List Node} (first : IsNumbered a b l)
    (second : IsNumbered b c m) : IsNumbered a c (l ++ m) := by
  obtain ⟨ab, ids⟩ := first
  obtain ⟨bc, more⟩ := second
  refine ⟨Nat.le_trans ab bc, ?_⟩
  have split : c - a = (b - a) + (c - b) := by omega
  rw [preorderAll_append, List.map_append, ids, more, ← List.map_append, split,
    ← List.range'_append_1, Nat.add_sub_cancel' ab]

/-- A node takes the first number and its descendants the next ones. -/
theorem IsNumbered.node {number next : Nat} {label : Label} {children : List Node}
    (here : label.id = numberedId number) (below : IsNumbered (number + 1) next children) :
    IsNumbered number next [.mk label children] := by
  obtain ⟨le, ids⟩ := below
  refine ⟨Nat.le_of_succ_le le, ?_⟩
  have split : next - number = (next - (number + 1)) + 1 := by omega
  rw [preorderAll_cons, preorderAll_nil, List.append_nil, preorder_mk, List.map_cons, ids, split,
    List.range'_succ, List.map_cons, ← here]
  rfl

/-- A numbered forest takes one number for each node. -/
theorem IsNumbered.length {number next : Nat} {l : List Node} (h : IsNumbered number next l) :
    (preorderAll l).length = next - number := by
  rw [← List.length_map id, h.ids, List.length_map, List.length_range']

/-- No two of the nodes have one id. -/
theorem IsNumbered.nodup {number next : Nat} {l : List Node} (h : IsNumbered number next l) :
    ((preorderAll l).map id).Nodup := by
  rw [h.ids]
  exact List.Nodup.map (fun _ _ => numberedId_inj.1) List.nodup_range'

/-- The number of a node that is met is one of those handed out. -/
theorem IsNumbered.exists_number {number next : Nat} {l : List Node} (h : IsNumbered number next l)
    {n : Node} (hn : n ∈ preorderAll l) :
    ∃ k, number ≤ k ∧ k < next ∧ n.id = numberedId k := by
  have mem : n.id ∈ (List.range' number (next - number)).map numberedId :=
    h.ids ▸ List.mem_map_of_mem hn
  obtain ⟨k, hk, eq⟩ := List.mem_map.1 mem
  rw [List.mem_range'_1] at hk
  exact ⟨k, hk.1, by omega, eq.symm⟩

mutual
/-- The nodes of a tree are numbered in pre-order from the number it was handed. -/
theorem isNumbered_readOne (o : ReadOptions) (parent : Place) (before after : List Tree)
    (depth number : Nat) : ∀ t : Tree,
    IsNumbered number (readOne o parent before after depth number t).2
      (readOne o parent before after depth number t).1.toList
  | .string kind text => by
    rw [readOne]
    split
    · exact .node rfl (.nil _)
    · exact .nil number
  | .element tag children => by
    rw [readOne]
    split
    · exact .node rfl (isNumbered_readAll o _ [] (depth + 1) (number + 1) children)
    · exact .nil number

/-- The nodes of a list of trees are numbered in pre-order. -/
theorem isNumbered_readAll (o : ReadOptions) (parent : Place) (before : List Tree)
    (depth number : Nat) : ∀ l : List Tree,
    IsNumbered number (readAll o parent before depth number l).2
      (readAll o parent before depth number l).1
  | [] => by
    rw [readAll]
    exact .nil number
  | t :: rest => by
    rw [readAll]
    exact (isNumbered_readOne o parent before rest depth number t).append
      (isNumbered_readAll o parent (t :: before) depth _ rest)
end

/-! ## Depths -/

/-- A node lies at a depth within the limit, and every node below it one level below the node it
stands in. -/
inductive IsLeveled (o : ReadOptions) : Nat → Node → Prop where
  | mk {depth : Nat} {label : Label} {children : List Node} (here : label.depth = depth)
      (within : o.reaches depth = true) (below : ∀ c ∈ children, IsLeveled o (depth + 1) c) :
      IsLeveled o depth (.mk label children)

variable {o : ReadOptions} {depth : Nat} {n m c : Node}

/-- The depth of a leveled node is the one it was asked for. -/
theorem IsLeveled.depth_eq (h : IsLeveled o depth n) : n.depth = depth := by
  cases h with
  | mk here _ _ => exact here

/-- A leveled node is within the limit. -/
theorem IsLeveled.reaches (h : IsLeveled o depth n) : o.reaches n.depth = true := by
  rw [h.depth_eq]
  cases h with
  | mk _ within _ => exact within

/-- The children of a leveled node are leveled one deeper. -/
theorem IsLeveled.of_mem_children (h : IsLeveled o depth n) (hc : c ∈ n.children) :
    IsLeveled o (depth + 1) c := by
  cases h with
  | mk _ _ below => exact below c hc

/-- All nodes that are met from such a node are such nodes. -/
theorem IsLeveled.of_mem_preorder (h : IsLeveled o depth n) (hm : m ∈ n.preorder) :
    IsLeveled o m.depth m := by
  induction h with
  | @mk depth label children here within below ih =>
    rw [preorder_mk] at hm
    rcases List.mem_cons.1 hm with rfl | hm
    · have level : Node.depth (.mk label children) = depth := here
      rw [level]
      exact .mk here within below
    · obtain ⟨c, hc, hm⟩ := mem_preorderAll.1 hm
      exact ih c hc hm

/-- A child lies one level below the node that lists it. -/
theorem IsLeveled.depth_of_mem_children (h : IsLeveled o depth n) (hm : m ∈ n.preorder)
    (hc : c ∈ m.children) : c.depth = m.depth + 1 :=
  ((h.of_mem_preorder hm).of_mem_children hc).depth_eq

/-- What is below a node lies deeper. -/
theorem IsLeveled.depth_lt (h : IsLeveled o depth n) (hm : m ∈ preorderAll n.children) :
    n.depth < m.depth := by
  induction h with
  | @mk depth label children here within below ih =>
    obtain ⟨c, hc, hm⟩ := mem_preorderAll.1 hm
    have step : c.depth = label.depth + 1 := by rw [(below c hc).depth_eq, here]
    rw [preorder_eq_cons] at hm
    show label.depth < m.depth
    rcases List.mem_cons.1 hm with rfl | hm
    · omega
    · have deeper := ih c hc hm
      omega

mutual
/-- The node of a tree is leveled at the depth it was read at. -/
theorem isLeveled_readOne (o : ReadOptions) (parent : Place) (before after : List Tree)
    (depth number : Nat) : ∀ t : Tree,
    ∀ n ∈ (readOne o parent before after depth number t).1, IsLeveled o depth n
  | .string kind text => by
    rw [readOne]
    split
    next kept =>
      rintro n ⟨⟩
      exact .mk rfl (Bool.and_eq_true_iff.1 kept).1 fun c hc => absurd hc List.not_mem_nil
    next => rintro n ⟨⟩
  | .element tag children => by
    rw [readOne]
    split
    next within =>
      rintro n ⟨⟩
      exact .mk rfl within (isLeveled_readAll o _ [] (depth + 1) (number + 1) children)
    next => rintro n ⟨⟩

/-- The nodes of a list of trees are leveled at the depth they were read at. -/
theorem isLeveled_readAll (o : ReadOptions) (parent : Place) (before : List Tree)
    (depth number : Nat) : ∀ l : List Tree,
    ∀ n ∈ (readAll o parent before depth number l).1, IsLeveled o depth n
  | [] => by
    rw [readAll]
    exact fun n hn => absurd hn List.not_mem_nil
  | t :: rest => by
    rw [readAll]
    intro n hn
    rcases List.mem_append.1 hn with hn | hn
    · exact isLeveled_readOne o parent before rest depth number t n (Option.mem_toList.1 hn)
    · exact isLeveled_readAll o parent (t :: before) depth _ rest n hn
end

end Componentry.Node

namespace Componentry.Document
open Componentry.Markup Componentry.Node

/-- The nodes at the top of a page are numbered in pre-order. -/
theorem isNumbered_readSlots (o : ReadOptions) (parent : Place) (depth : Nat) :
    ∀ (number : Nat) (slots : List Slot), IsNumbered number
      (readSlots o parent depth number slots).2 (readSlots o parent depth number slots).1
  | number, [] => by
    rw [readSlots]
    exact .nil number
  | number, s :: rest => by
    rw [readSlots]
    exact (isNumbered_readOne o parent s.before s.after depth number s.tree).append
      (isNumbered_readSlots o parent depth _ rest)

/-- The nodes at the top of a page are leveled. -/
theorem isLeveled_readSlots (o : ReadOptions) (parent : Place) (depth : Nat) :
    ∀ (number : Nat) (slots : List Slot),
      ∀ n ∈ (readSlots o parent depth number slots).1, IsLeveled o depth n
  | number, [] => by
    rw [readSlots]
    exact fun n hn => absurd hn List.not_mem_nil
  | number, s :: rest => by
    rw [readSlots]
    intro n hn
    rcases List.mem_append.1 hn with hn | hn
    · exact isLeveled_readOne o parent s.before s.after depth number s.tree n
        (Option.mem_toList.1 hn)
    · exact isLeveled_readSlots o parent depth _ rest n hn

/-- What is kept at the top of a page. -/
def keptSlots (o : ReadOptions) (top : Place) : List Slot :=
  (shown top).2.filter fun s => o.keeps s.tree

/-- A single element at the top is the root. -/
theorem readRoot?_of_element {o : ReadOptions} {top : Place} {before after : List Tree} {tag : Tag}
    {children : List Tree} (only : keptSlots o top = [⟨before, .element tag children, after⟩]) :
    readRoot? o top = (readOne o (shown top).1 before after 0 0 (.element tag children)).1 := by
  unfold readRoot?
  unfold keptSlots at only
  simp only [only]

/-- Anything else at the top is put under a fragment. -/
theorem readRoot?_of_several {o : ReadOptions} {top : Place}
    (several : ∀ before tag children after,
      keptSlots o top ≠ [⟨before, .element tag children, after⟩]) :
    readRoot? o top = some (fragment (readSlots o (shown top).1 1 1 (keptSlots o top)).1) := by
  unfold readRoot?
  unfold keptSlots at several ⊢
  simp only

/-- The root of a page is its only element at the top, or a fragment of what is kept there. -/
theorem readRoot?_cases (o : ReadOptions) (top : Place) :
    (∃ before tag children after, keptSlots o top = [⟨before, .element tag children, after⟩] ∧
      readRoot? o top =
        (readOne o (shown top).1 before after 0 0 (.element tag children)).1) ∨
    readRoot? o top = some (fragment (readSlots o (shown top).1 1 1 (keptSlots o top)).1) := by
  by_cases single : ∃ before tag children after,
      keptSlots o top = [⟨before, .element tag children, after⟩]
  · obtain ⟨before, tag, children, after, only⟩ := single
    exact .inl ⟨before, tag, children, after, only, readRoot?_of_element only⟩
  · refine .inr (readRoot?_of_several fun before tag children after only => ?_)
    exact single ⟨before, tag, children, after, only⟩

/-- The nodes of a page are numbered from the root on. -/
theorem isNumbered_readRoot? {o : ReadOptions} {top : Place} {root : Node}
    (h : readRoot? o top = some root) : IsNumbered 0 root.preorder.length [root] := by
  have numbered : ∃ next, IsNumbered 0 next [root] := by
    obtain ⟨before, tag, children, after, _, eq⟩ | eq := readRoot?_cases o top
    · have := isNumbered_readOne o (shown top).1 before after 0 0 (.element tag children)
      rw [← eq, h] at this
      exact ⟨_, this⟩
    · rw [h, Option.some.injEq] at eq
      rw [eq]
      exact ⟨_, .node rfl (isNumbered_readSlots o (shown top).1 1 1 _)⟩
  obtain ⟨next, numbered⟩ := numbered
  have count := numbered.length
  rw [preorderAll_cons, preorderAll_nil, List.append_nil, Nat.sub_zero] at count
  rwa [count]

/-- The blank page has one number. -/
theorem isNumbered_blank : IsNumbered 0 1 [blank.root] := .node rfl (.nil 1)

/-- A depth limit that is not below zero leaves every page a root. -/
theorem exists_readRoot? {o : ReadOptions} (reaches : o.reaches 0 = true) (top : Place) :
    ∃ root, readRoot? o top = some root := by
  obtain ⟨before, tag, children, after, _, eq⟩ | eq := readRoot?_cases o top
  · rw [eq, readOne, if_pos reaches]
    exact ⟨_, rfl⟩
  · exact ⟨_, eq⟩

/-- The nodes of a page lie within the depth limit, each below the node it stands in. -/
theorem isLeveled_readRoot? {o : ReadOptions} {top : Place} {root : Node}
    (reaches : o.reaches 0 = true) (h : readRoot? o top = some root) : IsLeveled o 0 root := by
  obtain ⟨before, tag, children, after, _, eq⟩ | eq := readRoot?_cases o top
  · exact isLeveled_readOne o (shown top).1 before after 0 0 (.element tag children) root (eq ▸ h)
  · rw [h, Option.some.injEq] at eq
    rw [eq]
    exact .mk rfl reaches (isLeveled_readSlots o (shown top).1 1 1 _)

end Componentry.Document
