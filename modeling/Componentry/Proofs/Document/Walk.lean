import Componentry.Document.Node
import Componentry.Proofs.Lists

/-!
# Walks over nodes

A walk meets every node below a node once, right after the nodes before it: all nodes that are met,
apart from the first, are the children of nodes that are met, each listed by one of them. Where no
two nodes have one id, a node is found by its id, and so is the node it stands in. The texts are met
as they stand, one after the other.
-/

set_option autoImplicit false

namespace Componentry.Node
open Componentry.Text

@[simp] theorem preorderAll_nil : preorderAll [] = [] := by rw [preorderAll]

@[simp] theorem preorderAll_cons (n : Node) (rest : List Node) :
    preorderAll (n :: rest) = n.preorder ++ preorderAll rest := by rw [preorderAll]

@[simp] theorem preorderAll_toList (n : Option Node) :
    preorderAll n.toList = (n.map preorder).getD [] := by
  cases n with
  | none => rfl
  | some n => rw [Option.toList_some, preorderAll_cons, preorderAll_nil, List.append_nil]; rfl

/-- A node stands before all nodes below it. -/
theorem preorder_eq_cons (n : Node) : n.preorder = n :: preorderAll n.children := by
  cases n
  rw [preorder]
  rfl

/-- The nodes of a forest are those of its trees. -/
theorem mem_preorderAll {m : Node} : ∀ {l : List Node},
    m ∈ preorderAll l ↔ ∃ n ∈ l, m ∈ n.preorder
  | [] => by simp only [preorderAll_nil, List.not_mem_nil, false_and, exists_false]
  | n :: rest => by
    rw [preorderAll_cons, List.mem_append, mem_preorderAll, List.exists_mem_cons_iff]

mutual
/-- What is met from a node that is met is met. -/
theorem mem_preorder_trans {k m : Node} (hk : k ∈ m.preorder) :
    ∀ n : Node, m ∈ n.preorder → k ∈ n.preorder
  | .mk label children, hm => by
    rw [preorder_mk] at hm ⊢
    rcases List.mem_cons.1 hm with rfl | hm
    · rwa [preorder_mk] at hk
    · exact List.mem_cons_of_mem _ (mem_preorderAll_trans hk children hm)

/-- What is below a node of a forest is in the forest. -/
theorem mem_preorderAll_trans {k m : Node} (hk : k ∈ m.preorder) :
    ∀ l : List Node, m ∈ preorderAll l → k ∈ preorderAll l
  | [], hm => by
    rw [preorderAll_nil] at hm
    exact absurd hm List.not_mem_nil
  | n :: rest, hm => by
    rw [preorderAll_cons] at hm ⊢
    rcases List.mem_append.1 hm with hm | hm
    · exact List.mem_append_left _ (mem_preorder_trans hk n hm)
    · exact List.mem_append_right _ (mem_preorderAll_trans hk rest hm)
end

mutual
/-- Of two nodes from which one node is met, one is met from the other. -/
theorem mem_preorder_or {m k x : Node} (hm : x ∈ m.preorder) (hk : x ∈ k.preorder) :
    ∀ n : Node, n.ids.Nodup → m ∈ n.preorder → k ∈ n.preorder →
      m ∈ k.preorder ∨ k ∈ m.preorder
  | .mk label children, distinct, inM, inK => by
    have whole := inM
    rw [ids, preorder_mk, List.map_cons, List.nodup_cons] at distinct
    rw [preorder_mk] at inM inK
    rcases List.mem_cons.1 inM with rfl | inM
    · rw [preorder_mk]
      exact .inr inK
    · rcases List.mem_cons.1 inK with rfl | inK
      · exact .inl whole
      · exact mem_preorderAll_or hm hk children distinct.2 inM inK

/-- Two nodes with a common descendant are one above the other, where ids are distinct. -/
theorem mem_preorderAll_or {m k x : Node} (hm : x ∈ m.preorder) (hk : x ∈ k.preorder) :
    ∀ l : List Node, ((preorderAll l).map id).Nodup → m ∈ preorderAll l → k ∈ preorderAll l →
      m ∈ k.preorder ∨ k ∈ m.preorder
  | [], _, inM, _ => by
    rw [preorderAll_nil] at inM
    exact absurd inM List.not_mem_nil
  | n :: rest, distinct, inM, inK => by
    rw [preorderAll_cons, List.map_append, List.nodup_append] at distinct
    obtain ⟨first, others, apart⟩ := distinct
    -- one node is not met both from the first of the list and from the rest
    have both : x ∈ n.preorder → x ∈ preorderAll rest → False := fun here there =>
      apart _ (List.mem_map_of_mem here) _ (List.mem_map_of_mem there) rfl
    rw [preorderAll_cons] at inM inK
    rcases List.mem_append.1 inM with inM | inM <;> rcases List.mem_append.1 inK with inK | inK
    · exact mem_preorder_or hm hk n first inM inK
    · exact (both (mem_preorder_trans hm n inM) (mem_preorderAll_trans hk rest inK)).elim
    · exact (both (mem_preorder_trans hk n inK) (mem_preorderAll_trans hm rest inM)).elim
    · exact mem_preorderAll_or hm hk rest others inM inK
end

mutual
/-- The children of the nodes that are met are the nodes that are met below the first one. -/
theorem children_perm_preorder : ∀ n : Node,
    (n.preorder.flatMap children).Perm (preorderAll n.children)
  | .mk label children => by
    rw [preorder_mk]
    exact append_children_perm_preorderAll children

/-- The trees of a forest and all children in it are its nodes, each once. -/
theorem append_children_perm_preorderAll : ∀ l : List Node,
    (l ++ (preorderAll l).flatMap children).Perm (preorderAll l)
  | [] => .refl _
  | n :: rest => by
    rw [preorderAll_cons, List.flatMap_append, List.cons_append, preorder_eq_cons n,
      List.cons_append]
    refine List.Perm.cons n ?_
    have first := children_perm_preorder n
    have others := append_children_perm_preorderAll rest
    rw [preorder_eq_cons n] at first
    -- the list itself goes behind what is below its first node
    have swapped : List.Perm
        (rest ++ ((n :: preorderAll n.children).flatMap children ++
          (preorderAll rest).flatMap children))
        ((n :: preorderAll n.children).flatMap children ++
          (rest ++ (preorderAll rest).flatMap children)) := by
      rw [← List.append_assoc, ← List.append_assoc]
      exact List.Perm.append_right _ List.perm_append_comm
    exact swapped.trans (first.append others)
end

/-! ## Texts -/

/-- The texts of nodes and all below them, one after the other. -/
def charactersOf (nodes : List Node) : List Char :=
  (nodes.filter fun m => m.kind == .text).flatMap fun m => m.textOrNone.toList

/-- The text of a node is made of the characters of its text nodes. -/
theorem toList_textContent (n : Node) : n.textContent.toList = charactersOf n.preorder := by
  rw [textContent, concat, String.toList_ofList, List.flatMap_map, charactersOf]

/-- Only a text node has characters of its own. -/
theorem charactersOf_mk {label : Label} (other : label.kind ≠ .text) (children : List Node) :
    charactersOf (preorder (.mk label children)) = charactersOf (preorderAll children) := by
  rw [preorder_mk, charactersOf, List.filter_cons_of_neg, charactersOf]
  exact fun text => other (beq_iff_eq.1 text)

/-- The characters of two forests in a row are those of the one, then those of the other. -/
theorem charactersOf_append (l m : List Node) :
    charactersOf (l ++ m) = charactersOf l ++ charactersOf m := by
  rw [charactersOf, List.filter_append, List.flatMap_append, charactersOf, charactersOf]

/-! ## Links -/

/-- A link goes from a node of the tree to one of its children. -/
theorem mem_links {n m c : Node} : (m, c) ∈ n.links ↔ m ∈ n.preorder ∧ c ∈ m.children := by
  rw [links, List.mem_flatMap]
  constructor
  · rintro ⟨k, hk, hc⟩
    obtain ⟨d, hd, eq⟩ := List.mem_map.1 hc
    cases eq
    exact ⟨hk, hd⟩
  · rintro ⟨hm, hc⟩
    exact ⟨m, hm, List.mem_map.2 ⟨c, hc, rfl⟩⟩

/-- The links of a tree lead to all children in it. -/
theorem links_map_snd (n : Node) : n.links.map Prod.snd = n.preorder.flatMap children := by
  rw [links, List.map_flatMap]
  simp only [List.map_map, Function.comp_def, List.map_id']

/-- The ids of children and of the nodes below the first one are the same. -/
theorem links_ids_perm (n : Node) :
    (n.links.map fun link => link.2.id).Perm ((preorderAll n.children).map id) := by
  have ids : (n.links.map fun link => link.2.id) = (n.links.map Prod.snd).map id := by
    rw [List.map_map]
    rfl
  rw [ids, links_map_snd]
  exact (children_perm_preorder n).map id

section
variable {root : Node} (distinct : root.ids.Nodup)
include distinct

/-- The ids below a root are distinct when all ids are. -/
theorem nodup_ids_below : ((preorderAll root.children).map id).Nodup := by
  rw [ids, preorder_eq_cons, List.map_cons, List.nodup_cons] at distinct
  exact distinct.2

/-- A node is found by its id. -/
theorem find?_id {n : Node} (h : n ∈ root.preorder) :
    root.preorder.find? (fun m => m.id == n.id) = some n :=
  Lists.find?_of_nodup_keys distinct h

/-- Nodes of one id are one node. -/
theorem eq_of_id_eq {m n : Node} (hm : m ∈ root.preorder) (hn : n ∈ root.preorder)
    (same : m.id = n.id) : m = n := by
  have first := find?_id distinct hm
  rw [same, find?_id distinct hn, Option.some.injEq] at first
  exact first.symm

/-- A node whose id is met from a node is met from it. -/
theorem mem_preorder_of_mem_ids {m n : Node} (hm : m ∈ root.preorder) (hn : n ∈ root.preorder)
    (h : n.id ∈ m.ids) : n ∈ m.preorder := by
  obtain ⟨k, hk, same⟩ := List.mem_map.1 h
  rwa [← eq_of_id_eq distinct (mem_preorder_trans hk root hm) hn same]

/-- No two links lead to one id. -/
theorem nodup_links_ids : (root.links.map fun link => link.2.id).Nodup :=
  (links_ids_perm root).nodup_iff.2 (nodup_ids_below distinct)

/-- The node that another stands in is found by the id of the other. -/
theorem parentId?_of_mem_children {m c : Node} (hm : m ∈ root.preorder) (hc : c ∈ m.children) :
    root.parentId? c.id = some m.id := by
  have found := Lists.find?_of_nodup_keys (nodup_links_ids distinct) (mem_links.2 ⟨hm, hc⟩)
  rw [parentId?]
  exact congrArg (Option.map fun link => link.1.id) found

/-- The first node stands in no other one. -/
theorem parentId?_self : root.parentId? root.id = none := by
  rw [parentId?, Option.map_eq_none_iff, List.find?_eq_none]
  rintro ⟨m, c⟩ link
  rw [beq_iff_eq]
  intro same
  have below : c.id ∈ (preorderAll root.children).map id :=
    (links_ids_perm root).mem_iff.1 (List.mem_map.2 ⟨_, link, rfl⟩)
  rw [ids, preorder_eq_cons, List.map_cons, List.nodup_cons] at distinct
  exact distinct.1 (same ▸ below)

/-- A node stands in the one node that lists it. -/
theorem eq_of_mem_children {m k c : Node} (hm : m ∈ root.preorder) (hk : k ∈ root.preorder)
    (hc : c ∈ m.children) (hd : c.id ∈ k.children.map id) : k = m := by
  obtain ⟨d, hd, same⟩ := List.mem_map.1 hd
  have first := parentId?_of_mem_children distinct hm hc
  rw [← same, parentId?_of_mem_children distinct hk hd, Option.some.injEq] at first
  exact eq_of_id_eq distinct hk hm first

end

/-- Every node that is met, apart from the first one, is listed by a node that is met. -/
theorem exists_parent {root n : Node} (h : n ∈ preorderAll root.children) :
    ∃ m ∈ root.preorder, n ∈ m.children := by
  have listed := (children_perm_preorder root).mem_iff.2 h
  exact List.mem_flatMap.1 listed

end Componentry.Node
