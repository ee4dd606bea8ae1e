import Componentry.Proofs.Document.Numbering

/-!
# Elements around elements

The elements around an element are those with the element below them. A walk that carries them
along meets them nearest first, and every one of them was met before with those around it.
-/

set_option autoImplicit false

namespace Componentry.Node
open Componentry.Markup

/-- The elements around a node, the outermost first. -/
def around (root n : Node) : List Node :=
  root.elements.filter fun m => m.id != n.id && m.ids.contains n.id

/-- The elements around a node among those met from a list. -/
def aroundAmong (l : List Node) (n : Node) : List Node :=
  ((preorderAll l).filter isElement).filter fun m => m.id != n.id && m.ids.contains n.id

mutual
/-- The elements of a node in document order, each with the elements around it, the nearest
first. -/
def lineage (above : List Node) : Node → List (Node × List Node)
  | .mk label children =>
    if label.kind == .element then
      (.mk label children, above) :: lineageAll (.mk label children :: above) children
    else []

/-- The elements of the nodes of a list, each with the elements around it. -/
def lineageAll (above : List Node) : List Node → List (Node × List Node)
  | [] => []
  | n :: rest => lineage above n ++ lineageAll above rest
end

/-- The elements of a page in document order, each with the elements around it. -/
def lineages (root : Node) : List (Node × List Node) :=
  if root.isElement then lineage [] root else lineageAll [] root.children

/-- Nothing stands in nodes that are not elements. -/
inductive IsPlain : Node → Prop where
  | mk {label : Label} {children : List Node} (leaf : label.kind ≠ .element → children = [])
      (below : ∀ c ∈ children, IsPlain c) : IsPlain (.mk label children)

mutual
/-- A tree is read as a plain node. -/
theorem isPlain_readOne (o : ReadOptions) (parent : Place) (before after : List Tree)
    (depth number : Nat) : ∀ t : Tree,
    ∀ n ∈ (readOne o parent before after depth number t).1, IsPlain n
  | .string kind text => by
    rw [readOne]
    split
    · rintro n ⟨⟩
      exact .mk (fun _ => rfl) fun c hc => absurd hc List.not_mem_nil
    · rintro n ⟨⟩
  | .element tag children => by
    rw [readOne]
    split
    · rintro n ⟨⟩
      exact .mk (fun other => absurd rfl other)
        (isPlain_readAll o _ [] (depth + 1) (number + 1) children)
    · rintro n ⟨⟩

/-- Trees are read as plain nodes. -/
theorem isPlain_readAll (o : ReadOptions) (parent : Place) (before : List Tree)
    (depth number : Nat) : ∀ l : List Tree,
    ∀ n ∈ (readAll o parent before depth number l).1, IsPlain n
  | [] => by
    rw [readAll]
    exact fun n hn => absurd hn List.not_mem_nil
  | t :: rest => by
    rw [readAll]
    intro n hn
    rcases List.mem_append.1 hn with hn | hn
    · exact isPlain_readOne o parent before rest depth number t n (Option.mem_toList.1 hn)
    · exact isPlain_readAll o parent (t :: before) depth _ rest n hn
end

/-! ## Elements of a lineage -/

mutual
/-- A lineage goes through the elements in document order. -/
theorem lineage_map_fst (above : List Node) : ∀ n : Node, IsPlain n →
    (lineage above n).map Prod.fst = n.elements
  | .mk label children, plain => by
    obtain ⟨leaf, below⟩ := plain
    rw [lineage, elements, preorder_mk, List.filter_cons]
    by_cases element : (label.kind == .element) = true
    · have here : isElement (.mk label children) = true := element
      rw [if_pos element, if_pos here, List.map_cons, lineageAll_map_fst _ children below]
    · have here : ¬ isElement (.mk label children) = true := element
      have empty : children = [] := leaf fun same => element (beq_iff_eq.2 same)
      rw [if_neg element, if_neg here, empty, preorderAll_nil]
      rfl

/-- Each element of plain nodes has its lineage, in the order of the page. -/
theorem lineageAll_map_fst (above : List Node) : ∀ l : List Node, (∀ n ∈ l, IsPlain n) →
    (lineageAll above l).map Prod.fst = (preorderAll l).filter isElement
  | [], _ => by
    rw [lineageAll, preorderAll_nil]
    rfl
  | n :: rest, plain => by
    rw [lineageAll, preorderAll_cons, List.map_append, List.filter_append,
      lineage_map_fst above n (plain n List.mem_cons_self),
      lineageAll_map_fst above rest fun m hm => plain m (List.mem_cons_of_mem _ hm)]
    rfl
end

mutual
/-- The elements of a lineage are met in the walk. -/
theorem mem_preorder_of_mem_lineage {above : List Node} {p : Node × List Node} :
    ∀ {n : Node}, p ∈ lineage above n → p.1 ∈ n.preorder
  | .mk label children, h => by
    rw [lineage] at h
    rw [preorder_mk]
    split at h
    · rcases List.mem_cons.1 h with rfl | h
      · exact List.mem_cons_self
      · exact List.mem_cons_of_mem _ (mem_preorderAll_of_mem_lineageAll h)
    · exact absurd h List.not_mem_nil

/-- A node with a lineage is one of the forest. -/
theorem mem_preorderAll_of_mem_lineageAll {above : List Node} {p : Node × List Node} :
    ∀ {l : List Node}, p ∈ lineageAll above l → p.1 ∈ preorderAll l
  | n :: rest, h => by
    rw [lineageAll] at h
    rw [preorderAll_cons]
    rcases List.mem_append.1 h with h | h
    · exact List.mem_append_left _ (mem_preorder_of_mem_lineage h)
    · exact List.mem_append_right _ (mem_preorderAll_of_mem_lineageAll h)
end

/-! ## Elements around -/

/-- The ids of a node have those of all nodes below it. -/
theorem contains_ids {m n : Node} (h : n ∈ m.preorder) : m.ids.contains n.id = true :=
  List.contains_iff_mem.2 (List.mem_map_of_mem h)

/-- Nothing is around a node whose id is not met. -/
theorem aroundAmong_eq_nil {l : List Node} {n : Node} (other : ∀ k ∈ preorderAll l, k.id ≠ n.id) :
    aroundAmong l n = [] := by
  rw [aroundAmong, List.filter_eq_nil_iff]
  intro m hm both
  rw [Bool.and_eq_true, List.contains_iff_mem] at both
  obtain ⟨k, hk, same⟩ := List.mem_map.1 both.2
  exact other k (mem_preorderAll_trans hk l (List.mem_of_mem_filter hm)) same

/-- What is around a node is looked for tree by tree. -/
theorem aroundAmong_cons (n : Node) (rest : List Node) (k : Node) :
    aroundAmong (n :: rest) k = around n k ++ aroundAmong rest k := by
  rw [aroundAmong, preorderAll_cons, List.filter_append, List.filter_append]
  rfl

/-- Around a node below an element is the element, and what is around the node within it. -/
theorem around_mk_of_mem {label : Label} {children : List Node} {k : Node}
    (element : (label.kind == .element) = true) (hk : k ∈ preorderAll children)
    (other : label.id ≠ k.id) :
    around (.mk label children) k = .mk label children :: aroundAmong children k := by
  have here : isElement (.mk label children) = true := element
  have within : (Node.mk label children).ids.contains k.id = true := by
    refine contains_ids ?_
    rw [preorder_mk]
    exact List.mem_cons_of_mem _ hk
  have first : ((Node.mk label children).id != k.id &&
      (Node.mk label children).ids.contains k.id) = true := by
    rw [within, Bool.and_true, bne_iff_ne]
    exact other
  rw [around, elements, preorder_mk, List.filter_cons, if_pos here, List.filter_cons, if_pos first]
  rfl

/-- Nothing within an element is around it. -/
theorem around_self {label : Label} {children : List Node}
    (other : ∀ k ∈ preorderAll children, k.id ≠ label.id) :
    around (.mk label children) (.mk label children) = [] := by
  have none := aroundAmong_eq_nil (n := .mk label children) other
  have first : ¬ ((Node.mk label children).id != (Node.mk label children).id &&
      (Node.mk label children).ids.contains (Node.mk label children).id) = true := by
    rw [bne_self_eq_false, Bool.false_and]
    exact Bool.false_ne_true
  rw [around, elements, preorder_mk, List.filter_cons]
  split
  · rw [List.filter_cons, if_neg first]
    exact none
  · exact none

mutual
/-- What a lineage carries along is what is around the element, the nearest first. -/
theorem reverse_of_mem_lineage {above : List Node} {p : Node × List Node} :
    ∀ n : Node, (n.preorder.map id).Nodup → p ∈ lineage above n →
      p.2.reverse = above.reverse ++ around n p.1
  | .mk label children, distinct, h => by
    rw [preorder_mk, List.map_cons, List.nodup_cons] at distinct
    have other : ∀ k ∈ preorderAll children, k.id ≠ label.id := fun k hk same =>
      distinct.1 (List.mem_map.2 ⟨k, hk, same⟩)
    rw [lineage] at h
    split at h
    next element =>
      rcases List.mem_cons.1 h with rfl | h
      · rw [around_self other, List.append_nil]
      · have below := mem_preorderAll_of_mem_lineageAll h
        have inner := reverse_of_mem_lineageAll children distinct.2 h
        rw [inner, around_mk_of_mem element below (other _ below).symm, List.reverse_cons,
          List.append_assoc, List.singleton_append]
    next => exact absurd h List.not_mem_nil

/-- The lineage of a node, turned round, is what is around it, where ids are distinct. -/
theorem reverse_of_mem_lineageAll {above : List Node} {p : Node × List Node} :
    ∀ l : List Node, ((preorderAll l).map id).Nodup → p ∈ lineageAll above l →
      p.2.reverse = above.reverse ++ aroundAmong l p.1
  | n :: rest, distinct, h => by
    rw [preorderAll_cons, List.map_append] at distinct
    obtain ⟨first, others, apart⟩ := List.nodup_append.1 distinct
    rw [lineageAll] at h
    rw [aroundAmong_cons]
    rcases List.mem_append.1 h with h | h
    · have here := mem_preorder_of_mem_lineage h
      have none : aroundAmong rest p.1 = [] := aroundAmong_eq_nil fun k hk same =>
        apart _ (List.mem_map_of_mem here) _ (List.mem_map_of_mem hk) same.symm
      rw [none, List.append_nil]
      exact reverse_of_mem_lineage n first h
    · have there := mem_preorderAll_of_mem_lineageAll h
      have none : aroundAmong [n] p.1 = [] := aroundAmong_eq_nil fun k hk same => by
        rw [preorderAll_cons, preorderAll_nil, List.append_nil] at hk
        exact apart _ (List.mem_map_of_mem hk) _ (List.mem_map_of_mem there) same
      rw [aroundAmong_cons] at none
      rw [(List.append_eq_nil_iff.1 none).1, List.nil_append]
      exact reverse_of_mem_lineageAll rest others h
end

mutual
/-- Every element that a lineage carries along was met before, with what was carried along then. -/
theorem exists_of_mem_lineage {above : List Node} {p : Node × List Node} :
    ∀ n : Node, p ∈ lineage above n → ∃ inner, p.2 = inner ++ above ∧
      ∀ a m b, inner = a ++ m :: b → (m, b ++ above) ∈ lineage above n
  | .mk label children, h => by
    rw [lineage] at h ⊢
    split at h
    next element =>
      rw [if_pos element]
      rcases List.mem_cons.1 h with rfl | h
      · exact ⟨[], rfl, fun a m b same => absurd same (by simp)⟩
      · obtain ⟨inner, eq, met⟩ := exists_of_mem_lineageAll children h
        refine ⟨inner ++ [.mk label children], by rw [eq]; simp, fun a m b same => ?_⟩
        rcases List.eq_nil_or_concat b with rfl | ⟨b, k, rfl⟩
        · -- the outermost one is the element itself
          have last := List.append_inj_right' same rfl
          cases last
          exact List.mem_cons_self
        · rw [List.concat_eq_append, ← List.cons_append, ← List.append_assoc] at same
          have last := List.append_inj_right' same rfl
          have start := List.append_inj_left' same rfl
          cases last
          rw [List.concat_eq_append, List.append_assoc, List.singleton_append]
          exact List.mem_cons_of_mem _ (met a m b start)
    next => exact absurd h List.not_mem_nil

/-- A lineage goes on from the one above, and each element in it has the rest as its own. -/
theorem exists_of_mem_lineageAll {above : List Node} {p : Node × List Node} :
    ∀ l : List Node, p ∈ lineageAll above l → ∃ inner, p.2 = inner ++ above ∧
      ∀ a m b, inner = a ++ m :: b → (m, b ++ above) ∈ lineageAll above l
  | n :: rest, h => by
    rw [lineageAll] at h ⊢
    rcases List.mem_append.1 h with h | h
    · obtain ⟨inner, eq, met⟩ := exists_of_mem_lineage n h
      exact ⟨inner, eq, fun a m b same => List.mem_append_left _ (met a m b same)⟩
    · obtain ⟨inner, eq, met⟩ := exists_of_mem_lineageAll rest h
      exact ⟨inner, eq, fun a m b same => List.mem_append_right _ (met a m b same)⟩
end

/-! ## Pages -/

section
variable {root : Node} (plain : ∀ c ∈ root.children, IsPlain c)

/-- The elements of a page with another root are those below it. -/
theorem elements_eq_of_not_isElement (h : ¬ root.isElement = true) :
    root.elements = (preorderAll root.children).filter isElement := by
  rw [elements, preorder_eq_cons, List.filter_cons, if_neg h]

include plain in
/-- Each element of a page has its lineage, in the order of the page. -/
theorem lineages_map_fst : root.lineages.map Prod.fst = root.elements := by
  rw [lineages]
  split
  next element =>
    obtain ⟨label, children⟩ := root
    have kind : label.kind = .element := beq_iff_eq.1 element
    exact lineage_map_fst [] _ (.mk (fun other => absurd kind other) plain)
  next fragment =>
    rw [lineageAll_map_fst [] _ plain, elements_eq_of_not_isElement fragment]

/-- A lineage carries along what is around the element, the nearest first. -/
theorem reverse_of_mem_lineages (distinct : root.ids.Nodup) {p : Node × List Node}
    (h : p ∈ root.lineages) : p.2.reverse = root.around p.1 := by
  rw [lineages] at h
  split at h
  next => exact reverse_of_mem_lineage root distinct h
  next fragment =>
    have below := nodup_ids_below distinct
    have eq := reverse_of_mem_lineageAll root.children below h
    rw [eq, around, elements_eq_of_not_isElement fragment]
    rfl

/-- Nothing stands in the nodes met from a plain one but in elements. -/
theorem IsPlain.of_mem_preorder {n m : Node} (h : IsPlain n) (hm : m ∈ n.preorder) : IsPlain m := by
  induction h with
  | @mk label children leaf below ih =>
    rw [preorder_mk] at hm
    rcases List.mem_cons.1 hm with rfl | hm
    · exact .mk leaf below
    · obtain ⟨c, hc, hm⟩ := mem_preorderAll.1 hm
      exact ih c hc hm

include plain in
/-- The elements of a page are plain. -/
theorem isPlain_of_mem_elements {n : Node} (h : n ∈ root.elements) : IsPlain n := by
  obtain ⟨met, element⟩ := List.mem_filter.1 h
  rw [preorder_eq_cons] at met
  rcases List.mem_cons.1 met with rfl | met
  · obtain ⟨label, children⟩ := n
    have kind : label.kind = .element := beq_iff_eq.1 element
    exact .mk (fun other => absurd kind other) plain
  · obtain ⟨c, hc, met⟩ := mem_preorderAll.1 met
    exact (plain c hc).of_mem_preorder met

/-- Every element around another one is in the lineages, with what is around it. -/
theorem mem_lineages_of_suffix {p : Node × List Node} (h : p ∈ root.lineages) {a b : List Node}
    {m : Node} (eq : p.2 = a ++ m :: b) : (m, b) ∈ root.lineages := by
  rw [lineages] at h ⊢
  split at h
  next element =>
    rw [if_pos element]
    obtain ⟨inner, whole, met⟩ := exists_of_mem_lineage root h
    rw [List.append_nil] at whole
    have := met a m b (whole.symm.trans eq)
    rwa [List.append_nil] at this
  next fragment =>
    rw [if_neg fragment]
    obtain ⟨inner, whole, met⟩ := exists_of_mem_lineageAll root.children h
    rw [List.append_nil] at whole
    have := met a m b (whole.symm.trans eq)
    rwa [List.append_nil] at this

end

end Componentry.Node

namespace Componentry.Document
open Componentry.Markup Componentry.Node

/-- The top of a page is read as plain nodes. -/
theorem isPlain_readSlots (o : ReadOptions) (parent : Place) (depth : Nat) :
    ∀ (number : Nat) (slots : List Slot),
      ∀ n ∈ (readSlots o parent depth number slots).1, IsPlain n
  | number, [] => by
    rw [readSlots]
    exact fun n hn => absurd hn List.not_mem_nil
  | number, s :: rest => by
    rw [readSlots]
    intro n hn
    rcases List.mem_append.1 hn with hn | hn
    · exact isPlain_readOne o parent s.before s.after depth number s.tree n (Option.mem_toList.1 hn)
    · exact isPlain_readSlots o parent depth _ rest n hn

/-- The nodes below a root that was read are plain. -/
theorem isPlain_of_readRoot? {o : ReadOptions} {top : Place} {root : Node}
    (h : readRoot? o top = some root) : ∀ c ∈ root.children, IsPlain c := by
  obtain ⟨before, tag, children, after, _, eq⟩ | eq := readRoot?_cases o top
  · have plain := isPlain_readOne o (shown top).1 before after 0 0 (.element tag children) root
      (eq ▸ h)
    cases plain with
    | mk _ below => exact below
  · rw [h, Option.some.injEq] at eq
    rw [eq]
    exact isPlain_readSlots o (shown top).1 1 1 _

end Componentry.Document
