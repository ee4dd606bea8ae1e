import Componentry.Proofs.Splitting.Components

/-!
# The components of a page in closed form

The components made of the chosen elements are these elements, each once and in document order, and
stand in one another like these. What a component stands in does not depend on how many elements are
chosen.
-/

set_option autoImplicit false

namespace Componentry
open Componentry.Node Componentry.Extraction

variable {α : Type}

namespace Split

/-- The components of a page are the chosen elements, in document order, and stand in one another
like these. -/
structure IsClosed (decide : Node → Option (Decision α)) (deepest : Int) (root : Node)
    (split : Split α) : Prop where
  nodes : split.components.map Component.nodeId = (chosen decide deepest root).map Node.id
  once : (split.components.map Component.nodeId).Nodup
  markup : split.components.map Component.markup = (chosen decide deepest root).map Node.write
  ids : split.components.map Component.id =
    (List.range split.components.length).map componentId
  depths : split.components.map Component.depth =
    (chosen decide deepest root).map fun n => (reasonedAround decide root n).length
  around : ∀ n ∈ chosen decide deepest root, ∀ m ∈ reasonedAround decide root n,
    m ∈ chosen decide deepest root
  parents : split.components.map Component.parentId =
    (chosen decide deepest root).map fun n =>
      (reasonedAround decide root n).getLast?.bind fun m =>
        (componentOf? split.components m.id).map Component.id
  children : ∀ c ∈ split.components,
    c.children = (split.components.filter fun k => k.parentId == some c.id).map Component.id
  names : (split.components.map Component.name).Nodup
  notCircular : ∀ id, ¬ Relation.TransGen
    (fun a b => (a, b) ∈ Contained.links (split.components.map Component.contained)) id id
  tree : (ContainmentTree.build (split.components.map Component.contained)).result = .ok split.tree

/-- The node of the component that a component stands in. -/
def ownerNode? (split : Split α) (c : Component α) : Option String :=
  c.parentId.bind fun id => (split.components.find? fun k => k.id == id).map Component.nodeId

section
variable {decide : Node → Option (Decision α)} {deepest : Int} {root : Node} {split : Split α}

/-- A component is one of the chosen elements. -/
theorem IsClosed.exists_node (closed : IsClosed decide deepest root split) {c : Component α}
    (hc : c ∈ split.components) : ∃ n ∈ chosen decide deepest root, c.nodeId = n.id ∧
      c.depth = (reasonedAround decide root n).length ∧
      c.parentId = (reasonedAround decide root n).getLast?.bind fun m =>
        (componentOf? split.components m.id).map Component.id := by
  obtain ⟨i, hi, rfl⟩ := List.getElem_of_mem hc
  have size : split.components.length = (chosen decide deepest root).length := by
    simpa using congrArg List.length closed.nodes
  have hj : i < (chosen decide deepest root).length := size ▸ hi
  have node := congrArg (fun l => l[i]?) closed.nodes
  have depth := congrArg (fun l => l[i]?) closed.depths
  have parent := congrArg (fun l => l[i]?) closed.parents
  simp only [List.getElem?_map, List.getElem?_eq_getElem hi, List.getElem?_eq_getElem hj,
    Option.map_some, Option.some.injEq] at node depth parent
  exact ⟨_, List.getElem_mem hj, node, depth, parent⟩

/-- The component of a chosen element is found by the id of the element. -/
theorem IsClosed.exists_componentOf? (closed : IsClosed decide deepest root split) {n : Node}
    (hn : n ∈ chosen decide deepest root) :
    ∃ c ∈ split.components, c.nodeId = n.id ∧ componentOf? split.components n.id = some c := by
  have listed : n.id ∈ split.components.map Component.nodeId := by
    rw [closed.nodes]
    exact List.mem_map_of_mem hn
  obtain ⟨c, hc, same⟩ := List.mem_map.1 listed
  refine ⟨c, hc, same, ?_⟩
  rw [componentOf?, ← same]
  exact Lists.find?_of_nodup_keys closed.once hc

/-- A component stands in the component of the nearest element with a reason. -/
theorem IsClosed.ownerNode?_eq (closed : IsClosed decide deepest root split)
    {c : Component α} {n : Node} (hn : n ∈ chosen decide deepest root)
    (parent : c.parentId = (reasonedAround decide root n).getLast?.bind fun m =>
      (componentOf? split.components m.id).map Component.id) :
    split.ownerNode? c = (reasonedAround decide root n).getLast?.map Node.id := by
  rw [ownerNode?, parent]
  cases last : (reasonedAround decide root n).getLast? with
  | none => rfl
  | some m =>
    have outer := closed.around n hn m (List.mem_of_getLast? last)
    obtain ⟨k, hk, node, found⟩ := closed.exists_componentOf? outer
    have ids : (split.components.map Component.id).Nodup := by
      rw [closed.ids]
      exact List.Nodup.map (fun _ _ => componentId_inj.1) List.nodup_range
    have again : split.components.find? (fun l => l.id == k.id) = some k :=
      Lists.find?_of_nodup_keys ids hk
    rw [Option.bind_some, found, Option.map_some, Option.bind_some, again, Option.map_some, node,
      Option.map_some]

end

end Split

namespace Extraction
variable {decide : Node → Option (Decision α)} {deepest : Int} {root : Node}

/-- The chosen elements stand in the order of the page. -/
theorem sublist_chosen : (chosen decide deepest root).Sublist root.preorder :=
  List.filter_sublist.trans List.filter_sublist

/-- A deeper limit chooses the same elements and more. -/
theorem chosen_sublist_chosen {deeper : Int} (le : deepest ≤ deeper) :
    (chosen decide deepest root).Sublist (chosen decide deeper root) := by
  refine List.monotone_filter_right _ fun n both => ?_
  obtain ⟨reason, limit⟩ := Bool.and_eq_true_iff.1 both
  exact Bool.and_eq_true_iff.2
    ⟨reason, decide_eq_true (Int.le_trans (of_decide_eq_true limit) le)⟩

/-- No two chosen elements share an id. -/
theorem nodup_ids_chosen (distinct : root.ids.Nodup) :
    ((chosen decide deepest root).map Node.id).Nodup :=
  distinct.sublist (sublist_chosen.map Node.id)

section
variable (distinct : root.ids.Nodup) (plain : ∀ c ∈ root.children, IsPlain c)
  {all : List (Extraction α)}
  (made : all = (chosen decide deepest root).filterMap (ofNode? decide root))
include made

/-- What is read off the extracted elements is read off the chosen ones. -/
theorem map_extracted {β : Type} {f : Extraction α → β} {g : Node → β}
    (each : ∀ n e, ofNode? decide root n = some e → f e = g n) :
    all.map f = (chosen decide deepest root).map g := by
  rw [made]
  exact map_filterMap_ofNode? each reasoned_of_mem_chosen

/-- The extracted elements are the chosen ones. -/
theorem map_node_extracted :
    (all.map fun e => e.node.id) = (chosen decide deepest root).map Node.id := by
  refine map_extracted made fun n e eq => ?_
  obtain ⟨_, _, rfl⟩ := Option.map_eq_some_iff.1 eq
  rfl

include distinct

/-- No two extracted elements share an id. -/
theorem nodup_extracted : (all.map fun e => e.node.id).Nodup := by
  rw [map_node_extracted made]
  exact nodup_ids_chosen distinct

variable [Score α] {namer : Namer}
include plain

/-- A component lies one level below the one it stands in. -/
theorem depth_of_parentId {c k : Component α} (hc : c ∈ components namer all)
    (hk : k ∈ components namer all) (stands : k.parentId = some c.id) : k.depth = c.depth + 1 := by
  rw [components_eq] at hc hk
  obtain ⟨⟨e, i⟩, place, rfl⟩ := List.mem_map.1 hc
  obtain ⟨⟨inner, j⟩, within, rfl⟩ := List.mem_map.1 hk
  have he : e ∈ all := List.fst_mem_of_mem_zipIdx place
  have hinner : inner ∈ all := List.fst_mem_of_mem_zipIdx within
  obtain ⟨outerNode, outerDepth, _⟩ := of_mem_filterMap_ofNode? (made ▸ he)
  obtain ⟨innerNode, innerDepth, owner⟩ := of_mem_filterMap_ofNode? (made ▸ hinner)
  -- the owner of the inner element is the outer one
  change inner.owner.bind (idOfNode? all) = some (componentId i) at stands
  rw [owner] at stands
  obtain ⟨id, owned, known⟩ := Option.bind_eq_some_iff.1 stands
  obtain ⟨m, last, rfl⟩ := Option.map_eq_some_iff.1 owned
  obtain ⟨e', i', place', same, place_eq⟩ := exists_of_idOfNode?_eq_some known
  rw [componentId_inj] at place_eq
  subst place_eq
  obtain ⟨_, left⟩ := List.mem_zipIdx' place
  obtain ⟨_, right⟩ := List.mem_zipIdx' place'
  rw [right, ← left] at same
  have nearest := chosen_around distinct plain innerNode (List.mem_of_getLast? last)
  have outer : e.node = m := eq_of_id_eq distinct (sublist_chosen.subset outerNode)
    (sublist_chosen.subset nearest.1) same
  show inner.depth = e.depth + 1
  rw [innerDepth, outerDepth, outer]
  exact nearest.2 last

omit plain in
/-- The children of a component are those that have it as their parent. -/
theorem children_of_mem {c : Component α} (hc : c ∈ components namer all) :
    c.children =
      ((components namer all).filter fun k => k.parentId == some c.id).map Component.id := by
  rw [components_eq] at hc
  obtain ⟨p, hp, rfl⟩ := List.mem_map.1 hc
  exact children_componentAt (nodup_extracted distinct made) hp

omit distinct made plain in
/-- No two components share an id. -/
theorem nodup_ids_components : ((components namer all).map Component.id).Nodup := by
  rw [map_id_components]
  exact List.Nodup.map (fun _ _ => componentId_inj.1) List.nodup_range

/-- The depth of the component of an id. -/
def depthOfId (l : List (Component α)) (id : String) : Nat :=
  ((l.find? fun c => c.id == id).map Component.depth).getD 0

omit distinct made plain in
/-- The depth under the id of a component is its own. -/
theorem depthOfId_of_mem {c : Component α} (hc : c ∈ components namer all) :
    depthOfId (components namer all) c.id = c.depth := by
  have found : (components namer all).find? (fun k => k.id == c.id) = some c :=
    Lists.find?_of_nodup_keys nodup_ids_components hc
  rw [depthOfId, found]
  rfl

/-- The links between components lead one level down. -/
theorem isRanked_components : Containment.IsRanked (depthOfId (components namer all))
    (Contained.links ((components namer all).map Component.contained)) := by
  intro link mem
  obtain ⟨outer, houter, mem⟩ := List.mem_flatMap.1 mem
  obtain ⟨c, hc, rfl⟩ := List.mem_map.1 houter
  obtain ⟨child, known, rfl⟩ := List.mem_map.1 mem
  have listed : child ∈ c.children := List.mem_of_mem_filter known
  rw [children_of_mem distinct made hc] at listed
  obtain ⟨k, hk, rfl⟩ := List.mem_map.1 listed
  obtain ⟨hk, stands⟩ := List.mem_filter.1 hk
  have below := depth_of_parentId distinct plain made hc hk (beq_iff_eq.1 stands)
  show depthOfId _ c.id < depthOfId _ k.id
  rw [depthOfId_of_mem hc, depthOfId_of_mem hk, below]
  exact Nat.lt_succ_self _

/-- The components made of the chosen elements are closed. -/
theorem isClosed_components (start : namer.given = []) {patterns : List (Pattern α)}
    {tree : ContainmentTree} {warnings : List String}
    (built : (ContainmentTree.build
      ((components namer all).map Component.contained)).result = .ok tree) :
    Split.IsClosed decide deepest root ⟨components namer all, patterns, tree, warnings⟩ := by
  have nodes : (components namer all).map Component.nodeId =
      (chosen decide deepest root).map Node.id := by
    rw [map_components (g := fun e => e.node.id) fun _ _ => rfl]
    exact map_node_extracted made
  -- Each field is read off the extracted elements and carried over to the chosen ones.
  refine
    { nodes
      once := by rw [nodes]; exact nodup_ids_chosen distinct
      markup := ?_
      ids := by rw [map_id_components, length_components]
      depths := ?_
      around := fun n hn m hm => (chosen_around distinct plain hn hm).1
      parents := ?_
      children := fun c hc => children_of_mem distinct made hc
      names := by rw [map_name_components]; exact nodup_names start all
      notCircular := (isRanked_components distinct plain made).not_circular
      tree := built }
  · rw [map_components (g := fun e => e.node.write) fun _ _ => rfl]
    refine map_extracted made fun n e eq => ?_
    obtain ⟨_, _, rfl⟩ := Option.map_eq_some_iff.1 eq
    rfl
  · rw [map_components (g := fun e => e.depth) fun _ _ => rfl]
    refine map_extracted made fun n e eq => ?_
    obtain ⟨_, _, rfl⟩ := Option.map_eq_some_iff.1 eq
    rfl
  · rw [map_components (g := fun e => e.owner.bind (idOfNode? all)) fun _ _ => rfl]
    refine map_extracted made fun n e eq => ?_
    obtain ⟨_, _, rfl⟩ := Option.map_eq_some_iff.1 eq
    show ((reasonedAround decide root n).getLast?.map Node.id).bind (idOfNode? all) = _
    rw [Option.bind_map]
    exact congrArg _ (funext fun m => idOfNode?_eq (nodup_extracted distinct made) m.id)

end

end Extraction

namespace Split
variable {decide : Node → Option (Decision α)} {deepest deeper : Int} {root : Node}
  {split other : Split α}

/-- A component chosen with a limit is chosen with a deeper one, and stands in the same one. -/
theorem IsClosed.exists_deeper (distinct : root.ids.Nodup) (le : deepest ≤ deeper)
    (closed : IsClosed decide deepest root split) (below : IsClosed decide deeper root other)
    {c : Component α} (hc : c ∈ split.components) : ∃ k ∈ other.components,
      k.nodeId = c.nodeId ∧ k.depth = c.depth ∧ other.ownerNode? k = split.ownerNode? c := by
  obtain ⟨n, hn, node, depth, parent⟩ := closed.exists_node hc
  obtain ⟨k, hk, same, _⟩ := below.exists_componentOf? ((chosen_sublist_chosen le).subset hn)
  obtain ⟨n', hn', node', depth', parent'⟩ := below.exists_node hk
  have eq : n' = n := eq_of_id_eq distinct (sublist_chosen.subset hn')
    (sublist_chosen.subset hn) (node'.symm.trans same)
  subst eq
  refine ⟨k, hk, same.trans node.symm, depth'.trans depth.symm, ?_⟩
  rw [below.ownerNode?_eq hn' parent', closed.ownerNode?_eq hn parent]

end Split
end Componentry
