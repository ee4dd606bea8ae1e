import Componentry.Proofs.Containment
import Componentry.Proofs.Naming.Freshness
import Componentry.Proofs.Splitting.Choice
import Mathlib.Data.List.Nodup

/-!
# Components of a page

Components have ids by their place in the list and names of their own. A component stands in the one
of its owner, and lists the components that stand in it. Where an owner lies one level above, no
component contains itself.
-/

set_option autoImplicit false

namespace Componentry.Extraction
open Componentry.Text

variable {α : Type}

/-- Ids of components tell their numbers apart. -/
theorem componentId_inj {i j : Nat} : componentId i = componentId j ↔ i = j := by
  rw [componentId, componentId, String.append_right_inj, natText_inj, Nat.add_right_cancel_iff]

/-- There is a name for each extracted element. -/
theorem length_names : ∀ (namer : Namer) (all : List (Extraction α)),
    (names namer all).length = all.length
  | _, [] => rfl
  | namer, e :: rest => by
    rw [names, List.length_cons, List.length_cons]
    exact congrArg (· + 1) (length_names (namer.name e.nameRequest).2 rest)

/-- Names that are given were not given before, and are not given twice. -/
theorem nodup_given_append_names : ∀ (namer : Namer) (all : List (Extraction α)),
    namer.given.Nodup → (namer.given ++ names namer all).Nodup
  | namer, [], h => by
    rw [names, List.append_nil]
    exact h
  | namer, e :: rest, h => by
    have next : (namer.name e.nameRequest).2.given.Nodup := Namer.nodup_given_claim h _ _
    have all := nodup_given_append_names _ rest next
    change (namer.given ++ [_] ++ _).Nodup at all
    rwa [List.append_assoc, List.singleton_append] at all

/-- No two extracted elements share a name. -/
theorem nodup_names {namer : Namer} (h : namer.given = []) (all : List (Extraction α)) :
    (names namer all).Nodup := by
  have whole := nodup_given_append_names namer all (h ▸ List.nodup_nil)
  rwa [h, List.nil_append] at whole

/-- Only nodes of extracted elements have components. -/
theorem exists_of_idOfNode?_eq_some {all : List (Extraction α)} {k id : String}
    (h : idOfNode? all k = some id) :
    ∃ e i, (e, i) ∈ all.zipIdx ∧ e.node.id = k ∧ id = componentId i := by
  obtain ⟨i, found, rfl⟩ := Option.map_eq_some_iff.1 h
  obtain ⟨small, same, _⟩ := List.findIdx?_eq_some_iff_getElem.1 found
  exact ⟨all[i], i, List.mem_zipIdx_iff_getElem?.2 (List.getElem?_eq_getElem small),
    beq_iff_eq.1 same, rfl⟩

variable [Score α] {namer : Namer} {all : List (Extraction α)}

/-- The component of an extracted element and its place. -/
def componentAt (namer : Namer) (all : List (Extraction α)) (p : Extraction α × Nat) :
    Component α :=
  component all p.1 ((names namer all)[p.2]?.getD "") p.2

/-- The components are made of the extracted elements and their numbers. -/
theorem components_eq (namer : Namer) (all : List (Extraction α)) :
    components namer all = all.zipIdx.map (componentAt namer all) := by
  have size := length_names namer all
  refine List.ext_getElem (by simp [components, size]) fun i hi hj => ?_
  have small : i < (names namer all).length := by
    simp only [List.length_map, List.length_zipIdx] at hj
    omega
  simp [components, componentAt, small]

/-- What is known of each extracted element is known of its component. -/
theorem map_components {β : Type} {f : Component α → β} {g : Extraction α → β}
    (each : ∀ p ∈ all.zipIdx, f (componentAt namer all p) = g p.1) :
    (components namer all).map f = all.map g := by
  have firsts : all.map g = all.zipIdx.map fun p => g p.1 := by
    conv_lhs => rw [← List.zipIdx_map_fst 0 all, List.map_map]
    rfl
  rw [components_eq, List.map_map, firsts]
  exact List.map_congr_left each

/-- There is a component for each extracted element. -/
theorem length_components : (components namer all).length = all.length := by
  rw [components_eq, List.length_map, List.length_zipIdx]

/-- The ids of the components count them. -/
theorem map_id_components : (components namer all).map Component.id =
    (List.range all.length).map componentId := by
  have places : (components namer all).map Component.id =
      all.zipIdx.map fun p => componentId p.2 := by
    rw [components_eq, List.map_map]
    rfl
  rw [places, List.range_eq_range', ← List.zipIdx_map_snd 0 all, List.map_map]
  rfl

/-- The components have the names that were claimed for them. -/
theorem map_name_components : (components namer all).map Component.name = names namer all := by
  rw [components_eq, List.map_map]
  refine List.ext_getElem (by simp [length_names]) fun i hi hj => ?_
  simp [componentAt, component, hj]

/-! ## Standing -/

/-- The component of a node among components. -/
def componentOf? (l : List (Component α)) (nodeId : String) : Option (Component α) :=
  l.find? fun c => c.nodeId == nodeId

section
variable (distinct : (all.map fun e => e.node.id).Nodup)
include distinct

omit [Score α] in
/-- The id of an extracted element tells where it stands. -/
theorem idOfNode?_of_mem {e : Extraction α} {i : Nat} (h : (e, i) ∈ all.zipIdx) :
    idOfNode? all e.node.id = some (componentId i) := by
  obtain ⟨small, eq⟩ := List.mem_zipIdx' h
  have apart := List.pairwise_iff_getElem.1 (List.pairwise_map.1 distinct)
  have place : all.findIdx? (fun k => k.node.id == e.node.id) = some i := by
    rw [List.findIdx?_eq_some_iff_getElem, eq]
    refine ⟨small, beq_self_eq_true _, fun j before same => ?_⟩
    exact apart j i (Nat.lt_trans before small) small before (beq_iff_eq.1 same)
  rw [idOfNode?, place, Option.map_some]

omit [Score α] in
/-- An owner's component is the one that is made of the owner. -/
theorem bind_idOfNode?_eq_some_iff {e : Extraction α} {i : Nat} (h : (e, i) ∈ all.zipIdx)
    {owner : Option String} :
    owner.bind (idOfNode? all) = some (componentId i) ↔ owner = some e.node.id := by
  constructor
  · intro known
    obtain ⟨k, rfl, known⟩ := Option.bind_eq_some_iff.1 known
    obtain ⟨e', j, mem, rfl, same⟩ := exists_of_idOfNode?_eq_some known
    rw [componentId_inj] at same
    subst same
    obtain ⟨_, left⟩ := List.mem_zipIdx' h
    obtain ⟨_, right⟩ := List.mem_zipIdx' mem
    rw [left, right]
  · rintro rfl
    exact idOfNode?_of_mem distinct h

/-- The id of the component of a node is the id of the component that is made of it. -/
theorem idOfNode?_eq (k : String) :
    idOfNode? all k = (componentOf? (components namer all) k).map Component.id := by
  cases h : idOfNode? all k with
  | some id =>
    obtain ⟨e, i, mem, rfl, rfl⟩ := exists_of_idOfNode?_eq_some h
    have keys : ((components namer all).map Component.nodeId).Nodup := by
      rw [map_components (g := fun e => e.node.id) fun _ _ => rfl]
      exact distinct
    have made : componentAt namer all (e, i) ∈ components namer all := by
      rw [components_eq]
      exact List.mem_map_of_mem mem
    have found : componentOf? (components namer all) e.node.id =
        some (componentAt namer all (e, i)) :=
      Lists.find?_of_nodup_keys keys made
    rw [found]
    rfl
  | none =>
    symm
    rw [Option.map_eq_none_iff, componentOf?, List.find?_eq_none]
    intro c hc same
    rw [components_eq] at hc
    obtain ⟨⟨e, i⟩, mem, rfl⟩ := List.mem_map.1 hc
    have here : e.node.id = k := beq_iff_eq.1 same
    rw [← here, idOfNode?_of_mem distinct mem] at h
    cases h

/-- A component lists the components whose parent it is. -/
theorem children_componentAt {p : Extraction α × Nat} (hp : p ∈ all.zipIdx) :
    (componentAt namer all p).children =
      ((components namer all).filter fun c =>
        c.parentId == some (componentAt namer all p).id).map Component.id := by
  obtain ⟨e, i⟩ := p
  have inside : ∀ q ∈ all.zipIdx, (q.1.owner == some e.node.id) =
      ((componentAt namer all q).parentId == some (componentId i)) := by
    intro q _
    rw [Bool.eq_iff_iff, beq_iff_eq, beq_iff_eq]
    exact (bind_idOfNode?_eq_some_iff distinct hp).symm
  rw [components_eq, List.filter_map, List.map_map]
  show (all.zipIdx.filter fun q => q.1.owner == some e.node.id).map (fun q => componentId q.2) = _
  rw [List.filter_congr inside]
  rfl

end

end Componentry.Extraction
