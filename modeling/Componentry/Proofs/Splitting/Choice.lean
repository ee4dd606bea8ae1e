import Componentry.Proofs.Splitting.Extraction

/-!
# Elements that become components

The elements that become components are those with a reason that have no more than a number of
others with a reason around them. With such an element all elements with a reason around it are
among them, and the nearest of these has one less around it.
-/

set_option autoImplicit false

namespace Componentry
open Componentry.Node

variable {α : Type}

/-- The elements with a reason around a node, the outermost first. -/
def reasonedAround (decide : Node → Option (Decision α)) (root n : Node) : List Node :=
  (root.around n).filter (Extraction.isReasoned decide)

/-- The elements that become components: those with a reason, and no more than a number of others
with one around them. -/
def chosen (decide : Node → Option (Decision α)) (deepest : Int) (root : Node) : List Node :=
  root.elements.filter fun n =>
    Extraction.isReasoned decide n && ((reasonedAround decide root n).length : Int) ≤ deepest

namespace Extraction

variable {decide : Node → Option (Decision α)} {deepest : Int} {root : Node}

/-- What becomes of an element of a page. -/
def ofNode? (decide : Node → Option (Decision α)) (root n : Node) : Option (Extraction α) :=
  (decide n).map fun decision =>
    ⟨n, (reasonedAround decide root n).length, (reasonedAround decide root n).getLast?.map Node.id,
      decision⟩

section
variable (distinct : root.ids.Nodup)
include distinct

/-- The reasons in a lineage are those around the element. -/
theorem countP_of_mem_lineages {p : Node × List Node} (h : p ∈ root.lineages) :
    p.2.countP (isReasoned decide) = (reasonedAround decide root p.1).length := by
  rw [reasonedAround, ← reverse_of_mem_lineages distinct h, ← List.countP_eq_length_filter,
    List.countP_reverse]

/-- The nearest element with a reason is the last one around. -/
theorem find?_of_mem_lineages {p : Node × List Node} (h : p ∈ root.lineages) :
    p.2.find? (isReasoned decide) = (reasonedAround decide root p.1).getLast? := by
  rw [reasonedAround, ← reverse_of_mem_lineages distinct h, List.filter_reverse,
    List.getLast?_reverse, List.head?_filter]

/-- An element is extracted by its lineage as it is by what is around it. -/
theorem ofLineage?_of_mem {p : Node × List Node} (h : p ∈ root.lineages) :
    ofLineage? decide deepest p =
      if ((reasonedAround decide root p.1).length : Int) ≤ deepest then ofNode? decide root p.1
      else none := by
  rw [ofLineage?, ofNode?, countP_of_mem_lineages distinct h, find?_of_mem_lineages distinct h]

/-- All elements with a reason around a chosen one are chosen, and the nearest one has one less of
them around it. -/
theorem chosen_around (plain : ∀ c ∈ root.children, IsPlain c) {n m : Node}
    (hn : n ∈ chosen decide deepest root) (hm : m ∈ reasonedAround decide root n) :
    m ∈ chosen decide deepest root ∧
      ((reasonedAround decide root n).getLast? = some m →
        (reasonedAround decide root n).length = (reasonedAround decide root m).length + 1) := by
  obtain ⟨element, both⟩ := List.mem_filter.1 hn
  obtain ⟨_, limit⟩ := Bool.and_eq_true_iff.1 both
  rw [← lineages_map_fst plain] at element
  obtain ⟨p, hp, rfl⟩ := List.mem_map.1 element
  obtain ⟨around, reason⟩ := List.mem_filter.1 hm
  rw [← reverse_of_mem_lineages distinct hp, List.mem_reverse] at around
  -- Cut the lineage at the one around: what is above it there is its own lineage.
  have suffix : ∀ {a b : List Node}, p.2 = a ++ m :: b → m ∈ chosen decide deepest root ∧
      (reasonedAround decide root p.1).length =
        a.countP (isReasoned decide) + 1 + (reasonedAround decide root m).length := by
    intro a b eq
    have met := mem_lineages_of_suffix hp eq
    have count : p.2.countP (isReasoned decide) = (reasonedAround decide root p.1).length :=
      countP_of_mem_lineages distinct hp
    have inner : b.countP (isReasoned decide) = (reasonedAround decide root m).length :=
      countP_of_mem_lineages distinct met
    rw [eq, List.countP_append, List.countP_cons_of_pos reason, inner] at count
    refine ⟨List.mem_filter.2 ⟨?_, Bool.and_eq_true_iff.2 ⟨reason, ?_⟩⟩, by omega⟩
    · rw [← lineages_map_fst plain]
      exact List.mem_map.2 ⟨_, met, rfl⟩
    · have := of_decide_eq_true limit
      exact decide_eq_true (by omega)
  obtain ⟨a, b, eq⟩ := List.append_of_mem around
  refine ⟨(suffix eq).1, fun last => ?_⟩
  rw [← find?_of_mem_lineages distinct hp] at last
  obtain ⟨_, a, b, eq, none⟩ := List.find?_eq_some_iff_append.1 last
  have zero : a.countP (isReasoned decide) = 0 := by
    rw [List.countP_eq_zero]
    intro k hk
    have := none k hk
    simpa using this
  have := (suffix eq).2
  omega

/-- The extracted elements are the chosen ones, in their order. -/
theorem extractions_eq (plain : ∀ c ∈ root.children, IsPlain c) :
    (Visit.ofRoot decide deepest root).filterMap Visit.extraction? =
      (chosen decide deepest root).filterMap (ofNode? decide root) := by
  have limited : root.lineages.filterMap (ofLineage? decide deepest) =
      root.lineages.filterMap fun p =>
        if ((reasonedAround decide root p.1).length : Int) ≤ deepest then ofNode? decide root p.1
        else none :=
    List.filterMap_congr fun p hp => ofLineage?_of_mem distinct hp
  rw [Visit.extractions_ofRoot, limited, chosen, ← lineages_map_fst plain, List.filterMap_filter,
    List.filterMap_map]
  refine List.filterMap_congr fun p _ => ?_
  dsimp only [Function.comp_apply]
  cases reason : decide p.1 with
  | none =>
    rw [ofNode?, reason, Option.map_none, ite_self, ite_self]
  | some d =>
    simp only [isReasoned_of_some reason, Bool.true_and, decide_eq_true_eq]

end

/-- What is true of every chosen element is true of the extracted ones, member by member. -/
theorem map_filterMap_ofNode? {β : Type} {f : Extraction α → β} {g : Node → β}
    (each : ∀ n e, ofNode? decide root n = some e → f e = g n) : ∀ {l : List Node},
    (∀ n ∈ l, isReasoned decide n = true) → (l.filterMap (ofNode? decide root)).map f = l.map g
  | [], _ => rfl
  | n :: rest, reasoned => by
    obtain ⟨d, reason⟩ := Option.isSome_iff_exists.1 (reasoned n List.mem_cons_self)
    have here : ∃ e, ofNode? decide root n = some e := by
      rw [ofNode?, reason]
      exact ⟨_, rfl⟩
    obtain ⟨e, here⟩ := here
    rw [List.filterMap_cons_some here, List.map_cons, List.map_cons, each n e here,
      map_filterMap_ofNode? each fun k hk => reasoned k (List.mem_cons_of_mem _ hk)]

/-- There is a reason for every chosen element. -/
theorem reasoned_of_mem_chosen : ∀ n ∈ chosen decide deepest root, isReasoned decide n = true :=
  fun _ hn => (Bool.and_eq_true_iff.1 (List.mem_filter.1 hn).2).1

/-- An extracted element is a chosen one, with what stands around it. -/
theorem of_mem_filterMap_ofNode? {e : Extraction α}
    (h : e ∈ (chosen decide deepest root).filterMap (ofNode? decide root)) :
    e.node ∈ chosen decide deepest root ∧
      e.depth = (reasonedAround decide root e.node).length ∧
      e.owner = (reasonedAround decide root e.node).getLast?.map Node.id := by
  obtain ⟨n, hn, made⟩ := List.mem_filterMap.1 h
  obtain ⟨d, _, rfl⟩ := Option.map_eq_some_iff.1 made
  exact ⟨hn, rfl, rfl⟩

end Extraction
end Componentry
