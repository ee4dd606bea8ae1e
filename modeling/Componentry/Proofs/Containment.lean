import Componentry.Containment
import Componentry.Proofs.Dict
import Componentry.Proofs.Lists
import Mathlib.Data.List.Chain
import Mathlib.Logic.Relation

/-!
# Containment

Following the links depth-first finds a circle exactly when the links lead in one. A circle that is
found is closed: its links follow one another through different components, and the last one leads
to where the first one starts. Where none is found, every component is settled in the end: its links
lead to settled ones only, and none of them leads back. A path has no component twice, so it is no
longer than the list of components, and the depth of the search is never used up. Links that all
lead to a higher rank lead in no circle.

Components with ids of their own are refused for a circle, or have a tree: a node for each of them,
which agrees with the links on its children, its parent and its siblings.
-/

set_option autoImplicit false

namespace Componentry
namespace Containment

variable {r : String → String → Prop} {links circle : List (String × String)}
  {ids path safe : List String}

/-- A link leads from one component to another. -/
def Linked (links : List (String × String)) (a b : String) : Prop := (a, b) ∈ links

/-- A relation leads from some component back to itself, in one step or more. -/
def IsCircular (r : String → String → Prop) : Prop := ∃ id, Relation.TransGen r id id

/-- Links of a relation make up a closed path through different components. -/
structure IsCircle (r : String → String → Prop) (circle : List (String × String)) : Prop where
  filled : circle ≠ []
  within : ∀ link ∈ circle, r link.1 link.2
  chained : circle.IsChain fun link next => link.2 = next.1
  closed : circle.getLast?.map Prod.snd = circle.head?.map Prod.fst
  simple : (circle.map Prod.fst).Nodup

/-- The targets of a component are those it has links to. -/
theorem mem_targets {id t : String} : t ∈ targets links id ↔ (id, t) ∈ links := by
  rw [targets, List.mem_map]
  constructor
  · rintro ⟨⟨a, b⟩, mem, rfl⟩
    obtain ⟨mem, start⟩ := List.mem_filter.1 mem
    rwa [← beq_iff_eq.1 start]
  · intro mem
    exact ⟨(id, t), List.mem_filter.2 ⟨mem, beq_self_eq_true id⟩, rfl⟩

/-! ## Closed paths -/

/-- Links that follow one another lead from the start of the first to the end of the last. -/
theorem transGen_of_chained {first last : String × String}
    (within : ∀ link ∈ circle, r link.1 link.2)
    (chained : circle.IsChain fun link next => link.2 = next.1) (head : circle.head? = some first)
    (final : circle.getLast? = some last) : Relation.TransGen r first.1 last.2 := by
  induction circle generalizing first with
  | nil => cases head
  | cons link rest ih =>
    obtain rfl := Option.some.inj head
    have here := within link List.mem_cons_self
    cases rest with
    | nil =>
      obtain rfl := Option.some.inj final
      exact .single here
    | cons next more =>
      rw [List.isChain_cons_cons] at chained
      rw [List.getLast?_cons_cons] at final
      refine .head here ?_
      rw [chained.1]
      exact ih (fun l hl => within l (List.mem_cons_of_mem link hl)) chained.2 rfl final

/-- A circle goes from a component back to itself. -/
theorem IsCircle.isCircular (h : IsCircle r circle) : IsCircular r := by
  obtain ⟨first, head⟩ := Option.ne_none_iff_exists'.1 (mt List.head?_eq_none_iff.1 h.filled)
  obtain ⟨last, final⟩ := Option.ne_none_iff_exists'.1 (mt List.getLast?_eq_none_iff.1 h.filled)
  have closed := h.closed
  rw [head, final, Option.map_some, Option.map_some, Option.some.injEq] at closed
  refine ⟨first.1, ?_⟩
  have around := transGen_of_chained h.within h.chained head final
  rwa [closed] at around

/-- The links along a path start at all its components but the last. -/
theorem map_fst_linksAlong : ∀ l : List String, (linksAlong l).map Prod.fst = l.dropLast
  | [] => rfl
  | [_] => rfl
  | a :: b :: rest => by
    rw [linksAlong, List.map_cons, map_fst_linksAlong (b :: rest), List.dropLast_cons_cons]

/-- The links along a path end at all its components but the first. -/
theorem map_snd_linksAlong : ∀ l : List String, (linksAlong l).map Prod.snd = l.tail
  | [] => rfl
  | [_] => rfl
  | a :: b :: rest => by
    rw [linksAlong, List.map_cons, map_snd_linksAlong (b :: rest)]
    rfl

/-- Each link along a path starts where the one before it ends. -/
theorem isChain_linksAlong : ∀ l : List String,
    (linksAlong l).IsChain fun link next => link.2 = next.1
  | [] => .nil
  | [_] => .nil
  | [_, _] => .singleton _
  | a :: b :: c :: rest => by
    rw [linksAlong, linksAlong, List.isChain_cons_cons]
    exact ⟨rfl, isChain_linksAlong (b :: c :: rest)⟩

/-- The links along a path of linked components are links. -/
theorem linksAlong_subset : ∀ {l : List String}, (l.IsChain fun a b => (a, b) ∈ links) →
    linksAlong l ⊆ links
  | [], _ => List.nil_subset links
  | [_], _ => List.nil_subset links
  | a :: b :: rest, chained => by
    rw [List.isChain_cons_cons] at chained
    rw [linksAlong, List.cons_subset]
    exact ⟨chained.1, linksAlong_subset chained.2⟩

/-- A path of links through different components, given with its end first. -/
structure IsPath (ids : List String) (links : List (String × String)) (path : List String) :
    Prop where
  chained : path.IsChain fun a b => (b, a) ∈ links
  distinct : path.Nodup
  known : path ⊆ ids

/-- A path goes on over a link to a component that is not on it. -/
theorem IsPath.cons {v t : String} (h : IsPath ids links (v :: path)) (link : (v, t) ∈ links)
    (known : t ∈ ids) (fresh : t ∉ v :: path) : IsPath ids links (t :: v :: path) where
  chained := List.isChain_cons_cons.2 ⟨link, h.chained⟩
  distinct := List.nodup_cons.2 ⟨fresh, h.distinct⟩
  known := List.cons_subset.2 ⟨known, h.known⟩

/-- A link from the end of a path back into it closes a circle. -/
theorem IsPath.isCircle_closing {v t : String} (h : IsPath ids links (v :: path))
    (link : (v, t) ∈ links) (back : t ∈ v :: path) :
    IsCircle (Linked links) (closing (v :: path) t) := by
  -- the path is cut where it first meets the component that the link leads to
  obtain ⟨inner, outer, whole, fresh⟩ := List.eq_append_cons_of_mem back
  have away : (v :: path).takeWhile (· != t) = inner := by
    rw [whole, List.takeWhile_append_of_pos, List.takeWhile_cons_of_neg (by simp), List.append_nil]
    exact fun a ha => bne_iff_ne.2 fun same => fresh (same ▸ ha)
  have front : inner ++ [t] <+: v :: path := by
    rw [whole]
    exact ⟨outer, (List.append_cons inner t outer).symm⟩
  -- read backwards, the components of the circle are the start of the path between two `t`
  have round : (t :: (inner.reverse ++ [t])).reverse = t :: (inner ++ [t]) := by simp
  have chained : (t :: (inner.reverse ++ [t])).IsChain fun a b => (a, b) ∈ links := by
    rw [← List.reverse_reverse (t :: (inner.reverse ++ [t])), round, List.isChain_reverse,
      List.isChain_cons]
    refine ⟨fun first head => ?_, h.chained.prefix front⟩
    obtain ⟨behind, eq⟩ := front
    have start : (inner ++ [t] ++ behind).head? = some first := by
      rw [List.head?_append, Option.mem_def.1 head]
      rfl
    rw [eq] at start
    obtain rfl := Option.some.inj start
    exact link
  have starts : (closing (v :: path) t).map Prod.fst = t :: inner.reverse := by
    rw [closing, away, map_fst_linksAlong, ← List.cons_append, List.dropLast_concat]
  have ends : (closing (v :: path) t).map Prod.snd = inner.reverse ++ [t] := by
    rw [closing, away, map_snd_linksAlong, List.tail_cons]
  refine ⟨?_, ?_, ?_, ?_, ?_⟩
  · intro empty
    rw [empty] at starts
    cases starts
  · rw [closing, away]
    exact fun link mem => linksAlong_subset chained mem
  · exact isChain_linksAlong _
  · rw [← List.getLast?_map, ← List.head?_map, starts, ends, List.getLast?_concat, List.head?_cons]
  · have distinct := h.distinct.sublist front.sublist
    rw [starts]
    rwa [← List.nodup_reverse, List.reverse_concat] at distinct

/-! ## The search -/

/-- Components whose links lead to such components only, and none of which leads back to itself. -/
structure IsSettled (links : List (String × String)) (safe : List String) : Prop where
  closed : ∀ v ∈ safe, ∀ t, (v, t) ∈ links → t ∈ safe
  straight : ∀ v ∈ safe, ¬ Relation.TransGen (Linked links) v v

/-- Nothing is settled at first. -/
theorem isSettled_nil : IsSettled links [] where
  closed _ hv := absurd hv List.not_mem_nil
  straight _ hv := absurd hv List.not_mem_nil

/-- What settled components lead to is settled. -/
theorem IsSettled.mem_of_leads {v t : String} (h : IsSettled links safe) (hv : v ∈ safe)
    (way : Relation.TransGen (Linked links) v t) : t ∈ safe := by
  induction way with
  | single link => exact h.closed v hv _ link
  | tail _ link ih => exact h.closed _ ih _ link

/-- A component that links to settled ones only is settled. -/
theorem IsSettled.cons {v : String} (h : IsSettled links safe)
    (all : ∀ t, (v, t) ∈ links → t ∈ safe) : IsSettled links (v :: safe) where
  closed u hu t link := by
    rcases List.mem_cons.1 hu with rfl | hu
    · exact List.mem_cons_of_mem _ (all t link)
    · exact List.mem_cons_of_mem _ (h.closed u hu t link)
  straight u hu way := by
    have stays : u ∈ safe := by
      rcases List.mem_cons.1 hu with rfl | hu
      · -- the way back goes on from a settled component
        obtain ⟨t, link, rest⟩ := Relation.TransGen.head'_iff.1 way
        rcases Relation.reflTransGen_iff_eq_or_transGen.1 rest with rfl | rest
        · exact all _ link
        · exact h.mem_of_leads (all t link) rest
      · exact hu
    exact h.straight u stays way

/-- How a search ends that starts with some settled components and has to settle others: with a
circle, or with all of them settled. -/
def Settles (links : List (String × String)) (safe wanted : List String) :
    Except (List (String × String)) (List String) → Prop
  | .error circle => IsCircle (Linked links) circle
  | .ok found => IsSettled links found ∧ safe ⊆ found ∧ wanted ⊆ found

/-- Steps that each settle one component settle them all, or end with a circle. -/
theorem settles_foldlM {step : List String → String → Except (List (String × String)) (List String)}
    {wanted : List String}
    (each : ∀ safe, IsSettled links safe → ∀ t ∈ wanted, Settles links safe [t] (step safe t))
    (safe : List String) (settled : IsSettled links safe) :
    Settles links safe wanted (wanted.foldlM step safe) := by
  induction wanted generalizing safe with
  | nil => exact ⟨settled, List.Subset.refl safe, List.nil_subset safe⟩
  | cons t rest ih =>
    have first := each safe settled t List.mem_cons_self
    rw [List.foldlM_cons]
    -- A circle that is found ends the run; else the later steps start from what is settled.
    cases eq : step safe t with
    | error circle =>
      rw [eq] at first
      exact first
    | ok found =>
      rw [eq] at first
      obtain ⟨settled, kept, here⟩ := first
      have others := ih (fun safe hs t ht => each safe hs t (List.mem_cons_of_mem _ ht)) found
        settled
      show Settles links safe (t :: rest) (rest.foldlM step found)
      cases eq : rest.foldlM step found with
      | error circle =>
        rw [eq] at others
        exact others
      | ok final =>
        rw [eq] at others
        obtain ⟨settled, more, there⟩ := others
        refine ⟨settled, List.Subset.trans kept more, List.cons_subset.2 ⟨more (here ?_), there⟩⟩
        exact List.mem_cons_self

/-- A component whose links have been followed is settled. -/
theorem Settles.visited {v : String}
    {search : Except (List (String × String)) (List String)}
    (h : Settles links safe (targets links v) search) :
    Settles links safe [v] (search.map fun found => v :: found) := by
  cases search with
  | error circle => exact h
  | ok found =>
    obtain ⟨settled, kept, all⟩ := h
    refine ⟨settled.cons fun t link => all (mem_targets.2 link), ?_, ?_⟩
    · exact List.Subset.trans kept (List.subset_cons_self v found)
    · exact List.cons_subset.2 ⟨List.mem_cons_self, List.nil_subset _⟩

/-- Nothing is to be done about what is settled. -/
theorem settles_of_mem {t : String} (settled : IsSettled links safe) (h : t ∈ safe) :
    Settles links safe [t] (.ok safe) :=
  ⟨settled, List.Subset.refl safe, List.cons_subset.2 ⟨h, List.nil_subset safe⟩⟩

section
variable (known : ∀ link ∈ links, link.2 ∈ ids)
include known

/-- Following the links from the end of a path settles what they lead to, or finds a circle. -/
theorem settles_follow (fuel : Nat) {v : String} (h : IsPath ids links (v :: path))
    (deep : ids.length < fuel + (v :: path).length) (settled : IsSettled links safe) :
    Settles links safe (targets links v) (follow links fuel (v :: path) safe) := by
  induction fuel generalizing v path safe with
  | zero =>
    have short := Lists.length_le_of_nodup_of_subset h.distinct h.known
    omega
  | succ fuel ih =>
    rw [follow]
    refine settles_foldlM (fun safe settled t ht => ?_) safe settled
    have link := mem_targets.1 ht
    split
    next back => exact h.isCircle_closing link (List.contains_iff_mem.1 back)
    next fresh =>
      split
      next old => exact settles_of_mem settled (List.contains_iff_mem.1 old)
      next =>
        rw [List.contains_iff_mem] at fresh
        have longer := h.cons link (known _ link) fresh
        have deeper : ids.length < fuel + (t :: v :: path).length := by
          simp only [List.length_cons] at deep ⊢
          omega
        exact (ih longer deeper settled).visited

/-- The whole search settles all components, or finds a circle. -/
theorem settles_search : Settles links [] ids (ids.foldlM (fun safe v =>
    if safe.contains v then .ok safe
    else (follow links ids.length [v] safe).map fun safe => v :: safe) []) := by
  refine settles_foldlM (fun safe settled v hv => ?_) [] isSettled_nil
  split
  next old => exact settles_of_mem settled (List.contains_iff_mem.1 old)
  next =>
    have alone : IsPath ids links [v] :=
      ⟨.singleton v, List.nodup_singleton v, List.cons_subset.2 ⟨hv, List.nil_subset ids⟩⟩
    exact (settles_follow known ids.length alone (Nat.lt_succ_self _) settled).visited

/-- A circle that is found is one. -/
theorem isCircle_of_circle? (h : circle? ids links = some circle) :
    IsCircle (Linked links) circle := by
  have search := settles_search known
  rw [circle?] at h
  split at h
  · cases h
  next found eq =>
    rw [eq] at search
    exact Option.some.inj h ▸ search

/-- A circle is found exactly when the links lead in one. -/
theorem circle?_eq_none_iff (sources : ∀ link ∈ links, link.1 ∈ ids) :
    circle? ids links = none ↔ ¬ IsCircular (Linked links) := by
  have search := settles_search known
  constructor
  · rintro none ⟨id, way⟩
    rw [circle?] at none
    split at none
    next found eq =>
      rw [eq] at search
      obtain ⟨settled, _, all⟩ := search
      obtain ⟨t, link, _⟩ := Relation.TransGen.head'_iff.1 way
      exact settled.straight id (all (sources _ link)) way
    · cases none
  · intro straight
    rw [Option.eq_none_iff_forall_ne_some]
    intro circle found
    exact straight (isCircle_of_circle? known found).isCircular

end

/-! ## Ranks -/

/-- Every link leads to a higher rank. -/
def IsRanked (rank : String → Nat) (links : List (String × String)) : Prop :=
  ∀ link ∈ links, rank link.1 < rank link.2

/-- Links of rising rank lead from nothing back to itself. -/
theorem IsRanked.not_circular {rank : String → Nat} (ranked : IsRanked rank links) (id : String) :
    ¬ Relation.TransGen (fun a b => (a, b) ∈ links) id id := by
  have rises : ∀ {a b : String}, Relation.TransGen (fun a b => (a, b) ∈ links) a b →
      rank a < rank b := by
    intro a b way
    induction way with
    | single link => exact ranked _ link
    | tail _ link ih => exact Nat.lt_trans ih (ranked _ link)
  exact fun circle => Nat.lt_irrefl _ (rises circle)

end Containment

/-! ## Components -/

/-- A listed component has another listed one as a child. -/
def Contained.HasChild (l : List Contained) (a b : String) : Prop :=
  ∃ c ∈ l, c.id = a ∧ b ∈ c.children ∧ b ∈ l.map Contained.id

namespace Contained
variable {l : List Contained}

/-- A component is known when it is listed. -/
theorem knows_iff {id : String} : knows l id = true ↔ id ∈ l.map Contained.id := by
  simp [knows, List.mem_map]

/-- The links between listed components are the children that they list, in that order, without
those that are not listed. -/
theorem links_eq (l : List Contained) : links l =
    (l.flatMap fun c => c.children.map fun child => (c.id, child)).filter fun link =>
      knows l link.2 := by
  rw [links, List.filter_flatMap]
  congr 1
  funext c
  rw [List.filter_map]
  rfl

/-- The links between listed components are those to their listed children. -/
theorem linked_links : Containment.Linked (links l) = HasChild l := by
  funext a b
  rw [Containment.Linked, links_eq, List.mem_filter, knows_iff, HasChild]
  simp only [List.mem_flatMap, List.mem_map, Prod.mk.injEq]
  refine propext ⟨?_, ?_⟩
  · rintro ⟨⟨c, hc, child, hchild, rfl, rfl⟩, known⟩
    exact ⟨c, hc, rfl, hchild, known⟩
  · rintro ⟨c, hc, rfl, hchild, known⟩
    exact ⟨⟨c, hc, b, hchild, rfl, rfl⟩, known⟩

/-- Both ends of a link are listed. -/
theorem mem_ids_of_mem_links {link : String × String} (h : link ∈ links l) :
    link.1 ∈ l.map Contained.id ∧ link.2 ∈ l.map Contained.id := by
  have child : HasChild l link.1 link.2 := linked_links ▸ h
  obtain ⟨c, hc, same, _, known⟩ := child
  exact ⟨same ▸ List.mem_map_of_mem hc, known⟩

/-- The components by their ids, with their depths. -/
def depths (l : List Contained) : Dict Int := Dict.ofList (l.map fun c => (c.id, c.depth))

/-- Depths are given to the components that are listed. -/
theorem mem_keys_depths {id : String} : id ∈ (depths l).keys ↔ id ∈ l.map Contained.id := by
  rw [depths, Dict.mem_keys_ofList, List.map_map]
  rfl

/-- Among components a circle is found exactly when they contain one another in a circle, and it is
one of these. -/
theorem circle?_depths_cases :
    (∃ circle, Containment.circle? (depths l).keys (links l) = some circle ∧
      Containment.IsCircle (HasChild l) circle) ∨
    (Containment.circle? (depths l).keys (links l) = none ∧
      ¬ Containment.IsCircular (HasChild l)) := by
  have targets : ∀ link ∈ links l, link.2 ∈ (depths l).keys := fun _ h =>
    mem_keys_depths.2 (mem_ids_of_mem_links h).2
  have sources : ∀ link ∈ links l, link.1 ∈ (depths l).keys := fun _ h =>
    mem_keys_depths.2 (mem_ids_of_mem_links h).1
  rw [← linked_links]
  cases found : Containment.circle? (depths l).keys (links l) with
  | none => exact .inr ⟨rfl, (Containment.circle?_eq_none_iff targets sources).1 found⟩
  | some circle => exact .inl ⟨circle, rfl, Containment.isCircle_of_circle? targets found⟩

/-- A link comes from a listed component that has the other as a child. -/
theorem exists_of_mem_links {link : String × String} (h : link ∈ links l) :
    ∃ c ∈ l, c.id = link.1 ∧ link.2 ∈ c.children := by
  have child : HasChild l link.1 link.2 := linked_links ▸ h
  obtain ⟨c, hc, same, mem, _⟩ := child
  exact ⟨c, hc, same, mem⟩

/-- A component that nothing contains, by the links and by what it says itself. -/
def IsFree (links : List (String × String)) (c : Contained) : Prop :=
  (∀ link ∈ links, link.2 ≠ c.id) ∧ (c.parentId = none ∨ c.parentId = some "")

end Contained

namespace ContainmentTree
open Contained (IsFree HasChild depths)

variable {l : List Contained}

/-- A node of a tree says how a component stands in it. -/
structure IsNodeOf (tree : ContainmentTree) (c : Contained) (node : TreeNode) : Prop where
  id : node.id = c.id
  depth : node.depth = c.depth
  childIds : node.childIds = (tree.links.filter fun link => link.1 == node.id).map Prod.snd
  /-- A component that is a child has one of its containers as its parent, and the other children
  of that one as its siblings. -/
  placed : (∃ link ∈ tree.links, link.2 = node.id) → ∃ parent ∈ tree.nodes,
    node.parentId = some parent.id ∧ node.id ∈ parent.childIds ∧
      node.siblings = parent.childIds.filter fun id => id != node.id
  alone : (∀ link ∈ tree.links, link.2 ≠ node.id) → node.parentId = none ∧ node.siblings = []

/-- The id of the root: that of the first of the shallowest free components, or of the first
component where none is free. -/
inductive IsRoot (l : List Contained) (links : List (String × String)) : String → Prop
  | free (before after : List Contained) (c : Contained) : l = before ++ c :: after →
      IsFree links c → (∀ d ∈ before, IsFree links d → c.depth < d.depth) →
      (∀ d ∈ after, IsFree links d → c.depth ≤ d.depth) → IsRoot l links c.id
  | first (c : Contained) (rest : List Contained) : l = c :: rest →
      (∀ d ∈ l, ¬ IsFree links d) → IsRoot l links c.id

/-- A tree shows how listed components contain one another. -/
structure IsTreeOf (l : List Contained) (tree : ContainmentTree) : Prop where
  /-- The links are the listed children of the components, in the order of listing. -/
  links : tree.links = (l.flatMap fun c => c.children.map fun child => (c.id, child)).filter
    fun link => l.any fun d => d.id == link.2
  /-- Each component has one node. -/
  nodes : List.Forall₂ (IsNodeOf tree) l tree.nodes
  root : IsRoot l tree.links tree.root

/-! ## Nodes -/

/-- A container of a component links to it. -/
theorem mem_of_container? {links : List (String × String)} {id parent : String}
    (h : container? links id = some parent) : (parent, id) ∈ links := by
  obtain ⟨link, found, rfl⟩ := Option.map_eq_some_iff.1 h
  have same := List.find?_some found
  rw [beq_iff_eq] at same
  rw [← same]
  exact List.mem_reverse.1 (List.mem_of_find?_eq_some found)

/-- A component without a container is the end of no link. -/
theorem container?_eq_none_iff {links : List (String × String)} {id : String} :
    container? links id = none ↔ ∀ link ∈ links, link.2 ≠ id := by
  simp [container?]

/-- The node of a listed component says how it stands. -/
theorem isNodeOf_node {tree : ContainmentTree} {c : Contained}
    (known : tree.links = Contained.links l)
    (nodes : tree.nodes = l.map fun c => node (Contained.links l) c.id c.depth) :
    IsNodeOf tree c (node (Contained.links l) c.id c.depth) where
  id := rfl
  depth := rfl
  childIds := by
    rw [known]
    rfl
  placed held := by
    rw [known] at held
    obtain ⟨link, hlink, same⟩ := held
    cases found : container? (Contained.links l) c.id with
    | none => exact absurd same (container?_eq_none_iff.1 found link hlink)
    | some parent =>
      have mem := mem_of_container? found
      obtain ⟨p, hp, rfl, _⟩ := Contained.exists_of_mem_links mem
      refine ⟨node (Contained.links l) p.id p.depth, ?_, found, Containment.mem_targets.2 mem, ?_⟩
      · rw [nodes]
        exact List.mem_map_of_mem hp
      · simp only [node, found]
  alone free := by
    rw [known] at free
    have none := container?_eq_none_iff.2 free
    simp only [node] at none ⊢
    rw [none]
    exact ⟨rfl, rfl⟩

/-! ## The root -/

/-- The search for the shallowest component passes over no shallower one, and keeps the first. -/
theorem exists_shallowest (rest before seen : List Contained) (best : Contained)
    (left : ∀ d ∈ before, best.depth < d.depth) (right : ∀ d ∈ seen, best.depth ≤ d.depth) :
    ∃ before' after' c,
      rest.foldl (fun best d => if d.depth < best.depth then d else best) best = c ∧
      before ++ best :: seen ++ rest = before' ++ c :: after' ∧
      (∀ d ∈ before', c.depth < d.depth) ∧ ∀ d ∈ after', c.depth ≤ d.depth := by
  induction rest generalizing before seen best with
  | nil => exact ⟨before, seen, best, rfl, List.append_nil _, left, right⟩
  | cons d rest ih =>
    rw [List.foldl_cons]
    split
    -- The new best is shallower than all before it, so these all go to its left.
    next less =>
      have deeper : ∀ e ∈ before ++ best :: seen, d.depth < e.depth := by
        intro e he
        rcases List.mem_append.1 he with he | he
        · exact Int.lt_trans less (left e he)
        · rcases List.mem_cons.1 he with rfl | he
          · exact less
          · exact Int.lt_of_lt_of_le less (right e he)
      obtain ⟨before', after', c, eq, whole, h⟩ := ih (before ++ best :: seen) [] d deeper (by simp)
      refine ⟨before', after', c, eq, ?_, h⟩
      simpa using whole
    next more =>
      have others : ∀ e ∈ seen ++ [d], best.depth ≤ e.depth := by
        intro e he
        rcases List.mem_append.1 he with he | he
        · exact right e he
        · obtain rfl := List.mem_singleton.1 he
          exact Int.not_lt.1 more
      obtain ⟨before', after', c, eq, whole, h⟩ := ih before (seen ++ [d]) best left others
      refine ⟨before', after', c, eq, ?_, h⟩
      simpa using whole

/-- A component is free when no link leads to it and it names no parent. -/
theorem isFree_iff {links : List (String × String)} {c : Contained} :
    (!(links.any fun link => link.2 == c.id) && c.parentId.getD "" == "") = true ↔
      IsFree links c := by
  have parent : c.parentId.getD "" = "" ↔ c.parentId = none ∨ c.parentId = some "" := by
    cases c.parentId <;> simp
  rw [Bool.and_eq_true, beq_iff_eq, parent]
  simp [IsFree]

/-- The root of listed components is the first free one, or the first of the shallowest. -/
theorem isRoot_rootOf (some_ : l ≠ []) (links : List (String × String)) :
    IsRoot l links (rootOf l links) := by
  rw [rootOf.eq_def]
  cases free : l.filter fun c =>
      !(links.any fun link => link.2 == c.id) && c.parentId.getD "" == "" with
  | nil =>
    obtain ⟨c, rest, rfl⟩ := List.exists_cons_of_ne_nil some_
    refine .first c rest rfl fun d hd held => ?_
    exact List.filter_eq_nil_iff.1 free d hd (isFree_iff.2 held)
  | cons c rest =>
    obtain ⟨before, after, best, eq, whole, left, right⟩ :=
      exists_shallowest rest [] [] c (by simp) (by simp)
    rw [List.nil_append, List.singleton_append, ← free] at whole
    obtain ⟨first, others, rfl, shown, behind⟩ := List.filter_eq_append_iff.1 whole
    obtain ⟨more, last, rfl, hidden, found, rfl⟩ := List.filter_eq_cons_iff.1 behind
    rw [← List.append_assoc] at free whole ⊢
    show IsRoot _ _ (rest.foldl _ c).id
    rw [eq]
    refine .free (first ++ more) last best rfl (isFree_iff.1 found) ?_ ?_
    · intro d hd held
      rcases List.mem_append.1 hd with hd | hd
      · exact left d (shown ▸ List.mem_filter.2 ⟨hd, isFree_iff.2 held⟩)
      · exact absurd (isFree_iff.2 held) (hidden d hd)
    · intro d hd held
      exact right d (List.mem_filter.2 ⟨hd, isFree_iff.2 held⟩)

/-! ## The tree -/

/-- Components whose links have a rising rank have a tree. -/
theorem exists_build {rank : String → Nat}
    (ranked : Containment.IsRanked rank (Contained.links l)) :
    ∃ tree, (build l).result = .ok tree := by
  have straight : ¬ Containment.IsCircular (Contained.HasChild l) := by
    rw [← Contained.linked_links]
    exact fun ⟨id, way⟩ => ranked.not_circular id way
  rcases Contained.circle?_depths_cases (l := l) with ⟨_, _, circle⟩ | ⟨none, _⟩
  · exact absurd circle.isCircular straight
  · rw [Contained.depths] at none
    rw [build, none]
    exact ⟨_, rfl⟩

/-- Components with ids of their own are refused exactly if they contain one another in a circle,
which is told; else they have a tree that shows how they contain one another. -/
theorem build_isTreeOf_or_circular (some_ : l ≠ []) (distinct : (l.map Contained.id).Nodup) :
    (Containment.IsCircular (HasChild l) ∧ ∃ circle,
      (build l).result = .error (.circularContainment circle) ∧
        Containment.IsCircle (HasChild l) circle) ∨
    (¬ Containment.IsCircular (HasChild l) ∧ ∃ tree,
      (build l).result = .ok tree ∧ IsTreeOf l tree) := by
  have entries : (depths l).entries = l.map fun c => (c.id, c.depth) := by
    refine Dict.entries_ofList ?_
    rw [List.map_map]
    exact distinct
  rw [build, ← depths]
  rcases Contained.circle?_depths_cases (l := l) with ⟨circle, found, closed⟩ | ⟨none, straight⟩
  · rw [found]
    exact .inl ⟨closed.isCircular, circle, rfl, closed⟩
  · rw [none]
    refine .inr ⟨straight, _, rfl, Contained.links_eq l, ?_, isRoot_rootOf some_ _⟩
    have nodes : (depths l).entries.map (fun p => node (Contained.links l) p.1 p.2) =
        l.map fun c => node (Contained.links l) c.id c.depth := by
      rw [entries, List.map_map]
      rfl
    show List.Forall₂ _ l ((depths l).entries.map fun p => node (Contained.links l) p.1 p.2)
    rw [nodes, List.forall₂_map_right_iff, List.forall₂_same]
    exact fun c _ => isNodeOf_node rfl rfl

/-- An item that a menu and a list share has the list as its parent, which comes last, and stands
beside the other item there. A note that is not listed is left out. -/
theorem build_isTreeOf_sharedItem :
    let l : List Contained := [
      { id := "page", children := ["menu", "list", "note"] },
      { id := "menu", children := ["item"], depth := 1, parentId := some "page" },
      { id := "list", children := ["item", "link"], depth := 1, parentId := some "page" },
      { id := "item", depth := 2, parentId := some "menu" },
      { id := "link", depth := 2, parentId := some "list" }]
    ∃ tree, (build l).result = .ok tree ∧ tree.root = "page" ∧
      tree.nodes.map (fun node => (node.parentId, node.siblings)) =
        [(none, []), (some "page", ["list"]), (some "page", ["menu"]), (some "list", ["link"]),
          (some "list", ["item"])] ∧
      ¬ Containment.IsCircular (HasChild l) ∧ IsTreeOf l tree := by
  intro l
  have made : (build l).result = .ok _ := rfl
  rcases build_isTreeOf_or_circular (l := l) (List.cons_ne_nil _ _) (by decide) with
    ⟨_, _, refused, _⟩ | ⟨straight, tree, told, shown⟩
  · cases made.symm.trans refused
  · obtain rfl := Except.ok.inj (made.symm.trans told)
    exact ⟨_, made, rfl, rfl, straight, shown⟩

example : (build [{ id := "a", children := ["b", "c"] }, { id := "b" },
    { id := "c", children := ["b", "a"] }]).result =
      .error (.circularContainment [("a", "c"), ("c", "a")]) := rfl

end ContainmentTree
end Componentry
