import Componentry.Proofs.Section.Candidate
import Mathlib.Data.Int.Order.Basic

/-!
# Sweeping sections

The sweep goes through sections from the shallow to the deep and keeps those that no section before
covers. What it has covered at any time is what the sections behind it hold, kept or not, because a
section that is not kept lies in one that is. As a section lies deeper than those around it, the
sweep keeps exactly the sections that no other one holds, in whatever order sections of one depth
come.
-/

set_option autoImplicit false

namespace Componentry.PageSection
open Componentry.Text Componentry.Node

/-- A section holds the ids below its node. -/
theorem holds_iff {s : PageSection} {id : String} : s.holds id = true ↔ id ∈ s.node.ids := by
  rw [holds, List.any_eq_true, nodes, ids, List.mem_map]
  simp only [beq_iff_eq]

/-- Another section of a list holds the node of a section. -/
def isWithin (all : List PageSection) (s : PageSection) : Bool :=
  all.any fun t => t.node.id != s.node.id && t.holds s.node.id

/-- A section is within another one whose node is above its own. -/
theorem isWithin_iff {all : List PageSection} {s : PageSection} : isWithin all s = true ↔
    ∃ t ∈ all, t.node.id ≠ s.node.id ∧ s.node.id ∈ t.node.ids := by
  rw [isWithin, List.any_eq_true]
  simp only [Bool.and_eq_true, bne_iff_ne, holds_iff]

/-- Sections of different nodes, each deeper than those that hold it and with nothing they do not
hold. -/
structure AreNested (all : List PageSection) : Prop where
  apart : (all.map fun s => s.node.id).Nodup
  deeper : ∀ s ∈ all, ∀ t ∈ all, t.node.id ≠ s.node.id → s.node.id ∈ t.node.ids →
    t.node.depth < s.node.depth
  inner : ∀ s ∈ all, ∀ t ∈ all, s.node.id ∈ t.node.ids → s.node.ids ⊆ t.node.ids

variable {all : List PageSection}

/-- Sections are nested in any order. -/
theorem AreNested.perm {l : List PageSection} (h : AreNested all) (perm : l.Perm all) :
    AreNested l where
  apart := (perm.map fun s => s.node.id).nodup_iff.2 h.apart
  deeper s hs t ht := h.deeper s (perm.mem_iff.1 hs) t (perm.mem_iff.1 ht)
  inner s hs t ht := h.inner s (perm.mem_iff.1 hs) t (perm.mem_iff.1 ht)

/-! ## What is covered -/

/-- The ids that sections cover are those of the nodes they hold. -/
def Covers (covered : List String) (passed : List PageSection) : Prop :=
  ∀ id, id ∈ covered ↔ ∃ t ∈ passed, id ∈ t.node.ids

namespace Covers
variable {covered : List String} {passed l : List PageSection} {s : PageSection}

/-- Nothing covers nothing. -/
theorem nil : Covers [] [] := by
  intro id
  simp

/-- A section that is kept covers what is below its node. -/
theorem kept (h : Covers covered passed) : Covers (covered ++ s.node.ids) (passed ++ [s]) := by
  intro id
  simp only [List.mem_append, h id, List.mem_singleton, or_and_right, exists_or, exists_eq_left]

/-- A section that lies in one that was passed covers nothing new. -/
theorem inside (h : Covers covered passed) {t : PageSection} (ht : t ∈ passed)
    (inner : s.node.ids ⊆ t.node.ids) : Covers covered (passed ++ [s]) := by
  intro id
  rw [h id]
  constructor
  · rintro ⟨u, hu, held⟩
    exact ⟨u, List.mem_append_left _ hu, held⟩
  · rintro ⟨u, hu, held⟩
    rcases List.mem_append.1 hu with hu | hu
    · exact ⟨u, hu, held⟩
    · rw [List.mem_singleton.1 hu] at held
      exact ⟨t, ht, inner held⟩

/-- The next section is covered exactly if another one holds it: one that comes later is not less
deep, so it does not. -/
theorem contains_eq (h : Covers covered passed) (nested : AreNested (passed ++ s :: l))
    (sorted : (passed ++ s :: l).Pairwise fun s t => s.node.depth ≤ t.node.depth) :
    covered.contains s.node.id = isWithin (passed ++ s :: l) s := by
  have hs : s ∈ passed ++ s :: l := List.mem_append_right passed List.mem_cons_self
  rw [Bool.eq_iff_iff, List.contains_iff_mem, h, isWithin_iff]
  constructor
  · rintro ⟨t, ht, held⟩
    refine ⟨t, List.mem_append_left _ ht, ?_, held⟩
    have apart := nested.apart
    rw [List.map_append, List.nodup_append] at apart
    exact apart.2.2 _ (List.mem_map_of_mem ht) _ (List.mem_map_of_mem List.mem_cons_self)
  · rintro ⟨t, ht, other, held⟩
    have below := nested.deeper s hs t ht other held
    rcases List.mem_append.1 ht with ht | ht
    · exact ⟨t, ht, held⟩
    · rcases List.mem_cons.1 ht with rfl | ht
      · exact absurd rfl other
      · have later := List.rel_of_pairwise_cons (List.pairwise_append.1 sorted).2.1 ht
        omega

end Covers

/-- The sweep keeps the sections that no other one holds, whatever it has passed so far. -/
theorem sweep_eq_filter (nested : AreNested all)
    (sorted : all.Pairwise fun s t => s.node.depth ≤ t.node.depth)
    {passed l : List PageSection} {covered : List String} (whole : all = passed ++ l)
    (covers : Covers covered passed) : sweep covered l = l.filter fun s => !isWithin all s := by
  induction l generalizing passed covered with
  | nil => rfl
  | cons s l ih =>
    subst whole
    have next : passed ++ s :: l = (passed ++ [s]) ++ l := by
      rw [List.append_assoc, List.singleton_append]
    have here := covers.contains_eq nested sorted
    rw [sweep, here]
    by_cases within : isWithin (passed ++ s :: l) s = true
    · rw [if_pos within, List.filter_cons_of_neg (by simpa using within)]
      rw [← here, List.contains_iff_mem, covers] at within
      obtain ⟨t, ht, held⟩ := within
      have inner := nested.inner s (List.mem_append_right _ List.mem_cons_self) t
        (List.mem_append_left _ ht) held
      exact ih next (covers.inside ht inner)
    · rw [if_neg within, List.filter_cons_of_pos (by simpa using within)]
      exact congrArg (s :: ·) (ih next covers.kept)

/-! ## Order -/

/-- The sections that are kept are those that no other one holds, in some order. -/
theorem outermost_perm (nested : AreNested all) :
    (outermost all).Perm (all.filter fun s => !isWithin all s) := by
  let byDepth := (all.mergeSort fun s t => t.confidence ≤ s.confidence).mergeSort
    fun s t => s.node.depth ≤ t.node.depth
  have perm : byDepth.Perm all :=
    (List.mergeSort_perm _ _).trans (List.mergeSort_perm _ _)
  have sorted : byDepth.Pairwise fun s t => s.node.depth ≤ t.node.depth :=
    Lists.pairwise_mergeSort_key (fun s : PageSection => s.node.depth) _
  have same : (fun s => !isWithin byDepth s) = fun s => !isWithin all s := by
    funext s
    rw [isWithin, isWithin, perm.any_eq]
  have swept : sweep [] byDepth = byDepth.filter fun s => !isWithin byDepth s :=
    sweep_eq_filter (nested.perm perm) sorted (List.nil_append byDepth).symm .nil
  rw [same] at swept
  refine (List.mergeSort_perm _ _).trans ?_
  show (sweep [] byDepth).Perm _
  rw [swept]
  exact perm.filter _

/-- Where the numbers of ids rise, the sections that are kept stand in that order. -/
theorem outermost_eq (nested : AreNested all)
    (rising : all.Pairwise fun s t => idNumber s.node.id < idNumber t.node.id) :
    outermost all = all.filter fun s => !isWithin all s := by
  have perm := outermost_perm nested
  have different : (all.map fun s => idNumber s.node.id).Nodup :=
    List.pairwise_map.2 (rising.imp fun less => Int.ne_of_lt less)
  have sorted : (outermost all).Pairwise fun s t => idNumber s.node.id ≤ idNumber t.node.id :=
    Lists.pairwise_mergeSort_key (fun s : PageSection => idNumber s.node.id) _
  have rest : (all.filter fun s => !isWithin all s).Pairwise
      fun s t => idNumber s.node.id ≤ idNumber t.node.id :=
    (rising.sublist List.filter_sublist).imp Int.le_of_lt
  refine List.Perm.eq_of_pairwise ?_ sorted rest perm
  intro s t hs ht le ge
  exact List.inj_on_of_nodup_map different (List.mem_of_mem_filter (perm.mem_iff.1 hs))
    (List.mem_of_mem_filter ht) (Int.le_antisymm le ge)

end Componentry.PageSection
