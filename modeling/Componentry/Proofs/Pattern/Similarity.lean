import Componentry.Proofs.Text.Order
import Componentry.Similarity
import Mathlib.Algebra.BigOperators.Group.Finset.Basic
import Mathlib.Algebra.BigOperators.Group.List.Lemmas
import Mathlib.Algebra.Order.Field.Basic
import Mathlib.Data.Multiset.UnionInter
import Mathlib.Data.Rat.Cast.Order
import Mathlib.Tactic.Positivity

/-!
# Similarity in exact arithmetic

The similarity of two structures is the share that the names they have in common make up of the
names that one of them has, each name counted as often as it is repeated. So it does not depend on
which structure comes first, nor on the order of the names; it is the whole exactly if both have the
same names equally often, and nothing exactly if they share none. All pairs of a list have the same
similarities in whatever order the list is taken, and so the list has the same confidence, which
lies between nothing and the whole.
-/

set_option autoImplicit false

namespace Componentry

/-! ## Exact scores -/

namespace Score

@[simp] theorem ratio_rat (num den : Nat) : (ratio num den : Rat) = (num : Rat) / den := rfl

@[simp] theorem zero_rat : (zero : Rat) = 0 := rfl

@[simp] theorem one_rat : (one : Rat) = 1 := rfl

@[simp] theorem atMost_rat (a b : Rat) : atMost a b = decide (a ≤ b) := rfl

/-- The least of two scores is their minimum. -/
theorem least_rat (a b : Rat) : least a b = min a b := by
  rw [least, atMost_rat, min_def]
  simp

/-- The greatest of two scores is their maximum. -/
theorem greatest_rat (a b : Rat) : greatest a b = max a b := by
  rw [greatest, atMost_rat, max_comm, max_def]
  simp

/-- A clamped score is the nearest one between nought and one. -/
theorem clamp_rat (a : Rat) : clamp a = max 0 (min a 1) := by
  rw [clamp, greatest_rat, least_rat, zero_rat, one_rat]

/-- The total of scores is their sum. -/
theorem total_rat (l : List Rat) : total l = l.sum := by
  rw [total, zero_rat, List.sum_eq_foldl]

end Score

/-- The sum of counts is that of the library. -/
theorem sumOf_eq_sum (l : List Nat) : sumOf l = l.sum := rfl

namespace Similarity
open Multiset (card)

/-! ## Two structures -/

/-- The share that the common names make up of the names of two structures, each name counted as
often as it is repeated; the whole, if there is no name at all. -/
def overlap (a b : Multiset String) : Rat :=
  if a = 0 ∧ b = 0 then 1 else (card (a ∩ b) : Rat) / card (a ∪ b)

/-- A sum over the different names of two structures is the size of a multiset of such names. -/
theorem sumOf_eraseDups {a b : List String} {m : Multiset String} {f : String → Nat}
    (counts : ∀ t, f t = m.count t) (within : ∀ t ∈ m, t ∈ a ∨ t ∈ b) :
    sumOf ((a ++ b).eraseDups.map f) = card m := by
  rw [sumOf_eq_sum, ← List.sum_toFinset f (Text.nodup_eraseDups (a ++ b)),
    ← Multiset.sum_count_eq_card (s := (a ++ b).eraseDups.toFinset)]
  · exact Finset.sum_congr rfl fun t _ => counts t
  · intro t ht
    rw [List.mem_toFinset, List.mem_eraseDups, List.mem_append]
    exact within t ht

/-- What two lists share is counted as the intersection of their multisets. -/
theorem shared_eq_card (a b : List String) : shared a b = card (a ∩ b : Multiset String) := by
  refine sumOf_eraseDups (fun t => ?_) fun t ht => ?_
  · rw [Multiset.count_inter, Multiset.coe_count, Multiset.coe_count]
  · exact .inl (Multiset.mem_inter.1 ht).1

/-- What two lists have together is counted as the union of their multisets. -/
theorem combined_eq_card (a b : List String) : combined a b = card (a ∪ b : Multiset String) := by
  refine sumOf_eraseDups (fun t => ?_) fun t ht => ?_
  · rw [Multiset.count_union, Multiset.coe_count, Multiset.coe_count]
  · exact Multiset.mem_union.1 ht

/-- The overlap is symmetric. -/
theorem overlap_comm (a b : Multiset String) : overlap a b = overlap b a := by
  simp only [overlap, and_comm (a := a = 0), Multiset.inter_comm a, Multiset.union_comm a]

/-- A multiset overlaps itself in full, the empty one included. -/
theorem overlap_self (a : Multiset String) : overlap a a = 1 := by
  rw [overlap]
  split
  · rfl
  next some_ =>
    have filled : (card a : Rat) ≠ 0 := by
      simpa using some_
    rw [← Multiset.inf_eq_inter, ← Multiset.sup_eq_union, inf_idem, sup_idem, div_self filled]

section
variable {a b : Multiset String}

/-- Structures of which one has a name have a name together. -/
theorem card_union_pos (h : ¬ (a = 0 ∧ b = 0)) : (0 : Rat) < card (a ∪ b) := by
  rw [Nat.cast_pos, Multiset.card_pos]
  intro none
  refine h ⟨?_, ?_⟩
  · exact Multiset.le_zero.1 (none ▸ Multiset.le_union_left)
  · exact Multiset.le_zero.1 (none ▸ Multiset.le_union_right)

/-- What two multisets share is among what they have together. -/
theorem inter_le_union : a ∩ b ≤ a ∪ b := Multiset.inter_le_left.trans Multiset.le_union_left

/-- No overlap is below nought. -/
theorem overlap_nonneg : 0 ≤ overlap a b := by
  rw [overlap]
  split
  · exact zero_le_one
  · positivity

/-- No overlap is above one. -/
theorem overlap_le_one : overlap a b ≤ 1 := by
  rw [overlap]
  split
  · exact le_rfl
  next some_ =>
    rw [div_le_one (card_union_pos some_), Nat.cast_le]
    exact Multiset.card_le_card inter_le_union

/-- All names are common exactly to structures with the same names, equally often. -/
theorem overlap_eq_one_iff : overlap a b = 1 ↔ a = b := by
  constructor
  · intro whole
    rw [overlap] at whole
    split at whole
    next none => exact none.1.trans none.2.symm
    next some_ =>
      rw [div_eq_one_iff_eq (card_union_pos some_).ne', Nat.cast_inj] at whole
      exact inf_eq_sup.1 (Multiset.eq_of_le_of_card_le inter_le_union whole.ge)
  · rintro rfl
    exact overlap_self a

/-- The overlap is nought just where nothing is shared, two empty multisets apart. -/
theorem overlap_eq_zero_iff : overlap a b = 0 ↔ (∀ t ∈ a, t ∉ b) ∧ ¬ (a = 0 ∧ b = 0) := by
  have apart : a ∩ b = 0 ↔ ∀ t ∈ a, t ∉ b := by
    simp only [Multiset.eq_zero_iff_forall_notMem, Multiset.mem_inter, not_and]
  rw [overlap]
  split
  next none => simp [none]
  next some_ =>
    rw [div_eq_zero_iff, Nat.cast_eq_zero, Multiset.card_eq_zero, apart,
      or_iff_left (card_union_pos some_).ne', and_iff_left some_]

end

/-- In each of its cases similarity is the share of the common names. -/
theorem of_eq_overlap (a b : List String) : (of a b : Rat) = overlap a b := by
  rw [of]
  split
  -- Four branches: both lists empty, one of them, equal lists, and the quotient of the counts.
  next none =>
    simp only [Bool.and_eq_true, List.isEmpty_iff] at none
    rw [none.1, none.2, overlap_self]
    rfl
  next some_ =>
    simp only [Bool.and_eq_true, List.isEmpty_iff] at some_
    have filled : ¬ ((a : Multiset String) = 0 ∧ (b : Multiset String) = 0) := by
      simpa using some_
    split
    next one =>
      simp only [Bool.or_eq_true, List.isEmpty_iff] at one
      symm
      refine overlap_eq_zero_iff.2 ⟨?_, filled⟩
      rcases one with rfl | rfl
      · exact fun t ht => absurd ht List.not_mem_nil
      · exact fun t _ => List.not_mem_nil
    next =>
      split
      next same =>
        rw [beq_iff_eq.1 same, overlap_self]
        rfl
      next =>
        rw [overlap, if_neg filled, Score.ratio_rat, shared_eq_card, combined_eq_card]

/-! ## Lists of structures -/

/-- The pairs of a list are the same in whatever order it is taken, where it does not matter which
of two comes first. -/
theorem perm_map_pairs {β γ : Type} {f : β × β → γ} (comm : ∀ x y, f (x, y) = f (y, x))
    {l m : List β} (h : l.Perm m) : ((pairs l).map f).Perm ((pairs m).map f) := by
  induction h with
  | nil => exact .nil
  | cons x perm ih =>
    rw [pairs, pairs, List.map_append, List.map_append]
    exact ((perm.map _).map f).append ih
  | swap x y rest =>
    simp only [pairs, List.map_cons, List.map_append, List.cons_append, comm y x]
    refine .cons _ ?_
    rw [← List.append_assoc, ← List.append_assoc]
    exact List.perm_append_comm.append_right _
  | trans _ _ ih ih' => exact ih.trans ih'

variable {s t : List (List String)}

/-- The average similarity is the mean over all pairs, and absent where there is no pair. -/
theorem average_eq (l : List (List String)) : (average l : Option Rat) =
    let scores : List Rat := (pairs l).map fun p => of p.1 p.2
    if scores.isEmpty then none else some (scores.sum / scores.length) := by
  simp only [← Score.total_rat]
  rfl

/-- The order of the lists does not matter for their average similarity. -/
theorem average_perm (h : s.Perm t) : (average s : Option Rat) = average t := by
  have scores : ((pairs s).map fun p => (of p.1 p.2 : Rat)).Perm
      ((pairs t).map fun p => of p.1 p.2) := by
    refine perm_map_pairs (fun a b => ?_) h
    rw [of_eq_overlap, of_eq_overlap, overlap_comm]
  rw [average_eq, average_eq]
  dsimp only
  rw [scores.sum_eq, scores.length_eq, scores.isEmpty_eq]

/-- The order of the lists does not matter for the confidence. -/
theorem confidence_perm (h : s.Perm t) : (confidence s : Rat) = confidence t := by
  rw [confidence, confidence, average_perm h, h.length_eq]

/-- The order of the lists does not matter for whether they repeat. -/
theorem repeats_perm (h : s.Perm t) (least : Int) (threshold : Rat) :
    repeats least threshold s = repeats least threshold t := by
  rw [repeats, repeats, average_perm h, h.length_eq]

/-- No confidence is below nought. -/
theorem confidence_nonneg (s : List (List String)) : (0 : Rat) ≤ confidence s := by
  rw [confidence]
  split
  · simp only [Score.least_rat, Score.ratio_rat, Score.one_rat]
    positivity
  · rw [Score.clamp_rat]
    exact le_max_left _ _

/-- No confidence is above one. -/
theorem confidence_le_one (s : List (List String)) : (confidence s : Rat) ≤ 1 := by
  rw [confidence]
  split
  · rw [Score.least_rat, Score.one_rat]
    exact min_le_right _ _
  · rw [Score.clamp_rat]
    exact max_le zero_le_one (min_le_right _ _)

/-- Similarity is the share of the common names, in every case: it is the same either way round,
the whole exactly for the same names in some order, and nothing exactly where no name is common. The
confidence of a list lies between nothing and the whole, and neither it nor whether the list repeats
depends on the order of the list. -/
theorem scores_ignore_order :
    (∀ a b : List String, (of a b : Rat) = overlap a b ∧ (of a b : Rat) = of b a ∧
      (0 : Rat) ≤ of a b ∧ (of a b : Rat) ≤ 1 ∧ ((of a b : Rat) = 1 ↔ a.Perm b) ∧
      ((of a b : Rat) = 0 ↔ (∀ t ∈ a, t ∉ b) ∧ ¬ (a = [] ∧ b = []))) ∧
    ∀ s : List (List String), (0 : Rat) ≤ confidence s ∧ (confidence s : Rat) ≤ 1 ∧
      ∀ t : List (List String), s.Perm t → (confidence s : Rat) = confidence t ∧
        ∀ (least : Int) (threshold : Rat),
          repeats least threshold s = repeats least threshold t := by
  refine ⟨fun a b => ?_, fun s => ⟨confidence_nonneg s, confidence_le_one s, fun t perm =>
    ⟨confidence_perm perm, repeats_perm perm⟩⟩⟩
  rw [of_eq_overlap, of_eq_overlap]
  refine ⟨rfl, overlap_comm _ _, overlap_nonneg, overlap_le_one, ?_, ?_⟩
  · rw [overlap_eq_one_iff, Multiset.coe_eq_coe]
  · rw [overlap_eq_zero_iff, Multiset.coe_eq_zero, Multiset.coe_eq_zero]
    rfl

/-- A list and an item in it, an item and a list, and a paragraph, in two orders. -/
theorem scores_ignore_order_of_lists :
    let s := ["<ul><li><li>", "<li><ul>", "<p>"].map structureOfText
    let t := ["<p>", "<ul><li><li>", "<li><ul>"].map structureOfText
    s.Perm t ∧ (confidence s : Rat) = 151 / 450 ∧ (confidence s : Rat) = confidence t ∧
      ∀ (least : Int) (threshold : Rat),
        repeats least threshold s = repeats least threshold t := by
  intro s t
  have perm : s.Perm t := by decide +kernel
  obtain ⟨same, also⟩ := (scores_ignore_order.2 s).2.2 t perm
  exact ⟨perm, by decide +kernel, same, also⟩

end Similarity
end Componentry
