import Mathlib.Data.List.Forall2
import Mathlib.Data.List.Perm.Subperm
import Mathlib.Data.Nat.Basic
import Mathlib.Order.Defs.LinearOrder
import Mathlib.Order.Lattice

/-!
# Lists

The largest of numbers taken from left to right, the size of a list without repetitions that lies
within another one, searches by a key that no two members share, and lists that are related member
by member.
-/

set_option autoImplicit false

namespace Componentry.Lists
variable {α : Type}

/-- The start of a search for the largest number is not passed below. -/
theorem start_le_foldl_max : ∀ (l : List Nat) (a : Nat), a ≤ l.foldl max a
  | [], a => Nat.le_refl a
  | n :: rest, a => Nat.le_trans (Nat.le_max_left a n) (start_le_foldl_max rest (max a n))

/-- No number of a list is larger than the largest one. -/
theorem le_foldl_max {n : Nat} : ∀ {l : List Nat} (a : Nat), n ∈ l → n ≤ l.foldl max a
  | m :: rest, a, h => by
    rcases List.mem_cons.1 h with rfl | h
    · exact Nat.le_trans (Nat.le_max_right a n) (start_le_foldl_max rest (max a n))
    · exact le_foldl_max (max a m) h

/-- The largest number is the start or a number of the list. -/
theorem foldl_max_mem : ∀ (l : List Nat) (a : Nat), l.foldl max a = a ∨ l.foldl max a ∈ l
  | [], a => .inl rfl
  | n :: rest, a => by
    rcases foldl_max_mem rest (max a n) with h | h
    · rw [List.foldl_cons, h]
      rcases Nat.le_total a n with hle | hle
      · exact .inr (by rw [Nat.max_eq_right hle]; exact List.mem_cons_self)
      · exact .inl (Nat.max_eq_left hle)
    · exact .inr (List.mem_cons_of_mem n h)

/-- A list without repetitions is no longer than one that has all its members. -/
theorem length_le_of_nodup_of_subset {l m : List α} (nodup : l.Nodup) (sub : l ⊆ m) :
    l.length ≤ m.length :=
  (List.subperm_of_subset nodup sub).length_le

/-- A search by a key that no two members share finds the member. -/
theorem find?_of_nodup_keys {β : Type} [DecidableEq β] {key : α → β} {x : α} :
    ∀ {l : List α}, (l.map key).Nodup → x ∈ l → l.find? (fun y => key y == key x) = some x
  | y :: rest, nodup, mem => by
    rw [List.map_cons, List.nodup_cons] at nodup
    rcases List.mem_cons.1 mem with rfl | mem
    · exact List.find?_cons_of_pos (beq_self_eq_true _)
    · have other : (key y == key x) = false := by
        rw [beq_eq_false_iff_ne]
        intro same
        exact nodup.1 (same ▸ List.mem_map_of_mem mem)
      rw [List.find?_cons, other]
      exact find?_of_nodup_keys nodup.2 mem

/-- By a key that no two members share exactly one member is found. -/
theorem filter_of_nodup_keys {β : Type} [DecidableEq β] {key : α → β} {x : α} {l : List α}
    (nodup : (l.map key).Nodup) (mem : x ∈ l) : l.filter (fun y => key y == key x) = [x] := by
  induction l with
  | nil => cases mem
  | cons y rest ih =>
    rw [List.map_cons, List.nodup_cons] at nodup
    by_cases same : key y = key x
    · have behind : rest.filter (fun y => key y == key x) = [] := by
        rw [List.filter_eq_nil_iff]
        intro z hz found
        rw [beq_iff_eq, ← same] at found
        exact nodup.1 (found ▸ List.mem_map_of_mem hz)
      have one : x = y := by
        rcases List.mem_cons.1 mem with one | mem
        · exact one
        · exact absurd (same ▸ List.mem_map_of_mem mem) nodup.1
      rw [List.filter_cons, if_pos (beq_iff_eq.2 same), behind, one]
    · have there : x ∈ rest := by
        rcases List.mem_cons.1 mem with rfl | there
        · exact absurd rfl same
        · exact there
      rw [List.filter_cons, if_neg (by simpa using same), ih nodup.2 there]

/-- Sorting by a key puts no larger key before a smaller one. -/
theorem pairwise_mergeSort_key {β : Type} [LinearOrder β] (key : α → β) (l : List α) :
    (l.mergeSort fun a b => key a ≤ key b).Pairwise fun a b => key a ≤ key b := by
  have trans : ∀ a b c : α, decide (key a ≤ key b) = true → decide (key b ≤ key c) = true →
      decide (key a ≤ key c) = true := by
    intro a b c ab bc
    rw [decide_eq_true_eq] at ab bc ⊢
    exact le_trans ab bc
  have total : ∀ a b : α, (decide (key a ≤ key b) || decide (key b ≤ key a)) = true := by
    intro a b
    rw [Bool.or_eq_true, decide_eq_true_eq, decide_eq_true_eq]
    exact le_total _ _
  exact (List.pairwise_mergeSort trans total l).imp of_decide_eq_true

/-- What is checked of the members one by one holds of each of them. -/
theorem forall_mem_of_all {p : α → Prop} [DecidablePred p] {l : List α}
    (h : l.all (fun a => decide (p a)) = true) : ∀ a ∈ l, p a := by
  intro a ha
  exact of_decide_eq_true (List.all_eq_true.1 h a ha)

/-- Where each pair is related exactly when its first member is of a kind, all pairs are related
exactly when all first members are of the kind. -/
theorem forall₂_iff_forall_mem {β : Type} {r q : α → β → Prop} {kind : α → Prop} {l : List α}
    {m : List β} (related : List.Forall₂ r l m)
    (h : ∀ a ∈ l, ∀ b, r a b → (q a b ↔ kind a)) : List.Forall₂ q l m ↔ ∀ a ∈ l, kind a := by
  induction related with
  | nil => simp
  | @cons a b l m head _ ih =>
    rw [List.forall₂_cons, List.forall_mem_cons, h a List.mem_cons_self b head,
      ih fun c hc => h c (List.mem_cons_of_mem a hc)]

end Componentry.Lists
