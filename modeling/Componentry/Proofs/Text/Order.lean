import Componentry.Text.Slice

/-!
# The order of texts

Sorting texts and leaving out repetitions gives the same texts, each once, in the order of their
characters.
-/

set_option autoImplicit false

namespace Componentry.Text

/-- The order of texts is that of the library. -/
theorem le_iff {s t : String} : le s t = true ↔ s ≤ t := by
  rw [le, Bool.not_eq_true', decide_eq_false_iff_not]
  exact Iff.rfl

@[simp] theorem mem_sortedDistinct {s : String} {l : List String} :
    s ∈ sortedDistinct l ↔ s ∈ l := by
  rw [sortedDistinct, List.mem_mergeSort, List.mem_eraseDups]

/-- Leaving out repetitions leaves none. -/
theorem nodup_eraseDups : ∀ l : List String, l.eraseDups.Nodup
  | [] => List.nodup_nil
  | s :: rest => by
    rw [List.eraseDups_cons, List.nodup_cons]
    refine ⟨fun mem => ?_, nodup_eraseDups _⟩
    rw [List.mem_eraseDups, List.mem_filter] at mem
    simp at mem
termination_by l => l.length
decreasing_by
  exact Nat.lt_succ_of_le (List.length_filter_le _ rest)

/-- Sorted texts without repetitions rise strictly. -/
theorem pairwise_sortedDistinct (l : List String) : (sortedDistinct l).Pairwise (· < ·) := by
  have sorted : (sortedDistinct l).Pairwise fun s t => le s t = true := by
    refine List.pairwise_mergeSort (fun s t u st tu => ?_) (fun s t => ?_) _
    · exact le_iff.2 (String.le_trans (le_iff.1 st) (le_iff.1 tu))
    · rw [Bool.or_eq_true, le_iff, le_iff]
      exact String.le_total s t
  have distinct : (sortedDistinct l).Nodup :=
    (List.mergeSort_perm l.eraseDups le).nodup_iff.2 (nodup_eraseDups l)
  refine (sorted.and distinct).imp fun {s t} both => ?_
  rw [← String.not_le]
  exact fun above => both.2 (String.le_antisymm (le_iff.1 both.1) above)

end Componentry.Text
