/-!
# Sums

The sum of whole numbers: nothing for none, and the first one with the sum of the rest.
-/

set_option autoImplicit false

namespace Componentry

/-- The sum of whole numbers. -/
def sumOf (l : List Nat) : Nat := l.foldr (fun n rest => n + rest) 0

@[simp] theorem sumOf_nil : sumOf [] = 0 := rfl

@[simp] theorem sumOf_cons (n : Nat) (l : List Nat) : sumOf (n :: l) = n + sumOf l := rfl

/-- The sum of two lists in a row is the sum of their sums. -/
theorem sumOf_append (l m : List Nat) : sumOf (l ++ m) = sumOf l + sumOf m := by
  induction l with
  | nil => rw [List.nil_append, sumOf_nil, Nat.zero_add]
  | cons n rest ih => rw [List.cons_append, sumOf_cons, sumOf_cons, ih, Nat.add_assoc]

/-- The order of a list does not matter for its sum. -/
theorem sumOf_reverse (l : List Nat) : sumOf l.reverse = sumOf l := by
  induction l with
  | nil => rfl
  | cons n rest ih =>
    rw [List.reverse_cons, sumOf_append, ih, sumOf_cons, sumOf_cons, sumOf_nil, Nat.add_zero,
      Nat.add_comm]

end Componentry
