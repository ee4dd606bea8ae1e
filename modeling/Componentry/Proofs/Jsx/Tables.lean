import Componentry.Proofs.Jsx.Elements

/-!
# The two tables of names

A plain attribute is kept in its bag under the name that one table gives it. To be printed it goes
back to its name in markup, and another table gives it the name that it is printed under. The two
tables name different attributes, so an attribute is printed under the name it is kept under exactly
if both rename it or none does.
-/

set_option autoImplicit false

namespace Componentry.Jsx
open Componentry.Text Componentry.Attributes

/-- The name in markup of a plain attribute. -/
def markupNameOf (key : String) : String := (markupName? key).getD key

/-- Attributes that are kept under a name with capitals and printed without them. -/
def printedPlainly : List String :=
  ["allowfullscreen", "charset", "contenteditable", "crossorigin", "hreflang", "srcset"]

/-- Attributes that are kept under their name in markup and printed with capitals. -/
def keptPlainly : List String :=
  ["allowpaymentrequest", "marginheight", "marginwidth", "nomodule", "noresize", "radiogroup",
    "spellcheck", "srclang"]

/-- Attributes that only one of the tables renames. -/
def contested : List String := printedPlainly ++ keptPlainly

/-- What there is to know of the two tables. The attributes with a property of their own that are
plain and not left out have it under the name they are kept under, but for the contested ones; those
that only the table of bags renames are contested, and a contested one is in one of the tables. -/
theorem tables_checked :
    (∀ e ∈ standard, partOf e.1 = .plain → e.2.2 ≠ .remove →
      (e.2.1 = keyOf e.1 ↔ e.1 ∉ contested)) ∧
    (∀ e ∈ componentNames, standard? e.1 = none → partOf e.1 = .plain →
      e.1 ≠ e.2 ∧ e.1 ∈ contested) ∧
    ∀ n ∈ contested, standard? n ≠ none ∨ componentName? n ≠ none := by
  decide +kernel

section
variable {name key : String} {value : AttributeValue} {renamesClass : Bool}

/-- The tables agree on every plain attribute that is neither left out nor contested. -/
theorem propertyName_eq_keyOf_iff (plain : partOf name = .plain)
    (kept : isLeftOut name = false) : propertyName name = keyOf name ↔ name ∉ contested := by
  obtain ⟨both, first, one⟩ := tables_checked
  cases found : standard? name with
  | some entry =>
    obtain ⟨property, kind⟩ := entry
    rw [propertyName, found]
    refine both _ (mem_of_standard? found) plain fun removed => ?_
    dsimp only at removed
    rw [isLeftOut_iff.2 ⟨property, removed ▸ found⟩] at kept
    cases kept
  | none =>
    rw [propertyName, found, keyOf]
    cases found' : componentName? name with
    | some key =>
      obtain ⟨before, after, whole, -⟩ := List.lookup_eq_some_iff.1 found'
      have mem : (name, key) ∈ componentNames := by
        rw [whole]
        simp
      obtain ⟨other, listed⟩ := first _ mem found plain
      exact ⟨fun same => absurd same other, fun missing => absurd listed missing⟩
    | none =>
      refine ⟨fun _ listed => ?_, fun _ => rfl⟩
      exact (one name listed).elim (· found) (· found')

/-- A plain attribute is printed under the name it is kept under exactly if it is not contested. -/
theorem printedName_eq_keyOf_iff (lowered : lower name = name) (plain : partOf name = .plain)
    (kept : isLeftOut name = false) :
    printedName renamesClass name value = keyOf name ↔ name ∉ contested := by
  have other : propertyName name ≠ "className" := fun same => by
    have back := attributeName_propertyName lowered kept
    rw [same] at back
    rw [← back] at plain
    revert plain
    decide
  rw [printedName_eq kept, beq_false_of_ne other, Bool.false_and, if_neg Bool.false_ne_true]
  exact propertyName_eq_keyOf_iff plain kept

end

end Componentry.Jsx
