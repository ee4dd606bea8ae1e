import Componentry.Proofs.Text.Numeral
import Componentry.Proofs.Text.Pieces
import Componentry.Stylesheet.Utility

/-!
# Utility classes are words

The classes that stand for declarations hold no blanks and are not empty, so what is joined of them
by spaces has them as its words.
-/

set_option autoImplicit false

namespace Componentry.Text

/-- A word stays one with characters behind it that are no blanks. -/
theorem isWord_append {s t : String} (hs : IsWord s) (ht : ∀ c ∈ t.toList, isBlank c = false) :
    IsWord (s ++ t) where
  some_ := fun empty => hs.some_ (String.append_eq_empty_iff.1 empty).1
  solid := by
    intro c hc
    rw [String.toList_append, List.mem_append] at hc
    exact hc.elim (hs.solid c) (ht c)

/-- A text is a word, decided. -/
def isWord (s : String) : Bool := s != "" && s.toList.all fun c => !isBlank c

/-- The test for a word tells what it says. -/
theorem isWord_iff {s : String} : isWord s = true ↔ IsWord s := by
  rw [isWord, Bool.and_eq_true, bne_iff_ne, List.all_eq_true]
  simp only [Bool.not_eq_true']
  exact ⟨fun ⟨some_, solid⟩ => ⟨some_, solid⟩, fun h => ⟨h.some_, h.solid⟩⟩

/-- A number is written without blanks. -/
theorem isBlank_of_mem_natText {n : Nat} {c : Char} (h : c ∈ (natText n).toList) :
    isBlank c = false := by
  have digit := isDigit_of_mem_natText h
  exact of_ascii (p := fun c => c.isDigit = true → isBlank c = false) (by decide)
    (toNat_lt_of_isDigit digit) digit

/-- A whole number is written without blanks. -/
theorem isBlank_of_mem_intText {n : Int} {c : Char} (h : c ∈ (intText n).toList) :
    isBlank c = false := by
  cases n with
  | ofNat n => exact isBlank_of_mem_natText h
  | negSucc n =>
    rw [intText, String.toList_append] at h
    rcases List.mem_append.1 h with sign | digit
    · have checked : ∀ d ∈ "-".toList, isBlank d = false := Lists.forall_mem_of_all (by decide)
      exact checked c sign
    · exact isBlank_of_mem_natText digit

end Componentry.Text

namespace Componentry.Stylesheet
open Componentry.Text

/-- What is looked up in a table stands in it. -/
theorem mem_of_lookup_eq_some {α : Type} {k : String} {v : α} : ∀ {l : List (String × α)},
    l.lookup k = some v → ∃ k', (k', v) ∈ l
  | (k', v') :: rest, h => by
    rw [List.lookup_cons] at h
    split at h
    · cases h
      exact ⟨k', List.mem_cons_self⟩
    · obtain ⟨k'', mem⟩ := mem_of_lookup_eq_some h
      exact ⟨k'', List.mem_cons_of_mem _ mem⟩

/-- The words that a table answers with are words if all its answers are. -/
theorem isWord_of_lookup {k v : String} {l : List (String × String)}
    (all : (l.all fun e => isWord e.2) = true) (h : l.lookup k = some v) : IsWord v := by
  obtain ⟨k', mem⟩ := mem_of_lookup_eq_some h
  exact isWord_iff.1 (List.all_eq_true.1 all _ mem)

/-- The classes of the table of values are words. -/
theorem isWord_of_valueClasses {property value c : String}
    (h : ((valueClasses.lookup property).bind fun classes => classes.lookup value) = some c) :
    IsWord c := by
  obtain ⟨classes, found, h⟩ := Option.bind_eq_some_iff.1 h
  obtain ⟨k, mem⟩ := mem_of_lookup_eq_some found
  have all : ∀ e ∈ valueClasses, (e.2.all fun e => isWord e.2) = true :=
    Lists.forall_mem_of_all (by decide +kernel)
  exact isWord_of_lookup (all _ mem) h

/-- The class of an opacity is a word. -/
theorem isWord_of_opacityClass? {value c : String} (h : opacityClass? value = .ok (some c)) :
    IsWord c := by
  unfold opacityClass? at h
  split at h
  · cases h
  · split at h
    · cases h
      exact isWord_append (isWord_iff.1 (by decide)) fun _ => isBlank_of_mem_intText
    · cases h

/-- The class that a rule gives is a word. -/
theorem isWord_of_classByRule? {property value c : String}
    (h : classByRule? property value = .ok (some c)) : IsWord c := by
  unfold classByRule? at h
  split at h
  · split at h
    · cases h
      exact isWord_iff.1 (by decide)
    · cases h
  · exact isWord_of_opacityClass? h
  · split at h
    · cases h
      exact isWord_iff.1 (by decide)
    · cases h
  · cases h

/-- The class of a declaration is a word. -/
theorem isWord_of_classOf? {property value c : String}
    (h : classOf? property value = .ok (some c)) : IsWord c := by
  unfold classOf? at h
  split at h
  next found =>
    cases h
    exact isWord_of_valueClasses found
  next =>
    split at h
    next start step started stepped =>
      cases h
      have hyphen : IsWord (start ++ "-") :=
        isWord_append (isWord_of_lookup (by decide) started) (Lists.forall_mem_of_all (by decide))
      exact isWord_append hyphen (isWord_of_lookup (by decide) stepped).solid
    next =>
      split at h
      next edge =>
        cases h
        rw [Bool.and_eq_true, Bool.or_eq_true, beq_iff_eq, beq_iff_eq] at edge
        have all : ∀ e ∈ edges, isWord (e ++ "-") = true := Lists.forall_mem_of_all (by decide)
        have word := isWord_iff.1 (all property (List.contains_iff_mem.1 edge.1))
        refine isWord_append word ?_
        rcases edge.2 with rfl | rfl <;> exact Lists.forall_mem_of_all (by decide)
      next => exact isWord_of_classByRule? h

/-- The class that stands for a declaration is a word. -/
theorem isWord_of_utilityClass? {property value c : String}
    (h : utilityClass? property value = .ok (some c)) : IsWord c := by
  change (classOf? (lower property) (splitImportant value).1).map _ = _ at h
  cases found : classOf? (lower property) (splitImportant value).1 with
  | error fault =>
    rw [found] at h
    cases h
  | ok class? =>
    rw [found] at h
    cases class? with
    | none => cases h
    | some plain =>
      cases h
      have word := isWord_of_classOf? found
      split
      · exact isWord_append (isWord_iff.1 (by decide)) word.solid
      · exact word

end Componentry.Stylesheet
