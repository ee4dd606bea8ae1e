import Componentry.Proofs.Stylesheet.Declaration
import Componentry.Proofs.Text.Order

/-!
# Rules read back

The body of a rule is read as the declarations of the style that the rule was made for, in their
order, where no value holds the mark of an important one after its marks are taken out. The key of
a style tells its declarations, but not their order: styles with the same key declare the same.
-/

set_option autoImplicit false

namespace Componentry.Stylesheet
open Componentry.Text

/-! ## Bodies -/

/-- The text between the braces of a rule that is not for some media only. -/
def Rule.body (sharedValues : Dict String) (r : Rule) : String :=
  join "\n" ((r.lines sharedValues).drop 1).dropLast

/-- A rule outside of any medium has its declarations line by line. -/
theorem Rule.body_of_media {sharedValues : Dict String} {r : Rule} (h : r.media = none) :
    r.body sharedValues = join "\n" (r.declarations.map (Declaration.line sharedValues)) := by
  simp [body, lines, h]

/-- The properties of a style with their values, each apart from its mark. -/
def valuesOf (declared : Dict String) : List (String × String × Bool) :=
  declared.entries.map fun e => (e.1, splitImportant e.2)

namespace ElementStyle

/-- A style that was read and declares something. -/
structure IsRead (s : ElementStyle) : Prop where
  some_ : s.declared.entries ≠ []
  declared : ∀ e ∈ s.declared.entries, IsProperty e.1 ∧ IsValue e.2

/-- No value holds the mark of an important one once its marks are taken out. -/
def KeepsMarks (s : ElementStyle) : Prop :=
  ∀ e ∈ s.declared.entries, contains (splitImportant e.2).1 importantMark = false

variable {s t : ElementStyle} {r : Rule}

/-- The rule of a style declares what the style declares. -/
structure IsRuleOf (r : Rule) (s : ElementStyle) : Prop where
  declarations : r.declarations = s.declarations
  media : r.media = none

/-- The body of a rule is read as the declarations of its style, with what was written for each. -/
theorem entries_declarations_body (hs : s.IsRead) (hr : IsRuleOf r s) :
    (Stylesheet.declarations (r.body Dict.empty)).entries =
      s.declared.entries.map fun e => (e.1, (Declaration.of e.1 e.2).written) := by
  have readable : ∀ d ∈ s.declarations, d.IsReadable := by
    intro d hd
    obtain ⟨e, he, rfl⟩ := List.mem_map.1 hd
    exact Declaration.isReadable_of (hs.declared e he).1 (hs.declared e he).2
  have lines := Declaration.filterMap_declaration?_lines readable (b := []) (by simp)
  have read : (splitWhere (· == ';') (r.body Dict.empty).toList).filterMap declaration? =
      s.declared.entries.map fun e => (e.1, (Declaration.of e.1 e.2).written) := by
    rw [Rule.body_of_media hr.media, hr.declarations]
    rw [List.nil_append] at lines
    rw [lines, ElementStyle.declarations, List.map_map]
    rfl
  rw [Stylesheet.declarations, read, Dict.entries_ofList]
  rw [List.map_map]
  exact s.declared.distinct

/-- The body of a rule is read back with its values, each with its mark taken off. -/
theorem valuesOf_declarations_body (hs : s.IsRead) (hr : IsRuleOf r s) :
    valuesOf (Stylesheet.declarations (r.body Dict.empty)) =
      s.declared.entries.map fun e => (e.1, splitImportant (Declaration.of e.1 e.2).written) := by
  rw [valuesOf, entries_declarations_body hs hr, List.map_map]
  rfl

/-- A rule whose style keeps its marks is read as this style. -/
theorem valuesOf_eq_of_keepsMarks (hs : s.IsRead) (hr : IsRuleOf r s) (kept : s.KeepsMarks) :
    valuesOf (Stylesheet.declarations (r.body Dict.empty)) = valuesOf s.declared := by
  rw [valuesOf_declarations_body hs hr, valuesOf]
  refine List.map_congr_left fun e he => ?_
  rw [(Declaration.splitImportant_written_iff (hs.declared e he).2.trimmed).2 (kept e he)]

/-- A rule is read as its style, in whatever order, only if the style keeps its marks. -/
theorem keepsMarks_of_perm (hs : s.IsRead) (hr : IsRuleOf r s)
    (perm : (valuesOf (Stylesheet.declarations (r.body Dict.empty))).Perm (valuesOf s.declared)) :
    s.KeepsMarks := by
  intro e he
  rw [valuesOf_declarations_body hs hr, valuesOf] at perm
  have mem := perm.mem_iff.1 (List.mem_map_of_mem he)
  obtain ⟨f, hf, same⟩ := List.mem_map.1 mem
  rw [Prod.mk.injEq] at same
  have one : f = e := List.inj_on_of_nodup_map s.declared.distinct hf he same.1
  rw [one] at same
  exact (Declaration.splitImportant_written_iff (hs.declared e he).2.trimmed).1 same.2.symm

/-- The same declarations in another order have the same values in another order. -/
theorem valuesOf_perm (same : s.declared.entries.Perm t.declared.entries) :
    (valuesOf s.declared).Perm (valuesOf t.declared) :=
  same.map _

/-- Whether marks are kept does not depend on the order of declarations. -/
theorem KeepsMarks.of_perm (kept : s.KeepsMarks)
    (same : s.declared.entries.Perm t.declared.entries) : t.KeepsMarks :=
  fun e he => kept e (same.mem_iff.2 he)

end ElementStyle

/-! ## Keys -/

/-- The declarations in the order of their properties. -/
def sortedEntries (declared : Dict String) : List (String × String) :=
  declared.entries.mergeSort fun a b => le a.1 b.1

/-- Sorting keeps the declarations. -/
theorem sortedEntries_perm (declared : Dict String) :
    (sortedEntries declared).Perm declared.entries :=
  List.mergeSort_perm _ _

/-- Sorted declarations stand in the order of their names. -/
theorem pairwise_sortedEntries (declared : Dict String) :
    (sortedEntries declared).Pairwise fun a b => le a.1 b.1 = true := by
  refine List.pairwise_mergeSort (fun a b c ab bc => ?_) (fun a b => ?_) _
  · exact le_iff.2 (String.le_trans (le_iff.1 ab) (le_iff.1 bc))
  · rw [Bool.or_eq_true, le_iff, le_iff]
    exact String.le_total a.1 b.1

/-- Sorting forgets in which order properties were declared. -/
theorem sortedEntries_eq_iff {d e : Dict String} :
    sortedEntries d = sortedEntries e ↔ d.entries.Perm e.entries := by
  constructor
  · intro same
    have perm := sortedEntries_perm d
    rw [same] at perm
    exact perm.symm.trans (sortedEntries_perm e)
  · intro perm
    have sorted : (sortedEntries d).Perm (sortedEntries e) :=
      (sortedEntries_perm d).trans (perm.trans (sortedEntries_perm e).symm)
    refine sorted.eq_of_pairwise ?_ (pairwise_sortedEntries d) (pairwise_sortedEntries e)
    intro a b ha hb ab ba
    have name : a.1 = b.1 := String.le_antisymm (le_iff.1 ab) (le_iff.1 ba)
    have there : b ∈ d.entries := perm.mem_iff.2 ((sortedEntries_perm e).mem_iff.1 hb)
    exact List.inj_on_of_nodup_map d.distinct ((sortedEntries_perm d).mem_iff.1 ha) there name

/-- A property and its value as a key spells them. -/
def spellEntry (e : String × String) : String := e.1 ++ ":" ++ e.2

/-- The spelling of a declaration tells it apart. -/
theorem spellEntry_inj {e f : String × String} (he : IsProperty e.1) (hf : IsProperty f.1)
    (h : spellEntry e = spellEntry f) : e = f := by
  have chars := congrArg String.toList h
  simp only [spellEntry, String.toList_append, List.append_assoc] at chars
  have cut := congrArg (cutAt [':']) chars
  have colon : ":".toList = [':'] := rfl
  rw [colon, List.singleton_append, List.singleton_append, cutAt_append_cons _ he.colon,
    cutAt_append_cons _ hf.colon, Option.some.injEq, Prod.mk.injEq, String.toList_inj,
    String.toList_inj] at cut
  exact Prod.ext cut.1 cut.2

/-- The spellings of declarations tell them apart. -/
theorem map_spellEntry_inj {l m : List (String × String)} (hl : ∀ e ∈ l, IsProperty e.1)
    (hm : ∀ e ∈ m, IsProperty e.1) (h : l.map spellEntry = m.map spellEntry) : l = m := by
  induction l generalizing m with
  | nil => exact (List.map_eq_nil_iff.1 h.symm).symm
  | cons e rest ih =>
    cases m with
    | nil => cases h
    | cons f more =>
      rw [List.map_cons, List.map_cons, List.cons.injEq] at h
      rw [spellEntry_inj (hl e List.mem_cons_self) (hm f List.mem_cons_self) h.1,
        ih (fun g hg => hl g (List.mem_cons_of_mem e hg))
          (fun g hg => hm g (List.mem_cons_of_mem f hg)) h.2]

/-- No semicolon stands in the spelling of a declaration. -/
theorem stop_not_mem_spellEntry {e : String × String} (hp : IsProperty e.1) (hv : IsValue e.2) :
    ';' ∉ (spellEntry e).toList := by
  simp [spellEntry, hp.stop, hv.stop]

namespace ElementStyle
variable {s t : ElementStyle}

/-- Sorted declarations of a style that was read have a property and a value. -/
theorem IsRead.mem_sorted (hs : s.IsRead) {e : String × String}
    (he : e ∈ sortedEntries s.declared) : IsProperty e.1 ∧ IsValue e.2 :=
  hs.declared e ((sortedEntries_perm s.declared).mem_iff.1 he)

/-- A style that was read has a declaration to spell. -/
theorem IsRead.spelled_ne_nil (hs : s.IsRead) :
    (sortedEntries s.declared).map spellEntry ≠ [] := by
  intro empty
  have perm := (sortedEntries_perm s.declared).symm
  rw [List.map_eq_nil_iff.1 empty] at perm
  exact hs.some_ perm.eq_nil

/-- No semicolon stands in what is spelled of a style that was read. -/
theorem IsRead.no_stop (hs : s.IsRead) : ∀ x ∈ (sortedEntries s.declared).map spellEntry,
    ∀ c ∈ x.toList, (c == ';') = false := by
  intro x hx
  obtain ⟨e, he, rfl⟩ := List.mem_map.1 hx
  have declared := hs.mem_sorted he
  exact beq_eq_false_of_not_mem (stop_not_mem_spellEntry declared.1 declared.2)

/-- Styles that were read have the same key exactly when they declare the same. -/
theorem declarationKey_eq_iff (hs : s.IsRead) (ht : t.IsRead) :
    declarationKey s.declared = declarationKey t.declared ↔
      s.declared.entries.Perm t.declared.entries := by
  have key : ∀ d : Dict String, declarationKey d = join ";" ((sortedEntries d).map spellEntry) :=
    fun d => rfl
  rw [key, key, ← sortedEntries_eq_iff]
  constructor
  · intro h
    have spelled := join_inj (p := (· == ';')) (d := ';') rfl rfl hs.spelled_ne_nil
      ht.spelled_ne_nil hs.no_stop ht.no_stop h
    exact map_spellEntry_inj (fun e he => (hs.mem_sorted he).1) (fun e he => (ht.mem_sorted he).1)
      spelled
  · intro same
    rw [same]

end ElementStyle

end Componentry.Stylesheet
