import Componentry.Proofs.Dict
import Componentry.Proofs.Text.Erasure
import Componentry.Proofs.Text.Lower
import Componentry.Proofs.Text.Pieces
import Componentry.Stylesheet.Rule

/-!
# Declarations read back

What reading leaves of a property and its value reading leaves as it is, so the lines that a style
sheet writes for declarations are read as these declarations again, in their order. The mark of an
important value is taken off and put back behind it; it is told apart again exactly when the value
without it does not hold the mark a second time.
-/

set_option autoImplicit false

namespace Componentry.Stylesheet
open Componentry.Text

/-- The name of a property as reading gives it. -/
structure IsProperty (p : String) : Prop where
  some_ : p.toList ≠ []
  trimmed : IsTrimmed p.toList
  lower : lowerChars p.toList = p.toList
  colon : ':' ∉ p.toList
  stop : ';' ∉ p.toList

/-- A value as reading gives it. -/
structure IsValue (v : String) : Prop where
  some_ : v.toList ≠ []
  trimmed : IsTrimmed v.toList
  stop : ';' ∉ v.toList

/-! ## Reading -/

/-- What a piece of a style declares is left by reading as it is. -/
theorem isDeclared_of_declaration? {piece : List Char} {p v : String} (whole : ';' ∉ piece)
    (h : declaration? piece = some (p, v)) : IsProperty p ∧ IsValue v := by
  unfold declaration? at h
  cases cut : cutAt [':'] piece with
  | none => simp [cut] at h
  | some parts =>
    obtain ⟨name, value⟩ := parts
    simp only [cut] at h
    have around := append_of_cutAt cut
    split at h
    · cases h
    · next filled =>
      rw [Bool.or_eq_true, List.isEmpty_iff, List.isEmpty_iff, not_or] at filled
      simp only [Option.some.injEq, Prod.mk.injEq] at h
      obtain ⟨rfl, rfl⟩ := h
      refine ⟨⟨?_, ?_, ?_, ?_, ?_⟩, ⟨?_, ?_, ?_⟩⟩ <;> rw [String.toList_ofList]
      · exact filled.1
      · exact (isTrimmed_trimChars name).lowerChars
      · exact lowerChars_lowerChars _
      · intro colon
        have mem := mem_of_mem_trimChars (mem_of_mem_lowerChars colon (by decide))
        exact not_mem_of_cutAt cut mem
      · intro stop
        have mem := mem_of_mem_trimChars (mem_of_mem_lowerChars stop (by decide))
        exact whole (around ▸ by simp [mem])
      · exact filled.2
      · exact isTrimmed_trimChars value
      · intro stop
        exact whole (around ▸ by simp [mem_of_mem_trimChars stop])

/-- Every declaration of a style is left by reading as it is. -/
theorem isDeclared_of_mem_declarations {style : String} {e : String × String}
    (h : e ∈ (declarations style).entries) : IsProperty e.1 ∧ IsValue e.2 := by
  obtain ⟨piece, mem, read⟩ := List.mem_filterMap.1 (Dict.mem_of_mem_ofList h)
  refine isDeclared_of_declaration? (fun stop => ?_) read
  have other := eq_false_of_mem_splitWhere _ _ piece mem ';' stop
  simp at other

/-- A property and what stands behind the colon, read between blanks. -/
theorem declaration?_append {b w : List Char} {p : String} (hb : ∀ c ∈ b, isBlank c = true)
    (hp : IsProperty p) (hw : trimChars w ≠ []) :
    declaration? (b ++ p.toList ++ ':' :: w) = some (p, String.ofList (trimChars w)) := by
  have colon : ':' ∉ b ++ p.toList := by
    rw [List.mem_append, not_or]
    exact ⟨not_mem_of_blank hb (by decide), hp.colon⟩
  have name : lowerChars (trimChars (b ++ p.toList)) = p.toList := by
    rw [trimChars_append_left hb, trimChars_of_isTrimmed hp.trimmed, hp.lower]
  unfold declaration?
  simp only [cutAt_append_cons w colon, name, Bool.or_eq_true, List.isEmpty_iff, hp.some_, hw,
    or_self, if_false, String.ofList_toList]

/-- Blanks declare nothing. -/
theorem filterMap_declaration?_blank {b : List Char} (hb : ∀ c ∈ b, isBlank c = true) :
    (splitWhere (· == ';') b).filterMap declaration? = [] := by
  have stop : ';' ∉ b := not_mem_of_blank hb (by decide)
  have colon : ':' ∉ b := not_mem_of_blank hb (by decide)
  rw [splitWhere_of_none (beq_eq_false_of_not_mem stop)]
  simp only [List.filterMap_cons, declaration?, cutAt_of_not_mem colon, List.filterMap_nil]

/-! ## Writing -/

namespace Declaration

/-- The value of a declaration with its mark, as a line of a style sheet spells it. -/
def spelled (d : Declaration) : String :=
  d.value ++ if d.important then " " ++ importantMark else ""

/-- The value that reading the line of a declaration gives. -/
def written (d : Declaration) : String := trim d.spelled

/-- A declaration whose line is read back. -/
structure IsReadable (d : Declaration) : Prop where
  property : IsProperty d.property
  some_ : d.written.toList ≠ []
  stop : ';' ∉ d.value.toList

/-- The characters of the line of a declaration. -/
theorem toList_line (d : Declaration) : (d.line Dict.empty).toList =
    ' ' :: ' ' :: d.property.toList ++ ':' :: ' ' :: d.spelled.toList ++ [';'] := by
  have plain : writeValue Dict.empty d.value = d.value := by
    simp only [writeValue, Dict.get?_empty]
  simp [line, plain, spelled, String.toList_append]

/-- A readable declaration is spelled without a semicolon. -/
theorem IsReadable.stop_spelled {d : Declaration} (h : d.IsReadable) : ';' ∉ d.spelled.toList := by
  intro mem
  rw [spelled, String.toList_append, List.mem_append] at mem
  rcases mem with value | mark
  · exact h.stop value
  · split at mark <;> exact absurd mark (by decide)

/-- The line of a declaration behind blanks is the first thing that is read; what follows its stop
is read on its own. -/
theorem filterMap_declaration?_line {d : Declaration} {b : List Char} (hd : d.IsReadable)
    (hb : ∀ c ∈ b, isBlank c = true) (t : List Char) :
    (splitWhere (· == ';') (b ++ ((d.line Dict.empty).toList ++ t))).filterMap declaration? =
      (d.property, d.written) :: (splitWhere (· == ';') t).filterMap declaration? := by
  have blanks : ∀ c ∈ b ++ [' ', ' '], isBlank c = true := by
    intro c hc
    rcases List.mem_append.1 hc with mem | mem
    · exact hb c mem
    · simp only [List.mem_cons, List.not_mem_nil, or_false, or_self] at mem
      subst mem
      decide
  have value : trimChars (' ' :: d.spelled.toList) = d.written.toList := by
    rw [written, trim, String.toList_ofList]
    exact trimChars_append_left (b := [' ']) (Lists.forall_mem_of_all (by decide))
  have read : declaration? (b ++ [' ', ' '] ++ d.property.toList ++
      ':' :: ' ' :: d.spelled.toList) = some (d.property, d.written) := by
    rw [declaration?_append blanks hd.property (by rw [value]; exact hd.some_), value,
      String.ofList_toList]
  have stop : ';' ∉ b ++ [' ', ' '] ++ d.property.toList ++ ':' :: ' ' :: d.spelled.toList := by
    rw [List.mem_append, List.mem_append, not_or, not_or]
    refine ⟨⟨not_mem_of_blank blanks (by decide), hd.property.stop⟩, ?_⟩
    simp [hd.stop_spelled]
  have pieces := splitWhere_append_cons (p := (· == ';')) (d := ';') rfl t
    (beq_eq_false_of_not_mem stop)
  rw [d.toList_line]
  simp only [List.append_assoc, List.cons_append, List.nil_append] at pieces read ⊢
  rw [pieces, List.filterMap_cons, read]

/-- The lines of declarations are read as these declarations, each with what was written for it. -/
theorem filterMap_declaration?_lines {ds : List Declaration} (h : ∀ d ∈ ds, d.IsReadable)
    {b : List Char} (hb : ∀ c ∈ b, isBlank c = true) :
    (splitWhere (· == ';') (b ++ (join "\n" (ds.map (line Dict.empty))).toList)).filterMap
      declaration? = ds.map fun d => (d.property, d.written) := by
  induction ds generalizing b with
  | nil =>
    have blank := filterMap_declaration?_blank hb
    rw [List.map_nil, List.map_nil, join]
    simpa using blank
  | cons d rest ih =>
    have hd := h d List.mem_cons_self
    cases rest with
    | nil =>
      have read := filterMap_declaration?_line hd hb []
      have behind := filterMap_declaration?_blank (b := []) (by simp)
      rw [List.append_nil, behind] at read
      exact read
    | cons e more =>
      have read := filterMap_declaration?_line hd hb
        ('\n' :: (join "\n" ((e :: more).map (line Dict.empty))).toList)
      have behind := ih (fun f hf => h f (List.mem_cons_of_mem d hf)) (b := ['\n'])
        (Lists.forall_mem_of_all (by decide))
      rw [List.singleton_append] at behind
      rw [behind] at read
      rw [List.map_cons, List.map_cons, join, String.toList_append, String.toList_append,
        List.append_assoc]
      exact read

/-! ## Marks -/

/-- The mark has no blank at its ends. -/
theorem isTrimmed_importantMark : IsTrimmed importantMark.toList :=
  isTrimmed_of_no_blank (Lists.forall_mem_of_all (by decide))

/-- The mark of an important value stands behind a space, or alone where there is no value. -/
theorem toList_written_of_important {d : Declaration} (important : d.important = true)
    (trimmed : IsTrimmed d.value.toList) :
    (d.value.toList = [] ∧ d.written.toList = importantMark.toList) ∨
      (d.value.toList ≠ [] ∧ d.written.toList = d.value.toList ++ ' ' :: importantMark.toList) := by
  have spelled : d.spelled.toList = d.value.toList ++ [' '] ++ importantMark.toList := by
    simp [spelled, important]
  rw [written, trim, String.toList_ofList, spelled]
  by_cases empty : d.value.toList = []
  · refine .inl ⟨empty, ?_⟩
    rw [empty, List.nil_append, trimChars_append_left (Lists.forall_mem_of_all (by decide)),
      trimChars_of_isTrimmed isTrimmed_importantMark]
  · refine .inr ⟨empty, ?_⟩
    have whole := trimmed.append (u := [' ']) isTrimmed_importantMark empty (by decide)
    rw [trimChars_of_isTrimmed whole, List.append_assoc, List.singleton_append]

/-- A value is told apart from its mark as it is declared. -/
theorem splitImportant_eq (p v : String) :
    splitImportant v = ((of p v).value, (of p v).important) := rfl

/-- A value without a mark is spelled as it is. -/
theorem of_of_plain {p v : String} (hv : IsTrimmed v.toList)
    (plain : contains v importantMark = false) :
    of p v = { property := p, value := v, important := false } ∧ (of p v).written = v := by
  have kept : trim v = v := by rw [trim, trimChars_of_isTrimmed hv, String.ofList_toList]
  have form : of p v = { property := p, value := v, important := false } := by
    simp [of, splitImportant, plain, kept]
  refine ⟨form, ?_⟩
  rw [form, written, spelled, if_neg Bool.false_ne_true, String.append_empty, kept]

/-- A text with every mark taken out. -/
def unmarked (v : List Char) : List Char := replaceFrom importantMark.toList [] 0 v

/-- A marked value is declared without its marks, and important. -/
theorem of_of_marked {p v : String} (marked : contains v importantMark = true) :
    of p v = { property := p, value := String.ofList (trimChars (unmarked v.toList)),
               important := true } := by
  have erased : replace v importantMark "" = String.ofList (unmarked v.toList) := by
    rw [replace, if_neg (by decide)]
    rfl
  simp [of, splitImportant, marked, erased, trim]

/-- What was read is written so that it can be read again. -/
theorem isReadable_of {p v : String} (hp : IsProperty p) (hv : IsValue v) :
    (of p v).IsReadable := by
  cases marked : contains v importantMark with
  | false =>
    obtain ⟨form, plain⟩ := of_of_plain (p := p) hv.trimmed marked
    refine ⟨by rwa [form], ?_, ?_⟩
    · rw [plain]
      exact hv.some_
    · rw [form]
      exact hv.stop
  | true =>
    have form := of_of_marked (p := p) marked
    have trimmed : IsTrimmed (of p v).value.toList := by
      rw [form, String.toList_ofList]
      exact isTrimmed_trimChars _
    refine ⟨by rwa [form], ?_, ?_⟩
    · rcases toList_written_of_important (by rw [form]) trimmed with ⟨-, alone⟩ | ⟨-, behind⟩
      · rw [alone]
        decide
      · rw [behind]
        simp
    · rw [form, String.toList_ofList]
      intro stop
      exact hv.stop (mem_of_mem_erase (mem_of_mem_trimChars stop))

/-- Taking the marks out of what is written for an important value takes out the mark behind it and
those that the value itself holds. -/
theorem trimChars_unmarked_written {d : Declaration} (important : d.important = true)
    (trimmed : IsTrimmed d.value.toList) :
    contains d.written importantMark = true ∧
      trimChars (unmarked d.written.toList) = trimChars (unmarked d.value.toList) := by
  have space : ' ' ∉ importantMark.toList := by decide
  have mark : occursIn importantMark.toList importantMark.toList = true := by decide
  rcases toList_written_of_important important trimmed with ⟨empty, alone⟩ | ⟨-, behind⟩
  · refine ⟨by rw [contains, alone, mark], ?_⟩
    rw [alone, empty]
    decide
  · constructor
    · rw [contains, behind, occursIn_append_cons (by decide) space, mark, Bool.or_true]
    · have last : replaceFrom importantMark.toList [] 0 (' ' :: importantMark.toList) = [' '] := by
        decide
      rw [unmarked, behind, replaceFrom_append_cons space _ 0 _ (Nat.zero_le _), last,
        trimChars_append_right _ (Lists.forall_mem_of_all (by decide)), unmarked]

/-- A value is told apart from its mark again exactly when it holds no mark once the marks are taken
out. -/
theorem splitImportant_written_iff {p v : String} (hv : IsTrimmed v.toList) :
    splitImportant (of p v).written = splitImportant v ↔
      contains (splitImportant v).1 importantMark = false := by
  have parts := splitImportant_eq p v
  cases marked : contains v importantMark with
  | false =>
    obtain ⟨form, plain⟩ := of_of_plain (p := p) hv marked
    rw [plain, parts, form]
    simp [marked]
  | true =>
    have form := of_of_marked (p := p) marked
    have trimmed : IsTrimmed (of p v).value.toList := by
      rw [form, String.toList_ofList]
      exact isTrimmed_trimChars _
    obtain ⟨again, rest⟩ := trimChars_unmarked_written (d := of p v) (by rw [form]) trimmed
    have read : splitImportant (of p v).written =
        (String.ofList (trimChars (unmarked (of p v).value.toList)), true) := by
      rw [splitImportant_eq p, of_of_marked again, rest]
    have important : (of p v).important = true := by rw [form]
    rw [read, parts, important, Prod.mk.injEq, eq_self, and_true]
    generalize (of p v).value = u at trimmed
    rw [← String.toList_inj, String.toList_ofList]
    -- Taking marks out shortens a value that holds one, so it cannot come out as it went in.
    constructor
    · intro same
      rw [contains, Bool.eq_false_iff]
      intro occurs
      have shorter := length_erase_lt (by decide) occurs
      have trimmedSize := length_trimChars_le (unmarked u.toList)
      rw [same] at trimmedSize
      exact absurd shorter (Nat.not_lt.2 trimmedSize)
    · intro plain
      rw [unmarked, replaceFrom_of_not_occursIn plain, trimChars_of_isTrimmed trimmed]

end Declaration

end Componentry.Stylesheet
