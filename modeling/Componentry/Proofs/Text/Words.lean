import Componentry.Proofs.Text.Pieces
import Componentry.Proofs.Text.Trim

/-!
# Words of texts that are put together

A blank between two texts keeps their words apart, however many blanks stand there; without one the
last word of the first and the first word of the second become one. So texts that are woven with
blanks between some of them tell by their words where the blanks are.
-/

set_option autoImplicit false

namespace Componentry.Text

/-! ## A blank between texts -/

/-- What stands before a cut goes on with the first piece behind. -/
theorem splitWhere_append {p : Char → Bool} {t piece : List Char} {pieces : List (List Char)}
    (h : splitWhere p t = piece :: pieces) : ∀ {s : List Char}, (∀ c ∈ s, p c = false) →
      splitWhere p (s ++ t) = (s ++ piece) :: pieces
  | [], _ => h
  | c :: rest, solid => by
    have hc : p c = false := solid c List.mem_cons_self
    have others := splitWhere_append h fun d hd => solid d (List.mem_cons_of_mem c hd)
    rw [List.cons_append, splitWhere, if_neg (by rw [hc]; exact Bool.false_ne_true), others]
    rfl

/-- The words around a blank are those before it and those behind it. -/
theorem wordsOf_append_cons {c : Char} (blank : isBlank c = true) (s t : List Char) :
    wordsOf (s ++ c :: t) = wordsOf s ++ wordsOf t := by
  rw [wordsOf, splitWhere_append_cut blank, List.filter_append]
  rfl

@[simp] theorem wordsOf_nil : wordsOf [] = [] := rfl

/-- Blanks keep words apart, and have none. -/
theorem wordsOf_append_blanks {b : List Char} (blank : ∀ c ∈ b, isBlank c = true)
    (some_ : b ≠ []) (s t : List Char) : wordsOf (s ++ b ++ t) = wordsOf s ++ wordsOf t := by
  induction b generalizing s with
  | nil => exact absurd rfl some_
  | cons c rest ih =>
    have hc := blank c List.mem_cons_self
    rw [List.append_assoc, List.cons_append, wordsOf_append_cons hc]
    cases rest with
    | nil => rfl
    | cons d more =>
      have others :=
        ih (fun e he => blank e (List.mem_cons_of_mem c he)) (List.cons_ne_nil d more) []
      rw [List.nil_append] at others
      rw [others]
      rfl

/-- A text without a blank is one word. -/
theorem wordsOf_of_solid {w : List Char} (some_ : w ≠ []) (solid : ∀ c ∈ w, isBlank c = false) :
    wordsOf w = [w] := by
  rw [wordsOf, splitWhere_of_none solid, List.filter_cons_of_pos (by simpa using some_)]
  rfl

/-! ## Texts with the same words wherever they stand -/

/-- Texts that make the same words wherever they stand. -/
def SameWords (s t : List Char) : Prop := ∀ a b, wordsOf (a ++ s ++ b) = wordsOf (a ++ t ++ b)

namespace SameWords

variable {s t u s' t' : List Char}

/-- A text has the words it has. -/
theorem refl (s : List Char) : SameWords s s := fun _ _ => rfl

/-- Equal texts have the same words. -/
theorem of_eq (h : s = t) : SameWords s t := h ▸ refl s

/-- Texts with the words of one text have the same words. -/
theorem trans (h : SameWords s t) (h' : SameWords t u) : SameWords s u :=
  fun a b => (h a b).trans (h' a b)

/-- To have the same words goes both ways. -/
theorem symm (h : SameWords s t) : SameWords t s := fun a b => (h a b).symm

/-- Texts in a row have the same words when each pair has. -/
theorem append (h : SameWords s t) (h' : SameWords s' t') : SameWords (s ++ s') (t ++ t') := by
  intro a b
  have first := h a (s' ++ b)
  have second := h' (a ++ t) b
  simp only [List.append_assoc] at first second ⊢
  exact first.trans second

/-- Blanks make the words of one space. -/
theorem of_blank {b : List Char} (blank : ∀ c ∈ b, isBlank c = true) (some_ : b ≠ []) :
    SameWords b [' '] := by
  intro s t
  rw [wordsOf_append_blanks blank some_, List.append_assoc, List.singleton_append,
    wordsOf_append_cons (c := ' ') rfl]

/-- One run of blanks is as good as another. -/
theorem of_blanks {b b' : List Char} (blank : ∀ c ∈ b, isBlank c = true) (some_ : b ≠ [])
    (blank' : ∀ c ∈ b', isBlank c = true) (some' : b' ≠ []) : SameWords b b' :=
  (of_blank blank some_).trans (of_blank blank' some').symm

/-- Texts with the same words have the same list of words. -/
theorem wordsOf_eq (h : SameWords s t) : wordsOf s = wordsOf t := by
  have alone := h [] []
  rwa [List.nil_append, List.nil_append, List.append_nil, List.append_nil] at alone

end SameWords

/-! ## Woven texts -/

/-- A text with something in it and no blank at its ends. -/
structure IsSolid (s : List Char) : Prop where
  some_ : s ≠ []
  trimmed : IsTrimmed s

/-- The last word of a text goes on with what stands behind the text. -/
theorem exists_last_word {s : List Char} (h : IsSolid s) : ∃ (before : List (List Char))
    (w : List Char), w ≠ [] ∧ (∀ c ∈ w, isBlank c = false) ∧
      ∀ t, wordsOf (s ++ t) = before ++ wordsOf (w ++ t) := by
  obtain ⟨front, w, whole, solid, cut⟩ : ∃ front w : List Char, s = front ++ w ∧
      (∀ c ∈ w, isBlank c = false) ∧ ∀ c ∈ front.getLast?, isBlank c = true := by
    refine ⟨(s.reverse.dropWhile fun c => !isBlank c).reverse,
      (s.reverse.takeWhile fun c => !isBlank c).reverse, ?_, fun c hc => ?_, fun c hc => ?_⟩
    · rw [← List.reverse_append, List.takeWhile_append_dropWhile, List.reverse_reverse]
    · simpa using List.mem_takeWhile_imp (List.mem_reverse.1 hc)
    · rw [List.getLast?_reverse] at hc
      simpa using dropWhile_head? _ c hc
  have some_ : w ≠ [] := by
    rintro rfl
    rw [List.append_nil] at whole
    obtain ⟨c, hc⟩ := Option.ne_none_iff_exists'.1 (mt List.getLast?_eq_none_iff.1 h.some_)
    have blank := cut c (whole ▸ hc)
    rw [h.trimmed.last c hc] at blank
    cases blank
  rcases List.eq_nil_or_concat front with rfl | ⟨front, b, rfl⟩
  · exact ⟨[], w, some_, solid, fun t => by rw [whole]; rfl⟩
  · have blank : isBlank b = true :=
      cut b (by rw [List.concat_eq_append, List.getLast?_concat]; rfl)
    refine ⟨wordsOf front, w, some_, solid, fun t => ?_⟩
    rw [whole, List.concat_eq_append, List.append_assoc, List.append_assoc, List.singleton_append,
      wordsOf_append_cons blank]

/-- A word goes on with the first word of a text that has no blank at its start. -/
theorem exists_first_word {c : Char} (hc : isBlank c = false) (t : List Char) :
    ∃ (v : List Char) (others : List (List Char)), v ≠ [] ∧ wordsOf (c :: t) = v :: others ∧
      ∀ w : List Char, (∀ d ∈ w, isBlank d = false) →
        wordsOf (w ++ c :: t) = (w ++ v) :: others := by
  obtain ⟨v, pieces, cut⟩ : ∃ v pieces, splitWhere isBlank (c :: t) = (c :: v) :: pieces := by
    rw [splitWhere, if_neg (by rw [hc]; exact Bool.false_ne_true)]
    split
    · exact ⟨[], [], rfl⟩
    · exact ⟨_, _, rfl⟩
  refine ⟨c :: v, pieces.filter fun w => !w.isEmpty, List.cons_ne_nil _ _, ?_, fun w solid => ?_⟩
  · rw [wordsOf, cut]
    rfl
  · rw [wordsOf, splitWhere_append cut solid, List.filter_cons_of_pos]
    simp

variable {α : Type} {text : α → List Char} {apart apart' : α → Bool}

/-- Texts one after the other, with a space before those that are to stand apart. -/
def weave (text : α → List Char) (apart : α → Bool) (l : List α) : List Char :=
  l.flatMap fun a => (if apart a then [' '] else []) ++ text a

/-- A woven list starts with its first item, behind a space if that is kept apart. -/
theorem weave_cons (apart : α → Bool) (a : α) (l : List α) : weave text apart (a :: l) =
    (if apart a then [' '] else []) ++ (text a ++ weave text apart l) := by
  rw [weave, List.flatMap_cons, List.append_assoc]
  rfl

/-- A text that stands apart has other words than the same one that does not. -/
theorem wordsOf_apart_ne {s t t' : List Char} {c : Char} (hs : IsSolid s)
    (hc : isBlank c = false) : wordsOf (s ++ ' ' :: t) ≠ wordsOf (s ++ c :: t') := by
  obtain ⟨before, w, some_, solid, goesOn⟩ := exists_last_word hs
  obtain ⟨v, others, filled, -, joined⟩ := exists_first_word hc t'
  intro same
  have alone := goesOn []
  rw [List.append_nil, List.append_nil, wordsOf_of_solid some_ solid] at alone
  rw [wordsOf_append_cons (c := ' ') rfl, goesOn, joined w solid, alone, List.append_assoc] at same
  have words := (List.cons.inj (List.append_cancel_left same)).1
  exact filled (List.append_right_eq_self.1 words.symm)

/-- The words behind a text that does not stand apart from them are told from the words of both. -/
theorem wordsOf_together_inj {s : List Char} {c : Char} (hs : IsSolid s) (hc : isBlank c = false)
    (t t' : List Char) :
    wordsOf (s ++ c :: t) = wordsOf (s ++ c :: t') ↔ wordsOf (c :: t) = wordsOf (c :: t') := by
  obtain ⟨before, w, -, solid, goesOn⟩ := exists_last_word hs
  obtain ⟨v, others, -, words, joined⟩ := exists_first_word hc t
  obtain ⟨v', others', -, words', joined'⟩ := exists_first_word hc t'
  rw [goesOn, goesOn, joined w solid, joined' w solid, words, words', List.append_cancel_left_eq,
    List.cons.injEq, List.cons.injEq, List.append_cancel_left_eq]

/-- The words of woven texts tell which of them stand apart. -/
theorem wordsOf_weave_eq_iff : ∀ {l : List α} {s : List Char}, IsSolid s →
    (∀ a ∈ l, IsSolid (text a)) →
    (wordsOf (s ++ weave text apart l) = wordsOf (s ++ weave text apart' l) ↔
      ∀ a ∈ l, apart a = apart' a)
  | [], s, _, _ => ⟨fun _ _ h => absurd h List.not_mem_nil, fun _ => rfl⟩
  | a :: l, s, hs, hl => by
    obtain ⟨ha, hl⟩ := List.forall_mem_cons.1 hl
    rw [List.forall_mem_cons, ← wordsOf_weave_eq_iff ha hl, weave_cons, weave_cons]
    obtain ⟨c, u, first⟩ := List.exists_cons_of_ne_nil ha.some_
    have hc : isBlank c = false := ha.trimmed.first c (by rw [first]; rfl)
    rw [first]
    simp only [List.cons_append]
    cases apart a with
    | true =>
      cases apart' a with
      | true =>
        simp only [if_true, List.singleton_append, true_and]
        rw [wordsOf_append_cons (c := ' ') rfl, wordsOf_append_cons (c := ' ') rfl,
          List.append_cancel_left_eq]
      | false => exact ⟨fun same => absurd same (wordsOf_apart_ne hs hc), fun h => nomatch h.1⟩
    | false =>
      cases apart' a with
      | true => exact ⟨fun same => absurd same.symm (wordsOf_apart_ne hs hc), fun h => nomatch h.1⟩
      | false =>
        simp only [Bool.false_eq_true, if_false, List.nil_append, true_and]
        exact wordsOf_together_inj hs hc _ _

end Componentry.Text
