import Componentry.Text.Blank
import Componentry.Text.Slice
import Mathlib.Data.List.Basic

/-!
# Pieces

Cutting undoes joining: texts joined at a character that none of them holds are the pieces between
the cuts at it, and words joined by spaces are the words of the whole. A cut at the first of such
characters gives back what stands around it.
-/

set_option autoImplicit false

namespace Componentry.Text

/-- A text without a character to cut at is one piece. -/
theorem splitWhere_of_none {p : Char → Bool} : ∀ {s : List Char}, (∀ c ∈ s, p c = false) →
    splitWhere p s = [s]
  | [], _ => rfl
  | c :: rest, h => by
    have hc : p c = false := h c List.mem_cons_self
    rw [splitWhere, if_neg (by rw [hc]; exact Bool.false_ne_true),
      splitWhere_of_none fun d hd => h d (List.mem_cons_of_mem c hd)]

/-- A piece ends at the first character to cut at. -/
theorem splitWhere_append_cons {p : Char → Bool} {d : Char} (hd : p d = true) (t : List Char) :
    ∀ {s : List Char}, (∀ c ∈ s, p c = false) → splitWhere p (s ++ d :: t) = s :: splitWhere p t
  | [], _ => by rw [List.nil_append, splitWhere, if_pos hd]
  | c :: rest, h => by
    have hc : p c = false := h c List.mem_cons_self
    rw [List.cons_append, splitWhere, if_neg (by rw [hc]; exact Bool.false_ne_true),
      splitWhere_append_cons hd t fun e he => h e (List.mem_cons_of_mem c he)]

/-- A text has at least one piece. -/
theorem splitWhere_ne_nil (p : Char → Bool) : ∀ s : List Char, splitWhere p s ≠ []
  | [] => List.cons_ne_nil _ _
  | c :: rest => by
    rw [splitWhere]
    split
    · exact List.cons_ne_nil _ _
    · split
      · exact List.cons_ne_nil _ _
      · exact List.cons_ne_nil _ _

/-- A character stands in a text where it is not cut at and stands in a piece. -/
theorem mem_splitWhere_iff {p : Char → Bool} {c : Char} (hc : p c = false) :
    ∀ {s : List Char}, (∃ piece ∈ splitWhere p s, c ∈ piece) ↔ c ∈ s
  | [] => by simp [splitWhere]
  | d :: rest => by
    have ih := mem_splitWhere_iff hc (s := rest)
    obtain ⟨piece, pieces, eq⟩ := List.exists_cons_of_ne_nil (splitWhere_ne_nil p rest)
    rw [splitWhere]
    split
    · next cut =>
      have other : c ≠ d := fun same => by
        rw [same, cut] at hc
        cases hc
      simp [← ih, other]
    · rw [eq] at ih ⊢
      simp only [List.mem_cons, or_and_right, exists_or, exists_eq_left, or_assoc, ← ih]

/-- The pieces of two texts with a cut between them. -/
theorem splitWhere_append_cut {p : Char → Bool} {d : Char} (hd : p d = true) (t : List Char) :
    ∀ s : List Char, splitWhere p (s ++ d :: t) = splitWhere p s ++ splitWhere p t
  | [] => by
    have start : splitWhere p (d :: t) = [] :: splitWhere p t := by rw [splitWhere, if_pos hd]
    rw [List.nil_append, start]
    rfl
  | c :: rest => by
    rw [List.cons_append, splitWhere, splitWhere, splitWhere_append_cut hd t rest]
    split
    · rfl
    · obtain ⟨piece, pieces, eq⟩ := List.exists_cons_of_ne_nil (splitWhere_ne_nil p rest)
      rw [eq]
      rfl

/-- A text without a character has none to cut at it. -/
theorem beq_eq_false_of_not_mem {d : Char} {s : List Char} (h : d ∉ s) :
    ∀ c ∈ s, (c == d) = false := by
  intro c hc
  rw [beq_eq_false_iff_ne]
  rintro rfl
  exact h hc

/-- What is no blank does not stand among blanks. -/
theorem not_mem_of_blank {d : Char} {s : List Char} (hs : ∀ c ∈ s, isBlank c = true)
    (hd : isBlank d = false) : d ∉ s := by
  intro mem
  rw [hs d mem] at hd
  cases hd

/-- Joined texts with the separator before the first of them, too. -/
theorem cons_join {separator : String} {d : Char} (single : separator.toList = [d]) :
    ∀ {l : List String}, l ≠ [] →
      d :: (join separator l).toList = l.flatMap fun s => d :: s.toList
  | [], some_ => absurd rfl some_
  | [s], _ => by
    rw [List.flatMap_singleton]
    rfl
  | s :: t :: rest, _ => by
    rw [join, String.toList_append, String.toList_append, single, List.append_assoc,
      List.singleton_append, cons_join single (List.cons_ne_nil t rest)]
    rfl

/-- A character that does not separate stands in joined texts where it stands in one of them. -/
theorem mem_join_iff {separator : String} {c : Char} (hc : c ∉ separator.toList) :
    ∀ {l : List String}, c ∈ (join separator l).toList ↔ ∃ s ∈ l, c ∈ s.toList
  | [] => by simp [join]
  | [s] => by simp [join]
  | s :: t :: rest => by
    have ih := mem_join_iff hc (l := t :: rest)
    rw [join, String.toList_append, String.toList_append, List.mem_append, List.mem_append, ih]
    simp [hc]

/-- Cutting joined texts gives them back. -/
theorem splitWhere_join {p : Char → Bool} {separator : String} {d : Char}
    (single : separator.toList = [d]) (hd : p d = true) : ∀ {l : List String}, l ≠ [] →
      (∀ s ∈ l, ∀ c ∈ s.toList, p c = false) →
      splitWhere p (join separator l).toList = l.map String.toList
  | [s], _, h => by
    rw [join, splitWhere_of_none (h s List.mem_cons_self)]
    rfl
  | s :: t :: rest, _, h => by
    rw [join, String.toList_append, String.toList_append, single, List.append_assoc,
      List.singleton_append, splitWhere_append_cons hd _ (h s List.mem_cons_self),
      splitWhere_join single hd (List.cons_ne_nil t rest) fun u hu =>
        h u (List.mem_cons_of_mem s hu)]
    rfl

/-- Texts that are joined to the same text at a character that none of them holds are the same. -/
theorem join_inj {p : Char → Bool} {separator : String} {d : Char}
    (single : separator.toList = [d]) (hd : p d = true) {l m : List String} (hl : l ≠ [])
    (hm : m ≠ []) (left : ∀ s ∈ l, ∀ c ∈ s.toList, p c = false)
    (right : ∀ s ∈ m, ∀ c ∈ s.toList, p c = false) (h : join separator l = join separator m) :
    l = m := by
  have pieces := splitWhere_join single hd hl left
  rw [h, splitWhere_join single hd hm right] at pieces
  exact List.map_injective_iff.2 (fun _ _ => String.toList_injective) pieces.symm

/-- Texts that are joined stand in what is joined of them. -/
theorem infix_join {separator s : String} : ∀ {l : List String}, s ∈ l →
    s.toList <:+: (join separator l).toList
  | [t], h => by
    obtain rfl := List.mem_singleton.1 h
    exact List.infix_rfl
  | t :: u :: rest, h => by
    rw [join, String.toList_append, String.toList_append]
    rcases List.mem_cons.1 h with rfl | h
    · rw [List.append_assoc]
      exact (List.prefix_append _ _).isInfix
    · exact (infix_join h).trans (List.suffix_append _ _).isInfix

/-- A text that is a word. -/
structure IsWord (s : String) : Prop where
  some_ : s ≠ ""
  solid : ∀ c ∈ s.toList, isBlank c = false

/-- The words of a text are words. -/
theorem isWord_of_mem_words {s t : String} (h : t ∈ words s) : IsWord t := by
  obtain ⟨w, hw, rfl⟩ := List.mem_map.1 h
  refine ⟨fun empty => ne_nil_of_mem_wordsOf hw ?_, fun c hc => ?_⟩
  · exact String.ofList_eq_empty_iff.1 empty
  · rw [String.toList_ofList] at hc
    exact isBlank_eq_false_of_mem_wordsOf hw hc

/-- The words of words joined by spaces are these words. -/
theorem words_join {l : List String} (h : ∀ s ∈ l, IsWord s) : words (join " " l) = l := by
  cases l with
  | nil => rfl
  | cons s rest =>
    have pieces : splitWhere isBlank (join " " (s :: rest)).toList =
        (s :: rest).map String.toList :=
      splitWhere_join (d := ' ') rfl rfl (List.cons_ne_nil s rest) fun t ht => (h t ht).solid
    have kept : ∀ w ∈ (s :: rest).map String.toList, (!w.isEmpty) = true := by
      intro w hw
      obtain ⟨t, ht, rfl⟩ := List.mem_map.1 hw
      rw [Bool.not_eq_true', List.isEmpty_eq_false_iff]
      exact fun empty => (h t ht).some_ (String.toList_eq_nil_iff.1 empty)
    rw [words, wordsOf, pieces, List.filter_eq_self.2 kept, List.map_map]
    exact (List.map_congr_left fun t _ => String.ofList_toList).trans (List.map_id _)

/-- A word is its own only word. -/
theorem words_of_isWord {s : String} (h : IsWord s) : words s = [s] :=
  words_join (l := [s]) fun t ht => by rwa [List.mem_singleton.1 ht]

/-! ## Cuts at the first character -/

/-- What stands behind a literal is the rest after it. -/
theorem restAfter?_append : ∀ literal s : List Char, restAfter? literal (literal ++ s) = some s
  | [], _ => rfl
  | a :: literal, s => by
    rw [List.cons_append, restAfter?, if_pos (beq_self_eq_true a), restAfter?_append literal s]

/-- A text is cut at the first mark. -/
theorem cutAt_append_cons {d : Char} (t : List Char) : ∀ {s : List Char}, d ∉ s →
    cutAt [d] (s ++ d :: t) = some (s, t)
  | [], _ => by
    rw [List.nil_append, cutAt, restAfter?, if_pos (beq_self_eq_true d), restAfter?]
  | c :: rest, h => by
    have other : (d == c) = false := by
      rw [beq_eq_false_iff_ne]
      exact fun same => h (same ▸ List.mem_cons_self)
    rw [List.cons_append, cutAt, restAfter?, other, if_neg Bool.false_ne_true,
      cutAt_append_cons t fun hd => h (List.mem_cons_of_mem c hd)]
    rfl

/-- A text without the mark is not cut. -/
theorem cutAt_of_not_mem {d : Char} : ∀ {s : List Char}, d ∉ s → cutAt [d] s = none
  | [], _ => rfl
  | c :: rest, h => by
    have other : (d == c) = false := by
      rw [beq_eq_false_iff_ne]
      exact fun same => h (same ▸ List.mem_cons_self)
    rw [cutAt, restAfter?, other, if_neg Bool.false_ne_true,
      cutAt_of_not_mem fun hd => h (List.mem_cons_of_mem c hd)]
    rfl

/-- The character at which a text is cut does not stand before the cut. -/
theorem not_mem_of_cutAt {d : Char} : ∀ {s before tail : List Char},
    cutAt [d] s = some (before, tail) → d ∉ before
  | c :: rest, before, tail, h => by
    rw [cutAt] at h
    split at h
    · cases h
      exact List.not_mem_nil
    · next other =>
      obtain ⟨⟨b, t⟩, hb, he⟩ := Option.map_eq_some_iff.1 h
      cases he
      rw [List.mem_cons, not_or]
      refine ⟨fun same => ?_, not_mem_of_cutAt hb⟩
      subst same
      rw [restAfter?, if_pos (beq_self_eq_true d), restAfter?] at other
      cases other

/-- What stands before and behind the last of a character is told from the text. -/
theorem append_cons_inj {d : Char} {a b s t : List Char} (hs : d ∉ s) (ht : d ∉ t)
    (h : a ++ d :: s = b ++ d :: t) : a = b ∧ s = t := by
  -- read from the end, the last one is the first
  have cut (c : List Char) {u : List Char} (hu : d ∉ u) :
      cutAt [d] (c ++ d :: u).reverse = some (u.reverse, c.reverse) := by
    rw [List.reverse_append, List.reverse_cons, List.append_assoc, List.singleton_append]
    exact cutAt_append_cons _ fun mem => hu (List.mem_reverse.1 mem)
  have same := cut a hs
  rw [h, cut b ht] at same
  simp only [Option.some.injEq, Prod.mk.injEq, List.reverse_inj] at same
  exact ⟨same.2.symm, same.1.symm⟩

end Componentry.Text
