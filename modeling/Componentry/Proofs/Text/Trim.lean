import Componentry.Text.Blank
import Mathlib.Data.List.Basic
import Mathlib.Data.List.TakeWhile

/-!
# Trimming

A trimmed text has no blank at its ends, and trimming leaves it as it is. Blanks around a text make
no difference to what trimming gives.
-/

set_option autoImplicit false

namespace Componentry.Text

/-- No blank stands at the ends of a text. -/
structure IsTrimmed (s : List Char) : Prop where
  first : ∀ c ∈ s.head?, isBlank c = false
  last : ∀ c ∈ s.getLast?, isBlank c = false

/-- A text without blanks is trimmed. -/
theorem isTrimmed_of_no_blank {s : List Char} (h : ∀ c ∈ s, isBlank c = false) : IsTrimmed s where
  first c hc := h c (List.mem_of_mem_head? hc)
  last c hc := h c (List.mem_of_mem_getLast? hc)

/-- A text between the ends of trimmed ones is trimmed. -/
theorem IsTrimmed.append {s t u : List Char} (hs : IsTrimmed s) (ht : IsTrimmed t) (ns : s ≠ [])
    (nt : t ≠ []) : IsTrimmed (s ++ u ++ t) where
  first c hc := by
    rw [List.append_assoc, List.head?_append_of_ne_nil _ ns] at hc
    exact hs.first c hc
  last c hc := by
    rw [List.getLast?_append_of_ne_nil _ nt] at hc
    exact ht.last c hc

/-- What is left after dropping does not start with what is dropped. -/
theorem dropWhile_head? {α : Type} {p : α → Bool} (s : List α) :
    ∀ c ∈ (s.dropWhile p).head?, p c = false := by
  intro c hc
  have first := List.head?_dropWhile_not p s
  rw [Option.mem_def.1 hc] at first
  exact first

/-- Nothing is dropped from what starts with something else. -/
theorem dropWhile_of_head? {α : Type} {p : α → Bool} {s : List α}
    (h : ∀ c ∈ s.head?, p c = false) : s.dropWhile p = s := by
  cases s with
  | nil => rfl
  | cons c rest =>
    exact List.dropWhile_cons_of_neg (by simp [h c rfl])

/-- What is taken ends at the first character that stops. -/
theorem takeWhile_append_cons {p : Char → Bool} {s : List Char} {d : Char}
    (hs : ∀ c ∈ s, p c = true) (hd : p d = false) (t : List Char) :
    (s ++ d :: t).takeWhile p = s := by
  rw [List.takeWhile_append_of_pos hs, List.takeWhile_cons_of_neg (by simp [hd]), List.append_nil]

/-- What is left starts at the first character that stops. -/
theorem dropWhile_append_cons {p : Char → Bool} {s : List Char} {d : Char}
    (hs : ∀ c ∈ s, p c = true) (hd : p d = false) (t : List Char) :
    (s ++ d :: t).dropWhile p = d :: t := by
  rw [List.dropWhile_append_of_pos hs, List.dropWhile_cons_of_neg (by simp [hd])]

/-- Trimming takes blanks from the start and from the end only. -/
theorem exists_blanks_trimChars (s : List Char) : ∃ before behind : List Char,
    (∀ c ∈ before, isBlank c = true) ∧ (∀ c ∈ behind, isBlank c = true) ∧
      s = before ++ trimChars s ++ behind := by
  refine ⟨s.takeWhile isBlank, ((s.dropWhile isBlank).reverse.takeWhile isBlank).reverse,
    fun c hc => List.mem_takeWhile_imp hc,
    fun c hc => List.mem_takeWhile_imp (List.mem_reverse.1 hc), ?_⟩
  rw [trimChars, trimBy, dropEndWhile, List.append_assoc, ← List.reverse_append,
    List.takeWhile_append_dropWhile, List.reverse_reverse, List.takeWhile_append_dropWhile]

/-- A text is what was trimmed of it with something before and behind. -/
theorem exists_trimChars_eq (s : List Char) : ∃ before behind : List Char,
    s = before ++ trimChars s ++ behind := by
  obtain ⟨before, behind, -, -, whole⟩ := exists_blanks_trimChars s
  exact ⟨before, behind, whole⟩

/-- Trimming adds no character. -/
theorem mem_of_mem_trimChars {s : List Char} {c : Char} (h : c ∈ trimChars s) : c ∈ s := by
  obtain ⟨before, behind, whole⟩ := exists_trimChars_eq s
  rw [whole]
  exact List.mem_append_left _ (List.mem_append_right _ h)

/-- Trimming makes no text longer. -/
theorem length_trimChars_le (s : List Char) : (trimChars s).length ≤ s.length := by
  obtain ⟨before, behind, whole⟩ := exists_trimChars_eq s
  have := congrArg List.length whole
  simp only [List.length_append] at this
  omega

/-- A text that trimming does not make shorter stays as it is. -/
theorem trimChars_of_length_le {s : List Char} (h : s.length ≤ (trimChars s).length) :
    trimChars s = s := by
  obtain ⟨before, behind, whole⟩ := exists_trimChars_eq s
  have long := congrArg List.length whole
  simp only [List.length_append] at long
  obtain rfl : before = [] := List.length_eq_zero_iff.1 (by omega)
  obtain rfl : behind = [] := List.length_eq_zero_iff.1 (by omega)
  rw [List.nil_append, List.append_nil] at whole
  exact whole.symm

/-- What is left when an end is dropped ends otherwise. -/
theorem dropEndWhile_getLast? {p : Char → Bool} (s : List Char) :
    ∀ c ∈ (dropEndWhile p s).getLast?, p c = false := by
  rw [dropEndWhile, List.getLast?_reverse]
  exact dropWhile_head? _

/-- Nothing is dropped from an end that is not of the class. -/
theorem dropEndWhile_of_getLast? {p : Char → Bool} {s : List Char}
    (h : ∀ c ∈ s.getLast?, p c = false) : dropEndWhile p s = s := by
  have last : ∀ c ∈ s.reverse.head?, p c = false := by
    rwa [List.head?_reverse]
  rw [dropEndWhile, dropWhile_of_head? last, List.reverse_reverse]

/-- What was trimmed is trimmed. -/
theorem isTrimmed_trimChars (s : List Char) : IsTrimmed (trimChars s) where
  first c hc := by
    obtain ⟨behind, whole⟩ : ∃ behind, s.dropWhile isBlank = trimChars s ++ behind := by
      refine ⟨((s.dropWhile isBlank).reverse.takeWhile isBlank).reverse, ?_⟩
      rw [trimChars, trimBy, dropEndWhile, ← List.reverse_append,
        List.takeWhile_append_dropWhile, List.reverse_reverse]
    refine dropWhile_head? s c ?_
    rw [whole, List.head?_append, Option.mem_def.1 hc]
    rfl
  last := dropEndWhile_getLast? _

/-- A trimmed text stays as it is. -/
theorem trimChars_of_isTrimmed {s : List Char} (h : IsTrimmed s) : trimChars s = s := by
  rw [trimChars, trimBy, dropWhile_of_head? h.first, dropEndWhile_of_getLast? h.last]

/-- Blanks before a text are trimmed. -/
theorem trimChars_append_left {b s : List Char} (hb : ∀ c ∈ b, isBlank c = true) :
    trimChars (b ++ s) = trimChars s := by
  rw [trimChars, trimBy, List.dropWhile_append_of_pos hb, trimChars, trimBy]

/-- What would be dropped from the end may be left out at once. -/
theorem dropEndWhile_append {p : Char → Bool} {b : List Char} (s : List Char)
    (hb : ∀ c ∈ b, p c = true) : dropEndWhile p (s ++ b) = dropEndWhile p s := by
  rw [dropEndWhile, List.reverse_append, List.dropWhile_append_of_pos, dropEndWhile]
  exact fun c hc => hb c (List.mem_reverse.1 hc)

/-- Blanks behind a text are trimmed. -/
theorem trimChars_append_right {b : List Char} (s : List Char) (hb : ∀ c ∈ b, isBlank c = true) :
    trimChars (s ++ b) = trimChars s := by
  rw [trimChars, trimBy, List.dropWhile_append, trimChars, trimBy]
  split
  · next blank =>
    rw [List.isEmpty_iff] at blank
    rw [blank]
    rw [List.dropWhile_eq_nil_iff.2 hb]
  · exact dropEndWhile_append _ hb

/-- What is dropped from an end is of the class. -/
theorem exists_dropEndWhile_append (p : Char → Bool) (s : List Char) :
    ∃ b, (∀ c ∈ b, p c = true) ∧ dropEndWhile p s ++ b = s := by
  refine ⟨(s.reverse.takeWhile p).reverse, fun c hc => ?_, ?_⟩
  · exact List.mem_takeWhile_imp (List.mem_reverse.1 hc)
  · rw [dropEndWhile, ← List.reverse_append, List.takeWhile_append_dropWhile, List.reverse_reverse]

/-- Blanks that were dropped from the end would have been trimmed. -/
theorem trimChars_dropEndWhile (s : List Char) :
    trimChars (dropEndWhile isBlank s) = trimChars s := by
  obtain ⟨b, blank, whole⟩ := exists_dropEndWhile_append isBlank s
  rw [← trimChars_append_right _ blank, whole]

/-- Dropping from the end twice is dropping once. -/
theorem dropEndWhile_dropEndWhile {p : Char → Bool} (s : List Char) :
    dropEndWhile p (dropEndWhile p s) = dropEndWhile p s :=
  dropEndWhile_of_getLast? (dropEndWhile_getLast? s)

end Componentry.Text
