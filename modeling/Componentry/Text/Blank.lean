/-!
# Blank characters

The white space of Unicode together with the four information separators. Trimming, words and
blank texts all go by this one class, so a text is blank exactly when trimming leaves nothing of
it and exactly when it has no words.
-/

set_option autoImplicit false

namespace Componentry.Text

/-- A character of the Unicode white space property, or one of the separators `\x1c` to `\x1f`. -/
def isBlank (c : Char) : Bool :=
  let n := c.toNat
  (9 ≤ n && n ≤ 13) || (28 ≤ n && n ≤ 32) || n == 0x85 || n == 0xA0 || n == 0x1680
    || (0x2000 ≤ n && n ≤ 0x200A) || n == 0x2028 || n == 0x2029 || n == 0x202F || n == 0x205F
    || n == 0x3000

/-- The blanks of markup: space, tab, line feed, form feed and carriage return. -/
def isPlainBlank (c : Char) : Bool :=
  c == ' ' || c == '\t' || c == '\n' || c == '\x0c' || c == '\r'

/-- The blanks of the plain kind are among the blanks. -/
theorem isBlank_of_isPlainBlank {c : Char} (h : isPlainBlank c = true) : isBlank c = true := by
  simp only [isPlainBlank, Bool.or_eq_true, beq_iff_eq] at h
  rcases h with (((rfl | rfl) | rfl) | rfl) | rfl <;> decide

/-- Every white space character of the core library is blank. -/
theorem isBlank_of_isWhitespace {c : Char} (h : c.isWhitespace = true) : isBlank c = true := by
  simp only [Char.isWhitespace, Bool.or_eq_true, decide_eq_true_eq] at h
  rcases h with ((rfl | rfl) | rfl) | rfl <;> decide

/-- Drops the characters of a class from the end. -/
def dropEndWhile (p : Char → Bool) (s : List Char) : List Char :=
  (s.reverse.dropWhile p).reverse

/-- Drops the characters of a class from both ends. -/
def trimBy (p : Char → Bool) (s : List Char) : List Char :=
  dropEndWhile p (s.dropWhile p)

/-- Drops the blanks of both ends. -/
def trimChars (s : List Char) : List Char := trimBy isBlank s

/-- Cuts at every character of a class; a text without one is a single piece. -/
def splitWhere (p : Char → Bool) : List Char → List (List Char)
  | [] => [[]]
  | c :: rest =>
    if p c then [] :: splitWhere p rest
    else match splitWhere p rest with
      | [] => [[c]]
      | piece :: pieces => (c :: piece) :: pieces

/-- The maximal runs without a blank, in order. -/
def wordsOf (s : List Char) : List (List Char) :=
  (splitWhere isBlank s).filter fun w => !w.isEmpty

/-- A text without its blank ends. -/
def trim (s : String) : String := String.ofList (trimChars s.toList)

/-- A text without the blanks at its start. -/
def trimStart (s : String) : String := String.ofList (s.toList.dropWhile isBlank)

/-- A text without the blanks at its end. -/
def trimEnd (s : String) : String := String.ofList (dropEndWhile isBlank s.toList)

/-- The words of a text. -/
def words (s : String) : List String := (wordsOf s.toList).map String.ofList

/-- A text of blanks only, the empty one among them. -/
def isBlankText (s : String) : Bool := s.toList.all isBlank

/-- No word is empty. -/
theorem ne_nil_of_mem_wordsOf {s w : List Char} (h : w ∈ wordsOf s) : w ≠ [] := by
  have := (List.mem_filter.1 h).2
  cases w with
  | nil => simp at this
  | cons => exact List.cons_ne_nil _ _

/-- No piece between cuts holds a character of the class. -/
theorem eq_false_of_mem_splitWhere (p : Char → Bool) :
    ∀ (s : List Char), ∀ w ∈ splitWhere p s, ∀ c ∈ w, p c = false
  | [], w, hw, c, hc => by
    simp only [splitWhere, List.mem_singleton] at hw
    subst hw
    cases hc
  | a :: rest, w, hw, c, hc => by
    have ih := eq_false_of_mem_splitWhere p rest
    rw [splitWhere] at hw
    by_cases ha : p a = true
    · rw [if_pos ha] at hw
      rcases List.mem_cons.1 hw with rfl | hw
      · cases hc
      · exact ih w hw c hc
    · rw [if_neg ha] at hw
      cases hs : splitWhere p rest with
      | nil =>
        rw [hs] at hw
        rw [List.mem_singleton.1 hw, List.mem_singleton] at hc
        subst hc
        simpa using ha
      | cons piece pieces =>
        rw [hs] at hw
        rcases List.mem_cons.1 hw with rfl | hw
        · rcases List.mem_cons.1 hc with rfl | hc
          · simpa using ha
          · exact ih piece (by rw [hs]; exact List.mem_cons_self) c hc
        · exact ih w (by rw [hs]; exact List.mem_cons_of_mem _ hw) c hc

/-- No word holds a blank. -/
theorem isBlank_eq_false_of_mem_wordsOf {s w : List Char} (h : w ∈ wordsOf s) {c : Char}
    (hc : c ∈ w) : isBlank c = false :=
  eq_false_of_mem_splitWhere isBlank s w (List.mem_filter.1 h).1 c hc

end Componentry.Text
