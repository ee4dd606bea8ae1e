/-!
# Lines

A text is cut at every line boundary: line feed, carriage return or both together, vertical tab,
form feed, the separators `\x1c` to `\x1e`, next line, and the line and paragraph separators. A
boundary ends a line, so a final one opens no further line.
-/

set_option autoImplicit false

namespace Componentry.Text

/-- A character that ends a line. -/
def isLineBreak (c : Char) : Bool :=
  let n := c.toNat
  (10 ≤ n && n ≤ 13) || (28 ≤ n && n ≤ 30) || n == 0x85 || n == 0x2028 || n == 0x2029

/-- The lines of a text without the characters that end them. -/
def linesOf : List Char → List (List Char)
  | [] => []
  | '\r' :: '\n' :: rest => [] :: linesOf rest
  | c :: rest =>
    if isLineBreak c then [] :: linesOf rest
    else match linesOf rest with
      | [] => [[c]]
      | line :: lines => (c :: line) :: lines

/-- The lines of a text. -/
def lines (s : String) : List String := (linesOf s.toList).map String.ofList

/-- Reads both carriage return spellings of a line end as a line feed. -/
def unixLines : List Char → List Char
  | [] => []
  | '\r' :: '\n' :: rest => '\n' :: unixLines rest
  | '\r' :: rest => '\n' :: unixLines rest
  | c :: rest => c :: unixLines rest

/-- No line holds a character that ends a line. -/
theorem isLineBreak_eq_false_of_mem_linesOf (s : List Char) :
    ∀ l ∈ linesOf s, ∀ c ∈ l, isLineBreak c = false := by
  fun_induction linesOf s with
  | case1 => intro l hl; cases hl
  | case2 rest ih =>
    intro l hl c hc
    rcases List.mem_cons.1 hl with rfl | hl
    · cases hc
    · exact ih l hl c hc
  | case3 a rest _ ha ih =>
    intro l hl c hc
    rcases List.mem_cons.1 hl with rfl | hl
    · cases hc
    · exact ih l hl c hc
  | case4 a rest _ ha hs ih =>
    intro l hl c hc
    rw [List.mem_singleton.1 hl, List.mem_singleton] at hc
    subst hc
    simpa using ha
  | case5 a rest _ ha line lines hs ih =>
    intro l hl c hc
    rw [hs] at ih
    rcases List.mem_cons.1 hl with rfl | hl
    · rcases List.mem_cons.1 hc with rfl | hc
      · simpa using ha
      · exact ih line List.mem_cons_self c hc
    · exact ih l (List.mem_cons_of_mem _ hl) c hc

end Componentry.Text
