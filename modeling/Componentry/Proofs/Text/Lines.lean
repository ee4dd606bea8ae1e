import Componentry.Proofs.Text.Pieces
import Componentry.Proofs.Text.Trim
import Componentry.Text.Lines
import Componentry.Text.Slice

/-!
# Lines with something on them

A carriage return before a line feed makes no line of its own, and no line follows the last end of a
line; but the lines that are not blank are just the pieces between the ends of lines that are not
blank. So those of two texts with a line feed between them are those of one and then those of the
other.
-/

set_option autoImplicit false

namespace Componentry.Text

/-- Something else than blanks stands on a line. -/
def isFilled (l : List Char) : Bool := !l.all isBlank

/-- The lines of a text that are not blank. -/
def filledLines (s : List Char) : List (List Char) := (linesOf s).filter isFilled

/-- What stands on the lines of a text that are not blank, without the blanks around it. -/
def contentLines (s : String) : List (List Char) := (filledLines s.toList).map trimChars

/-- A line is filled when it has a character that is no blank. -/
theorem isFilled_iff {l : List Char} : isFilled l = true ↔ ∃ c ∈ l, isBlank c = false := by
  simp only [isFilled, Bool.not_eq_true', List.all_eq_false, Bool.not_eq_true]

/-- Blanks around a line do not fill it. -/
theorem isFilled_append_left {b l : List Char} (hb : ∀ c ∈ b, isBlank c = true) :
    isFilled (b ++ l) = isFilled l := by
  rw [isFilled, isFilled, List.all_append, List.all_eq_true.2 hb, Bool.true_and]

/-- Blanks behind a line do not fill it. -/
theorem isFilled_append_right {b l : List Char} (hb : ∀ c ∈ b, isBlank c = true) :
    isFilled (l ++ b) = isFilled l := by
  rw [isFilled, isFilled, List.all_append, List.all_eq_true.2 hb, Bool.and_true]

/-- Dropping blanks from its end does not empty a filled line. -/
theorem isFilled_dropEndWhile (l : List Char) : isFilled (dropEndWhile isBlank l) = isFilled l := by
  obtain ⟨b, blank, whole⟩ := exists_dropEndWhile_append isBlank l
  rw [← isFilled_append_right blank, whole]

/-- A line break is a blank. -/
theorem isBlank_of_isLineBreak {c : Char} (h : isLineBreak c = true) : isBlank c = true := by
  simp only [isLineBreak, isBlank, Bool.or_eq_true, Bool.and_eq_true, decide_eq_true_eq,
    beq_iff_eq] at h ⊢
  omega

/-- A character that ends no line stands at the start of the first line. -/
theorem linesOf_cons {c : Char} (hc : isLineBreak c = false) (s : List Char) :
    linesOf (c :: s) = (c :: (linesOf s).headD []) :: (linesOf s).tail := by
  have solid : ¬ isLineBreak c = true := Bool.eq_false_iff.1 hc
  rw [linesOf, if_neg solid]
  · cases linesOf s <;> rfl
  · rintro rest rfl
    exact absurd hc (by decide)

/-- A line feed at the start makes an empty first line. -/
theorem linesOf_lineFeed (s : List Char) : linesOf ('\n' :: s) = [] :: linesOf s := by
  rw [linesOf, if_pos (by decide)]
  exact fun _ same => absurd same (by decide)

/-- A line that is ended by a line feed, and those behind it. -/
theorem linesOf_append_cons (t : List Char) : ∀ {l : List Char},
    (∀ c ∈ l, isLineBreak c = false) → linesOf (l ++ '\n' :: t) = l :: linesOf t
  | [], _ => linesOf_lineFeed t
  | c :: rest, h => by
    rw [List.cons_append, linesOf_cons (h c List.mem_cons_self),
      linesOf_append_cons t fun d hd => h d (List.mem_cons_of_mem c hd), List.headD_cons,
      List.tail_cons]

/-- Lines that are ended by line feeds are the lines of the whole. -/
theorem linesOf_flatMap : ∀ {lines : List (List Char)},
    (∀ l ∈ lines, ∀ c ∈ l, isLineBreak c = false) →
    linesOf (lines.flatMap fun l => l ++ ['\n']) = lines
  | [], _ => rfl
  | l :: rest, h => by
    rw [List.flatMap_cons, List.append_assoc, List.singleton_append,
      linesOf_append_cons _ (h l List.mem_cons_self),
      linesOf_flatMap fun m hm => h m (List.mem_cons_of_mem l hm)]

/-- The first line of a text is its first piece between ends of lines, and of the others those that
are not blank are the same. -/
theorem exists_linesOf_eq {s : List Char} (h : s ≠ []) : ∃ first lines pieces,
    linesOf s = first :: lines ∧ splitWhere isLineBreak s = first :: pieces ∧
      lines.filter isFilled = pieces.filter isFilled := by
  -- what holds of a text that is not empty gives the whole of its lines that are not blank
  have whole (rest : List Char) (ih : rest ≠ [] → ∃ first lines pieces,
      linesOf rest = first :: lines ∧ splitWhere isLineBreak rest = first :: pieces ∧
        lines.filter isFilled = pieces.filter isFilled) :
      (linesOf rest).filter isFilled = (splitWhere isLineBreak rest).filter isFilled := by
    rcases eq_or_ne rest [] with rfl | some_
    · rfl
    · obtain ⟨first, lines, pieces, eq, eq', same⟩ := ih some_
      rw [eq, eq', List.filter_cons, List.filter_cons, same]
  -- The cases are those of the recursion: two characters that end a line together, one, or none.
  fun_induction linesOf s with
  | case1 => exact absurd rfl h
  | case2 rest ih =>
    -- the line feed behind a carriage return leaves an empty piece of its own
    refine ⟨[], _, [] :: splitWhere isLineBreak rest, rfl, ?_, whole rest ih⟩
    rw [splitWhere, if_pos (by decide), splitWhere, if_pos (by decide)]
  | case3 c rest _ ends ih =>
    exact ⟨[], _, _, rfl, by rw [splitWhere, if_pos ends], whole rest ih⟩
  | case4 c rest _ inside none_ ih =>
    have empty : rest = [] := by
      by_contra some_
      obtain ⟨first, lines, pieces, eq, _⟩ := ih some_
      rw [none_] at eq
      cases eq
    subst empty
    exact ⟨[c], [], [], rfl, by rw [splitWhere, if_neg inside, splitWhere], rfl⟩
  | case5 c rest _ inside first lines more ih =>
    have some_ : rest ≠ [] := by
      rintro rfl
      cases more
    obtain ⟨first', lines', pieces, eq, eq', same⟩ := ih some_
    rw [more] at eq
    cases eq
    exact ⟨c :: first, lines, pieces, rfl, by rw [splitWhere, if_neg inside, eq'], same⟩

/-- Characters that end no line stand at the start of the first line; the other lines stay. -/
theorem linesOf_append_left {b : List Char} (hb : ∀ c ∈ b, isLineBreak c = false) (s : List Char)
    (h : b ++ s ≠ []) : linesOf (b ++ s) = (b ++ (linesOf s).headD []) :: (linesOf s).tail := by
  have first {t : List Char} (some_ : t ≠ []) :
      linesOf t = (linesOf t).headD [] :: (linesOf t).tail := by
    obtain ⟨line, lines, _, eq, _⟩ := exists_linesOf_eq some_
    rw [eq]
    rfl
  induction b with
  | nil => exact first h
  | cons c rest ih =>
    rw [List.cons_append, linesOf_cons (hb c List.mem_cons_self)]
    rcases eq_or_ne (rest ++ s) [] with none_ | some_
    · obtain ⟨rfl, rfl⟩ := List.append_eq_nil_iff.1 none_
      rfl
    · rw [ih (fun d hd => hb d (List.mem_cons_of_mem c hd)) some_]
      rfl

/-- The lines that are not blank are the pieces between ends of lines that are not blank. -/
theorem filledLines_eq (s : List Char) :
    filledLines s = (splitWhere isLineBreak s).filter isFilled := by
  rcases eq_or_ne s [] with rfl | some_
  · rfl
  · obtain ⟨first, lines, pieces, eq, eq', rest⟩ := exists_linesOf_eq some_
    rw [filledLines, eq, eq', List.filter_cons, List.filter_cons, rest]

/-- A text that is not blank has a line that is not. -/
theorem filledLines_ne_nil {s : List Char} (h : isFilled s = true) : filledLines s ≠ [] := by
  obtain ⟨c, hc, visible⟩ := isFilled_iff.1 h
  have within : isLineBreak c = false := Bool.eq_false_iff.2 fun ends => by
    rw [isBlank_of_isLineBreak ends] at visible
    cases visible
  obtain ⟨piece, mem, hp⟩ := (mem_splitWhere_iff within).2 hc
  rw [filledLines_eq]
  exact List.ne_nil_of_mem (List.mem_filter.2 ⟨mem, isFilled_iff.2 ⟨c, hp, visible⟩⟩)

/-- The lines of two texts with a line feed between them. -/
theorem filledLines_append (s t : List Char) :
    filledLines (s ++ '\n' :: t) = filledLines s ++ filledLines t := by
  rw [filledLines_eq, filledLines_eq, filledLines_eq, splitWhere_append_cut (by decide),
    List.filter_append]

/-- A text without ends of lines has no other line than itself. -/
theorem eq_of_mem_filledLines {s l : List Char} (solid : ∀ c ∈ s, isLineBreak c = false)
    (h : l ∈ filledLines s) : l = s := by
  rcases eq_or_ne s [] with rfl | some_
  · cases h
  · have only := linesOf_append_left solid [] (by rwa [List.append_nil])
    rw [List.append_nil] at only
    have mem := List.mem_of_mem_filter h
    rw [only] at mem
    exact (List.mem_singleton.1 mem).trans (List.append_nil s)

/-- The lines of texts that are joined by line feeds. -/
theorem filledLines_join : ∀ l : List String,
    filledLines (join "\n" l).toList = l.flatMap fun s => filledLines s.toList
  | [] => rfl
  | [s] => (List.flatMap_singleton _ _).symm
  | s :: t :: rest => by
    have feed : "\n".toList = ['\n'] := rfl
    rw [join, String.toList_append, String.toList_append, feed, List.append_assoc,
      List.singleton_append, filledLines_append, filledLines_join (t :: rest)]
    rfl

end Componentry.Text
