import Componentry.Proofs.Layout.Punctuation

/-!
# Arranged source text

Source text that is laid out has its lines that are not blank, in their order. Each shows what it
showed, or is a statement that has been written anew with the chosen quotes and semicolons: ends of
lines, indents and empty lines make no difference to what lines show.
-/

set_option autoImplicit false

namespace Componentry.Layout
open Componentry.Text

/-- Source text is laid out where this is wanted and there is an indent. -/
def isDone (o : LayoutOptions) : Bool := o.enabled && (indentUnit o).isOk

/-- A line is a statement that is written anew in another way. -/
def alters (o : LayoutOptions) (line : List Char) : Bool :=
  isDone o && punctuate o (dropEndWhile isBlank line) != dropEndWhile isBlank line

/-- What a line shows once the source text is laid out. -/
def shownLine (o : LayoutOptions) (line : List Char) : List Char :=
  if alters o line then trimChars (punctuate o (dropEndWhile isBlank line)) else trimChars line

/-- What the lines of source text show once it is laid out. -/
def shownLines (o : LayoutOptions) (code : String) : List (List Char) :=
  (filledLines code.toList).map (shownLine o)

/-- A line that is not written in another way shows as it is. -/
theorem shownLine_of_not_alters {o : LayoutOptions} {line : List Char} (h : alters o line = false) :
    shownLine o line = trimChars line := by
  rw [shownLine, h]
  rfl

/-- A line shows the same exactly when it is not written in another way. -/
theorem shownLine_eq_iff {o : LayoutOptions} {line : List Char} :
    shownLine o line = trimChars line ↔ alters o line = false := by
  refine ⟨fun same => ?_, shownLine_of_not_alters⟩
  by_contra altered
  rw [Bool.not_eq_false] at altered
  rw [shownLine, if_pos altered, ← trimChars_dropEndWhile line,
    trimChars_punctuate_iff (dropEndWhile_dropEndWhile line)] at same
  rw [alters, same, bne_self_eq_false, Bool.and_false] at altered
  cases altered

/-- The lines of source text show the same exactly when none is written in another way. -/
theorem shownLines_eq_iff {o : LayoutOptions} {code : String} :
    shownLines o code = contentLines code ↔
      ∀ line ∈ filledLines code.toList, alters o line = false := by
  rw [shownLines, contentLines, List.map_inj_left]
  exact forall₂_congr fun _ _ => shownLine_eq_iff

/-! ## Lines that are kept -/

/-- Squeezing only leaves lines out. -/
theorem squeeze_sublist (skip : Bool) (lines : List (List Char)) :
    (squeeze skip lines).Sublist lines := by
  fun_induction squeeze skip lines with
  | case1 => exact List.Sublist.refl []
  | case2 line rest empty ih => exact ih.cons line
  | case3 skip line rest empty some_ ih =>
    rw [List.isEmpty_iff.1 empty]
    exact ih.cons_cons []
  | case4 skip line rest some_ ih => exact ih.cons_cons line

/-- Only lines at the end are dropped. -/
theorem isPrefix_dropEmptyEnd (lines : List (List Char)) : dropEmptyEnd lines <+: lines := by
  have ends := List.reverse_prefix.2 (List.dropWhile_suffix List.isEmpty (l := lines.reverse))
  rwa [List.reverse_reverse] at ends

/-- Only empty lines are left out. -/
theorem filter_squeeze (skip : Bool) (lines : List (List Char)) :
    (squeeze skip lines).filter isFilled = lines.filter isFilled := by
  fun_induction squeeze skip lines with
  | case1 => rfl
  | case2 line rest empty ih =>
    rw [ih, List.isEmpty_iff.1 empty]
    rfl
  | case3 skip line rest empty some_ ih =>
    rw [List.isEmpty_iff.1 empty]
    exact ih
  | case4 skip line rest some_ ih => rw [List.filter_cons, List.filter_cons, ih]

/-- No filled line is dropped. -/
theorem filter_dropEmptyEnd (lines : List (List Char)) :
    (dropEmptyEnd lines).filter isFilled = lines.filter isFilled := by
  have dropped : (lines.reverse.takeWhile List.isEmpty).filter isFilled = [] := by
    refine List.filter_eq_nil_iff.2 fun line hl => ?_
    rw [List.isEmpty_iff.1 (List.mem_takeWhile_imp hl)]
    exact Bool.false_ne_true
  have whole := congrArg (List.filter isFilled)
    (List.takeWhile_append_dropWhile (p := List.isEmpty) (l := lines.reverse))
  rw [List.filter_append, dropped, List.nil_append, List.filter_reverse] at whole
  rw [dropEmptyEnd, List.filter_reverse, whole, List.reverse_reverse]

/-! ## Indents -/

/-- An indent is made of blanks that end no line. -/
theorem blank_of_mem_indentUnit {o : LayoutOptions} {unit : List Char}
    (h : indentUnit o = .ok unit) : ∀ c ∈ unit, isBlank c = true ∧ isLineBreak c = false := by
  have space (n : Nat) : ∀ c ∈ List.replicate n ' ', isBlank c = true ∧ isLineBreak c = false := by
    intro c hc
    rw [List.eq_of_mem_replicate hc]
    decide
  rw [indentUnit] at h
  split at h
  · cases h
    exact Lists.forall_mem_of_all (by decide)
  · split at h
    · rw [columns] at h
      split at h
      · cases h
      · split at h
        · cases h
        · cases h
          exact space _
    · cases h

/-- A line is its spaces at the start and a rest that starts with none. -/
theorem exists_spaces_append (line : List Char) :
    ∃ (n : Nat) (rest : List Char), (∀ c ∈ rest.head?, c ≠ ' ') ∧
      line = List.replicate n ' ' ++ rest := by
  refine ⟨(line.takeWhile (· == ' ')).length, line.dropWhile (· == ' '), fun c hc => ?_, ?_⟩
  · exact beq_eq_false_iff_ne.1 (dropWhile_head? (p := (· == ' ')) line c hc)
  · have spaces : ∀ c ∈ line.takeWhile (· == ' '), c = ' ' := fun c hc =>
      beq_iff_eq.1 (List.mem_takeWhile_imp (p := (· == ' ')) hc)
    rw [← List.eq_replicate_of_mem spaces, List.takeWhile_append_dropWhile]

/-- Every two spaces at the start of a line become one indent. -/
theorem reindent_append (unit : List Char) (n : Nat) {rest : List Char}
    (h : ∀ c ∈ rest.head?, c ≠ ' ') : reindent unit (List.replicate n ' ' ++ rest) =
      (List.replicate (n / sourceIndent) unit).flatten ++ List.replicate (n % sourceIndent) ' '
        ++ rest := by
  have spaces : ∀ c ∈ List.replicate n ' ', (c == ' ') = true := fun c hc =>
    beq_iff_eq.2 (List.eq_of_mem_replicate hc)
  have width : (List.replicate n ' ' ++ rest).takeWhile (· == ' ') = List.replicate n ' ' := by
    cases rest with
    | nil => rw [List.append_nil, List.takeWhile_replicate, if_pos (beq_self_eq_true ' ')]
    | cons c rest => exact takeWhile_append_cons spaces (beq_eq_false_iff_ne.2 (h c rfl)) rest
  rw [reindent, width, List.length_replicate, List.drop_left' List.length_replicate]

section
variable {o : LayoutOptions} {unit line : List Char}
  (blank : ∀ c ∈ unit, isBlank c = true ∧ isLineBreak c = false)
include blank

/-- A line gets another indent of blanks. -/
theorem exists_reindent (line : List Char) : ∃ before after rest : List Char,
    reindent unit line = before ++ rest ∧ line = after ++ rest ∧
      (∀ c ∈ before, isBlank c = true ∧ isLineBreak c = false) ∧
      ∀ c ∈ after, isBlank c = true := by
  obtain ⟨n, rest, start, rfl⟩ := exists_spaces_append line
  refine ⟨_, List.replicate n ' ', rest, reindent_append unit n start, rfl, fun c hc => ?_,
    fun c hc => ?_⟩
  · rcases List.mem_append.1 hc with hc | hc
    · obtain ⟨u, hu, hc⟩ := List.mem_flatten.1 hc
      rw [List.eq_of_mem_replicate hu] at hc
      exact blank c hc
    · rw [List.eq_of_mem_replicate hc]
      decide
  · rw [List.eq_of_mem_replicate hc]
    rfl

/-- An indent makes no difference to what a line shows. -/
theorem trimChars_reindent (line : List Char) :
    trimChars (reindent unit line) = trimChars line := by
  obtain ⟨before, after, rest, eq, whole, new, old⟩ := exists_reindent blank line
  rw [eq, trimChars_append_left fun c hc => (new c hc).1, whole, trimChars_append_left old]

/-- An indent neither fills nor empties a line. -/
theorem isFilled_reindent (line : List Char) : isFilled (reindent unit line) = isFilled line := by
  obtain ⟨before, after, rest, eq, whole, new, old⟩ := exists_reindent blank line
  rw [eq, isFilled_append_left fun c hc => (new c hc).1, whole, isFilled_append_left old]

/-- An indent puts no line break into a line. -/
theorem isLineBreak_of_mem_reindent (solid : ∀ c ∈ line, isLineBreak c = false) :
    ∀ c ∈ reindent unit line, isLineBreak c = false := by
  obtain ⟨before, after, rest, eq, whole, new, old⟩ := exists_reindent blank line
  intro c hc
  rw [eq] at hc
  rcases List.mem_append.1 hc with hc | hc
  · exact (new c hc).2
  · refine solid c ?_
    rw [whole]
    exact List.mem_append_right _ hc

/-! ## The whole text -/

/-- An arranged line is the punctuated one, blanks at its ends apart. -/
theorem trimChars_arrangeLine (line : List Char) :
    trimChars (arrangeLine o unit line) = trimChars (punctuate o line) := by
  rw [arrangeLine]
  split
  next empty =>
    rw [List.isEmpty_iff.1 empty]
    rfl
  next => exact trimChars_reindent blank _

/-- To arrange a line neither fills nor empties it. -/
theorem isFilled_arrangeLine (line : List Char) :
    isFilled (arrangeLine o unit line) = isFilled line := by
  rw [arrangeLine]
  split
  next empty =>
    rw [List.isEmpty_iff.1 empty]
  next => rw [isFilled_reindent blank, isFilled_punctuate]

/-- To arrange a line puts no line break into it. -/
theorem isLineBreak_of_mem_arrangeLine (solid : ∀ c ∈ line, isLineBreak c = false) :
    ∀ c ∈ arrangeLine o unit line, isLineBreak c = false := by
  rw [arrangeLine]
  split
  next => exact fun c hc => absurd hc List.not_mem_nil
  next => exact isLineBreak_of_mem_reindent blank (isLineBreak_of_mem_punctuate solid)

/-- The lines of source text that is laid out. -/
theorem linesOf_arrange (code : String) :
    linesOf (arrange o unit code).toList = arrangeLines o unit code.toList := by
  rw [arrange, String.toList_ofList]
  refine linesOf_flatMap fun l hl => ?_
  obtain ⟨line, kept, rfl⟩ := List.mem_map.1 hl
  refine isLineBreak_of_mem_arrangeLine blank fun c hc => ?_
  have squeezed := ((isPrefix_dropEmptyEnd _).sublist.trans (squeeze_sublist _ _)).subset kept
  obtain ⟨raw, mem, rfl⟩ := List.mem_map.1 squeezed
  obtain ⟨b, -, whole⟩ := exists_dropEndWhile_append isBlank raw
  refine isLineBreak_eq_false_of_mem_linesOf _ raw mem c ?_
  rw [← whole]
  exact List.mem_append_left _ hc

/-- The lines of source text that are not blank are laid out one by one. -/
theorem filledLines_arrange (code : String) : filledLines (arrange o unit code).toList =
    (filledLines code.toList).map fun line => arrangeLine o unit (dropEndWhile isBlank line) := by
  have kept : isFilled ∘ arrangeLine o unit = isFilled := funext (isFilled_arrangeLine blank)
  have ended : isFilled ∘ dropEndWhile isBlank = isFilled := funext isFilled_dropEndWhile
  rw [filledLines, linesOf_arrange blank, arrangeLines, List.filter_map, kept,
    filter_dropEmptyEnd, filter_squeeze, List.filter_map, ended, List.map_map]
  rfl

/-- The lines of source text show the same once it is laid out, statements apart. -/
theorem contentLines_arrange (code : String) : contentLines (arrange o unit code) =
    (filledLines code.toList).map
      fun line => trimChars (punctuate o (dropEndWhile isBlank line)) := by
  rw [contentLines, filledLines_arrange blank, List.map_map]
  exact List.map_congr_left fun line _ => trimChars_arrangeLine blank _

end

/-- The lines of source text show the same once it is laid out, but for statements that are written
in another way. -/
theorem contentLines_write (o : LayoutOptions) {language code : String}
    (known : language ∈ languages) (filled : isBlankText code = false) :
    contentLines (write o language code) = shownLines o code := by
  have listed : languages.contains language = true := List.contains_iff_mem.2 known
  rw [write, isWanted, filled, listed, Bool.not_false, Bool.true_and, Bool.not_true, Bool.or_false]
  -- Where the layout is off, or its indent is refused, nothing is written in another way.
  cases enabled : o.enabled with
  | false =>
    refine (shownLines_eq_iff.2 fun line _ => ?_).symm
    rw [alters, isDone, enabled]
    rfl
  | true =>
    rw [if_neg (by decide)]
    cases unit : indentUnit o with
    | error fault =>
      refine (shownLines_eq_iff.2 fun line _ => ?_).symm
      rw [alters, isDone, unit, Except.isOk, Except.toBool, Bool.and_false]
      rfl
    | ok indent =>
      rw [contentLines_arrange (blank_of_mem_indentUnit unit), shownLines]
      refine List.map_congr_left fun line _ => ?_
      have done : isDone o = true := by
        rw [isDone, enabled, unit]
        rfl
      rw [shownLine, alters, done, Bool.true_and]
      split
      · rfl
      next same =>
        rw [Bool.not_eq_true, bne_eq_false_iff_eq] at same
        rw [same, trimChars_dropEndWhile]

end Componentry.Layout
