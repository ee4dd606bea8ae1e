import Componentry.Proofs.Layout.Arrangement
import Mathlib.Data.List.Chain

/-!
# Source text in normal form

Source text that is laid out is laid out already. The second time every line is read anew: a
quotation may be paired otherwise, an indent may have become a tab, and the empty lines are counted
once more. None of this changes a line: quotations that have got the chosen marks keep them, a
statement that has got its semicolon is found again without it, and a line that starts with a tab is
no statement. The semicolon is needed, and so is an indent of two columns or a tab.
-/

set_option autoImplicit false

namespace Componentry.Layout
open Componentry.Text

/-! ## Quotations -/

/-- A mark for quotes. -/
def isQuote (c : Char) : Bool := c == '\'' || c == '"'

/-- The mark that is chosen is a quote. -/
theorem isQuote_quoteMark (o : LayoutOptions) : isQuote (quoteMark o) = true := by
  rw [quoteMark]
  split <;> rfl

/-- Of three marks for quotes two are the same. -/
theorem eq_of_isQuote {c d e : Char} (hc : isQuote c = true) (hd : isQuote d = true)
    (he : isQuote e = true) (cd : c ≠ d) (ed : e ≠ d) : c = e := by
  simp only [isQuote, Bool.or_eq_true, beq_iff_eq] at hc hd he
  grind

/-- A text is read from its start: a character that is no quote, a quote that is not closed, or a
quotation. -/
theorem quoted_induction {motive : List Char → Prop} (nil : motive [])
    (plain : ∀ c rest, isQuote c = false → motive rest → motive (c :: rest))
    (opened : ∀ c rest, isQuote c = true → c ∉ rest → motive rest → motive (c :: rest))
    (closed : ∀ c inner after, isQuote c = true → c ∉ inner → motive after →
      motive (c :: (inner ++ c :: after))) : ∀ s, motive s
  | [] => nil
  | c :: rest => by
    cases quote : isQuote c with
    | false => exact plain c rest quote (quoted_induction nil plain opened closed rest)
    | true =>
      by_cases again : c ∈ rest
      · obtain ⟨inner, after, whole, fresh⟩ := List.eq_append_cons_of_mem again
        have shorter : after.length < rest.length + 1 := by
          rw [whole, List.length_append, List.length_cons]
          omega
        rw [whole]
        exact closed c inner after quote fresh (quoted_induction nil plain opened closed after)
      · exact opened c rest quote again (quoted_induction nil plain opened closed rest)
termination_by s => s.length

section
variable {mark c : Char} {rest inner : List Char}

/-- What is no quote stays. -/
theorem requote_plain (plain : isQuote c = false) (rest : List Char) :
    requote mark (c :: rest) = c :: requote mark rest := by
  rw [requote, ← isQuote, plain]
  exact if_neg Bool.false_ne_true

/-- A text without quotes stays before what is quoted anew. -/
theorem requote_append {s : List Char} (plain : ∀ c ∈ s, isQuote c = false) (t : List Char) :
    requote mark (s ++ t) = s ++ requote mark t := by
  induction s with
  | nil => rfl
  | cons c s ih =>
    rw [List.cons_append, requote_plain (plain c List.mem_cons_self),
      ih fun d hd => plain d (List.mem_cons_of_mem c hd), List.cons_append]

/-- A quote that is not closed stays. -/
theorem requote_opened (quote : isQuote c = true) (fresh : c ∉ rest) :
    requote mark (c :: rest) = c :: requote mark rest := by
  have none : rest.dropWhile (fun d => d != c) = [] := by
    rw [List.dropWhile_eq_nil_iff]
    intro d hd
    exact bne_iff_ne.2 fun same => fresh (same ▸ hd)
  rw [requote, ← isQuote, if_pos quote]
  dsimp only
  split
  · rfl
  next closed =>
    rw [none] at closed
    cases closed

/-- A quotation that is closed gets the chosen marks, unless it holds that mark. -/
theorem requote_closed (quote : isQuote c = true) (fresh : c ∉ inner) (after : List Char) :
    requote mark (c :: (inner ++ c :: after)) =
      (if mark ∈ inner then c :: (inner ++ c :: requote mark after)
        else mark :: (inner ++ mark :: requote mark after)) := by
  have others : ∀ d ∈ inner, (d != c) = true := fun d hd =>
    bne_iff_ne.2 fun same => fresh (same ▸ hd)
  have stop : (c != c) = false := bne_self_eq_false c
  rw [requote, ← isQuote, if_pos quote]
  dsimp only
  split
  next none =>
    rw [dropWhile_append_cons others stop] at none
    cases none
  next closed =>
    rw [dropWhile_append_cons others stop] at closed
    obtain ⟨-, rfl⟩ := List.cons.inj closed
    rw [takeWhile_append_cons others stop]
    by_cases held : mark ∈ inner
    · rw [if_pos (List.contains_iff_mem.2 held), if_pos held]
      simp
    · rw [if_neg (mt List.contains_iff_mem.1 held), if_neg held]
      simp

/-- A text with no more than one quote other than the chosen mark stays. -/
theorem requote_of_count_le {s : List Char} {other : Char} (hm : isQuote mark = true)
    (ho : isQuote other = true) (apart : other ≠ mark) (single : s.count other ≤ 1) :
    requote mark s = s := by
  induction s using quoted_induction with
  | nil => rw [requote]
  | plain c rest plain ih =>
    rw [requote_plain plain, ih]
    exact Nat.le_trans (List.count_le_count_cons ..) single
  | opened c rest quote fresh ih =>
    rw [requote_opened quote fresh, ih]
    exact Nat.le_trans (List.count_le_count_cons ..) single
  | closed c inner after quote fresh ih =>
    -- a quotation in the other quotes would hold two of them
    have same : c = mark := by
      by_contra different
      obtain rfl := eq_of_isQuote quote hm ho different apart
      rw [List.count_cons_self, List.count_append, List.count_cons_self] at single
      omega
    subst same
    have less : after.count other ≤ 1 := by
      refine Nat.le_trans (List.Sublist.count_le other ?_) single
      exact ((List.sublist_cons_self c after).trans (List.sublist_append_right inner _)).cons c
    rw [requote_closed quote fresh, if_neg fresh, ih less]

/-- Where the chosen mark is missing, all quotations get it, and at most one other quote is left. -/
theorem count_requote_le {s : List Char} {other : Char} (hm : isQuote mark = true)
    (ho : isQuote other = true) (apart : other ≠ mark) (missing : mark ∉ s) :
    (requote mark s).count other ≤ 1 := by
  induction s using quoted_induction with
  | nil =>
    rw [requote]
    exact Nat.zero_le 1
  | plain c rest plain ih =>
    have different : c ≠ other := by
      rintro rfl
      rw [ho] at plain
      cases plain
    rw [requote_plain plain, List.count_cons_of_ne different]
    exact ih fun mem => missing (List.mem_cons_of_mem c mem)
  | opened c rest quote fresh ih =>
    have different : c ≠ mark := fun same => missing (same ▸ List.mem_cons_self)
    obtain rfl := eq_of_isQuote quote hm ho different apart
    have none : c ∉ requote mark rest := fun mem =>
      (mem_requote rest mem).elim fresh different
    rw [requote_opened quote fresh, List.count_cons_self, List.count_eq_zero.2 none]
  -- A quotation gives both its quotes away; only one that is not closed keeps its own.
  | closed c inner after quote fresh ih =>
    have different : c ≠ mark := fun same => missing (same ▸ List.mem_cons_self)
    obtain rfl := eq_of_isQuote quote hm ho different apart
    simp only [List.mem_cons, List.mem_append, not_or] at missing
    rw [requote_closed quote fresh, if_neg missing.2.1, List.count_cons_of_ne apart.symm,
      List.count_append, List.count_cons_of_ne apart.symm, List.count_eq_zero.2 fresh, Nat.zero_add]
    exact ih missing.2.2.2

/-- Quotations that have the chosen marks keep them, though a quote that was not closed may have
come to open one of them. -/
theorem requote_requote (hm : isQuote mark = true) (s : List Char) :
    requote mark (requote mark s) = requote mark s := by
  induction s using quoted_induction with
  | nil => rw [requote, requote]
  | plain c rest plain ih => rw [requote_plain plain, requote_plain plain, ih]
  | opened c rest quote fresh ih =>
    rw [requote_opened quote fresh]
    by_cases again : c ∈ requote mark rest
    · -- the mark stands open before quotations that have got it: no two other quotes are left
      have same : c = mark := (mem_requote rest again).resolve_left fresh
      subst same
      obtain ⟨other, ho, apart⟩ : ∃ other, isQuote other = true ∧ other ≠ c := by
        rcases eq_or_ne c '"' with rfl | different
        · exact ⟨'\'', rfl, by decide⟩
        · exact ⟨'"', rfl, different.symm⟩
      refine requote_of_count_le quote ho apart ?_
      rw [List.count_cons_of_ne apart.symm]
      exact count_requote_le quote ho apart fresh
    · rw [requote_opened quote again, ih]
  | closed c inner after quote fresh ih =>
    rw [requote_closed quote fresh]
    split
    next held => rw [requote_closed quote fresh, if_pos held, ih]
    next free => rw [requote_closed hm free, if_neg free, ih]

/-- A quote that was not closed comes to open the quotation behind it. -/
example : requote '\'' "'a\"b\"".toList = "'a'b'".toList := by cbv

end

/-! ## Statements -/

section
variable {o : LayoutOptions} {mark : Char} {kept core : List Char}

/-- No quote goes on with a word. -/
theorem isWordChar_of_isQuote {c : Char} (h : isQuote c = true) : isWordChar c = false := by
  simp only [isQuote, Bool.or_eq_true, beq_iff_eq] at h
  rcases h with rfl | rfl <;> rfl

/-- A text that ends a word does so with other quotes. -/
theorem EndsWord.requote (hm : isQuote mark = true) (h : EndsWord kept) :
    EndsWord (Layout.requote mark kept) := by
  induction kept using quoted_induction with
  | nil => rwa [Layout.requote]
  | plain c rest plain ih =>
    rw [requote_plain plain]
    rintro d ⟨⟩
    exact h c rfl
  | opened c rest quote fresh ih =>
    rw [requote_opened quote fresh]
    rintro d ⟨⟩
    exact h c rfl
  | closed c inner after quote fresh ih =>
    rw [requote_closed quote fresh]
    split
    · rintro d ⟨⟩
      exact h c rfl
    · rintro d ⟨⟩
      exact isWordChar_of_isQuote hm

/-- A semicolon at the end is taken off. -/
theorem withoutSemicolon_concat (body : List Char) : withoutSemicolon (body ++ [';']) = body := by
  rw [withoutSemicolon, List.reverse_concat]
  exact List.reverse_reverse body

/-- An import is read again from its word, what stands behind it and a semicolon. -/
theorem importBody?_append (h : EndsWord kept) :
    importBody? ("import".toList ++ kept ++ [';']) = some ("import".toList ++ kept) := by
  rw [List.append_assoc, importBody?, restAfter?_append, ← List.append_assoc,
    withoutSemicolon_concat]
  cases kept with
  | nil => rfl
  | cons c rest =>
    rw [List.cons_append]
    dsimp only
    rw [if_neg (Bool.eq_false_iff.1 (h c rfl))]

/-- Spaces before a text are split off. -/
theorem splitSpaces_append {n k : Nat} (h : k ≤ n) (start : ∀ c ∈ core.head?, c ≠ ' ') :
    splitSpaces n (List.replicate k ' ' ++ core) = (List.replicate k ' ', core) := by
  induction k generalizing n with
  | zero =>
    rw [List.replicate_zero, List.nil_append, splitSpaces]
    rintro _ _ - rfl
    exact start ' ' rfl rfl
  | succ k ih =>
    obtain ⟨m, rfl⟩ := Nat.exists_eq_add_of_le' (Nat.lt_of_lt_of_le k.succ_pos h)
    rw [List.replicate_succ, List.cons_append, splitSpaces, ih (Nat.le_of_succ_le_succ h)]

/-- The end of a statement is read again from its indent, itself and a semicolon. -/
theorem IsStatement.statementBody? (h : IsStatement core) {n : Nat} (small : n ≤ sourceIndent) :
    Layout.statementBody? (List.replicate n ' ' ++ core ++ [';']) =
      some (List.replicate n ' ' ++ core) := by
  have start : ∀ c ∈ (core ++ [';']).head?, c ≠ ' ' := by
    obtain ⟨c, kept, rfl, visible⟩ := h.exists_cons
    rintro d ⟨⟩ rfl
    cases visible
  have parts : splitSpaces 2 (List.replicate n ' ' ++ (core ++ [';'])) =
      (List.replicate n ' ', core ++ [';']) := splitSpaces_append small start
  rw [List.append_assoc, Layout.statementBody?, parts]
  cases h with
  | bracket => rfl
  | exported name some_ letters =>
    have stop : isWordChar ';' = false := rfl
    have word : "export default ".toList = 'e' :: "xport default ".toList := rfl
    rw [List.append_assoc]
    dsimp only
    split
    next same =>
      rw [word] at same
      cases same
    next =>
      rw [restAfter?_append]
      dsimp only
      rw [takeWhile_append_cons letters stop, dropWhile_append_cons letters stop,
        List.isEmpty_eq_false_iff.2 some_, ← List.append_assoc]
      rfl

/-- The end of a statement is no import. -/
theorem IsStatement.importBody? (h : IsStatement core) (rest : List Char) :
    ∀ n : Nat, Layout.importBody? (List.replicate n ' ' ++ core ++ rest) = none
  | n + 1 => importBody?_of_start (by decide) _
  | 0 => by
    cases h with
    | bracket => exact importBody?_of_start (by decide) _
    | exported name => exact importBody?_of_start (by decide) _

/-- A line with the chosen quotes and semicolons stays, as long as a semicolon is chosen. -/
theorem punctuate_punctuate (semi : o.semicolons = true) (line : List Char) :
    punctuate o (punctuate o line) = punctuate o line := by
  have ending : statementEnd o = [';'] := if_pos semi
  have mark := isQuote_quoteMark o
  cases import_ : importBody? line with
  | some body =>
    obtain ⟨kept, rest, ends, rfl, -⟩ := exists_importBody import_
    have word : requote (quoteMark o) ("import".toList ++ kept) =
        "import".toList ++ requote (quoteMark o) kept :=
      requote_append (Lists.forall_mem_of_all (by decide)) kept
    have written : punctuate o line = "import".toList ++ requote (quoteMark o) kept ++ [';'] := by
      rw [punctuate, import_, ending, ← word]
    rw [written, punctuate, importBody?_append (ends.requote mark), ending]
    dsimp only
    rw [← word, requote_requote mark]
  | none =>
    cases end_ : statementBody? line with
    | some body =>
      obtain ⟨n, core, rest, small, statement, rfl, -⟩ := exists_statementBody end_
      have written : punctuate o line = List.replicate n ' ' ++ core ++ [';'] := by
        rw [punctuate, import_, end_, ending]
      rw [written, punctuate, statement.importBody? [';'] n, statement.statementBody? small, ending]
    | none =>
      have stays : punctuate o line = line := by
        rw [punctuate, import_, end_]
      rw [stays, stays]

end

/-! ## Lines -/

section
variable {o : LayoutOptions} {unit : List Char}

/-- A line is punctuated, then indented anew. -/
theorem arrangeLine_eq (o : LayoutOptions) (unit line : List Char) :
    arrangeLine o unit line = reindent unit (punctuate o line) := by
  cases line with
  | nil =>
    have stays : punctuate o [] = [] := by
      rw [punctuate]
      rfl
    rw [stays]
    rfl
  | cons c rest => rfl

/-- Indents of two columns stay. -/
theorem reindent_spaces (line : List Char) : reindent [' ', ' '] line = line := by
  obtain ⟨n, rest, start, rfl⟩ := exists_spaces_append line
  have unit : [' ', ' '] = List.replicate sourceIndent ' ' := rfl
  rw [reindent_append _ n start, unit, List.flatten_replicate_replicate, ← List.replicate_add,
    Nat.div_add_mod']

/-- A line with indents of tabs has none to change, or starts with one. -/
theorem reindent_tab (line : List Char) :
    reindent ['\t'] line = line ∨ ∃ rest, reindent ['\t'] line = '\t' :: rest := by
  obtain ⟨n, rest, start, rfl⟩ := exists_spaces_append line
  rw [reindent_append _ n start]
  rcases Nat.lt_or_ge n sourceIndent with small | deep
  · left
    rw [Nat.div_eq_of_lt small, Nat.mod_eq_of_lt small]
    rfl
  · right
    obtain ⟨k, eq⟩ := Nat.exists_eq_add_of_le' (Nat.div_pos deep (by decide))
    rw [eq]
    exact ⟨_, rfl⟩

/-- A line that is laid out stays. -/
theorem arrangeLine_arrangeLine (semi : o.semicolons = true)
    (kept : unit = ['\t'] ∨ unit = [' ', ' ']) (line : List Char) :
    arrangeLine o unit (arrangeLine o unit line) = arrangeLine o unit line := by
  simp only [arrangeLine_eq]
  rcases kept with rfl | rfl
  · rcases reindent_tab (punctuate o line) with same | ⟨rest, tab⟩
    · rw [same, punctuate_punctuate semi, same]
    · have start : ∀ c ∈ ('\t' :: rest).head?, c ≠ ' ' := by
        rintro c ⟨⟩
        decide
      rw [tab, punctuate_of_start (by decide)]
      exact reindent_append _ 0 start
  · rw [reindent_spaces, reindent_spaces, punctuate_punctuate semi]

/-- No blank stands at the end of a line. -/
def IsEnded (line : List Char) : Prop := ∀ c ∈ line.getLast?, isBlank c = false

/-- A line without a blank at its end gets none. -/
theorem IsEnded.arrangeLine (semi : o.semicolons = true) {line : List Char} (h : IsEnded line) :
    IsEnded (Layout.arrangeLine o unit line) := by
  have written : IsEnded (punctuate o line) := by
    rcases punctuate_cases o line with stays | anew
    · rwa [stays]
    · generalize punctuate o line = written at anew
      cases anew with
      | intro n c kept written rest =>
        rw [statementEnd, if_pos semi]
        intro d hd
        rw [List.getLast?_concat] at hd
        cases hd
        rfl
  -- A new indent touches the end of a line only if there is nothing behind the spaces.
  rw [arrangeLine_eq]
  obtain ⟨n, rest, start, eq⟩ := exists_spaces_append (punctuate o line)
  rw [eq, IsEnded] at written
  rw [eq, reindent_append unit n start, IsEnded]
  cases rest with
  | nil =>
    cases n with
    | zero => rintro c ⟨⟩
    | succ n =>
      rw [List.append_nil, List.replicate_succ', List.getLast?_concat] at written
      exact absurd (written ' ' rfl) (by decide)
  | cons c rest =>
    rw [List.getLast?_append_of_ne_nil _ (List.cons_ne_nil c rest)] at written ⊢
    exact written

/-- A line without a blank at its end is empty or not blank. -/
theorem IsEnded.isFilled {line : List Char} (h : IsEnded line) (some_ : line ≠ []) :
    isFilled line = true :=
  isFilled_iff.2 ⟨line.getLast some_, List.getLast_mem some_,
    h _ (List.getLast?_eq_some_getLast some_)⟩

end

/-! ## Empty lines -/

/-- No line is blank at the start or at the end, and of two side by side one is not blank. -/
structure IsSqueezed (lines : List (List Char)) : Prop where
  first : ∀ line ∈ lines.head?, isFilled line = true
  last : ∀ line ∈ lines.getLast?, isFilled line = true
  between : lines.IsChain fun line next => isFilled line = true ∨ isFilled next = true

section
variable {lines : List (List Char)}

/-- No run of empty lines is longer than one, and none is left where one is passed over. -/
theorem isChain_squeeze (skip : Bool) (ended : ∀ line ∈ lines, line ≠ [] → isFilled line = true) :
    (squeeze skip lines).IsChain (fun line next => isFilled line = true ∨ isFilled next = true) ∧
      (skip = true → ∀ line ∈ (squeeze skip lines).head?, isFilled line = true) := by
  fun_induction squeeze skip lines with
  | case1 => exact ⟨.nil, fun _ line hl => by cases hl⟩
  | case2 line rest empty ih => exact ih fun l hl => ended l (List.mem_cons_of_mem _ hl)
  | case3 skip line rest empty some_ ih =>
    obtain ⟨chain, first⟩ := ih fun l hl => ended l (List.mem_cons_of_mem _ hl)
    exact ⟨List.isChain_cons.2 ⟨fun next hn => .inr (first rfl next hn), chain⟩,
      fun passed => absurd passed some_⟩
  | case4 skip line rest some_ ih =>
    obtain ⟨chain, -⟩ := ih fun l hl => ended l (List.mem_cons_of_mem _ hl)
    have filled := ended line List.mem_cons_self (mt List.isEmpty_iff.2 some_)
    refine ⟨List.isChain_cons.2 ⟨fun next hn => .inl filled, chain⟩, fun _ l hl => ?_⟩
    cases hl
    exact filled

/-- The lines that are kept are squeezed. -/
theorem isSqueezed_squeeze (ended : ∀ line ∈ lines, line ≠ [] → isFilled line = true) :
    IsSqueezed (dropEmptyEnd (squeeze true lines)) := by
  obtain ⟨chain, first⟩ := isChain_squeeze true ended
  obtain ⟨rest, whole⟩ := isPrefix_dropEmptyEnd (squeeze true lines)
  rw [← whole] at chain first
  refine ⟨fun line hl => first rfl line ?_, fun line hl => ?_, chain.left_of_append⟩
  · rw [List.head?_append, Option.mem_def.1 hl]
    rfl
  · have mem : line ∈ lines := by
      refine (squeeze_sublist true lines).subset ?_
      rw [← whole]
      exact List.mem_append_left _ (List.mem_of_mem_getLast? hl)
    rw [dropEmptyEnd, List.getLast?_reverse] at hl
    have some_ : line.isEmpty = false := dropWhile_head? _ line hl
    exact ended line mem (List.isEmpty_eq_false_iff.1 some_)

/-- Lines without two empty ones in a row stay. -/
theorem squeeze_of_isChain (skip : Bool)
    (chain : lines.IsChain fun line next => isFilled line = true ∨ isFilled next = true)
    (first : skip = true → ∀ line ∈ lines.head?, isFilled line = true) :
    squeeze skip lines = lines := by
  fun_induction squeeze skip lines with
  | case1 => rfl
  | case2 line rest empty =>
    have filled := first rfl line rfl
    rw [List.isEmpty_iff.1 empty] at filled
    cases filled
  | case3 skip line rest empty some_ ih =>
    obtain ⟨beside, behind⟩ := List.isChain_cons.1 chain
    obtain rfl := List.isEmpty_iff.1 empty
    rw [ih behind fun _ next hn => (beside next hn).resolve_left Bool.false_ne_true]
  | case4 skip line rest some_ ih =>
    rw [ih (List.isChain_cons.1 chain).2 fun passed => absurd passed Bool.false_ne_true]

/-- Lines that do not end with an empty one stay. -/
theorem dropEmptyEnd_of_getLast? (h : ∀ line ∈ lines.getLast?, isFilled line = true) :
    dropEmptyEnd lines = lines := by
  rw [dropEmptyEnd, dropWhile_of_head?, List.reverse_reverse]
  rw [List.head?_reverse]
  intro line hl
  rw [List.isEmpty_eq_false_iff]
  rintro rfl
  cases h [] hl

/-- Squeezed lines are all kept. -/
theorem IsSqueezed.squeeze_eq (h : IsSqueezed lines) :
    dropEmptyEnd (squeeze true lines) = lines := by
  rw [squeeze_of_isChain true h.between fun _ => h.first, dropEmptyEnd_of_getLast? h.last]

/-- Lines stay squeezed under a change that fills none and empties none. -/
theorem IsSqueezed.map {f : List Char → List Char}
    (same : ∀ line, isFilled (f line) = isFilled line) (h : IsSqueezed lines) :
    IsSqueezed (lines.map f) := by
  refine ⟨fun line hl => ?_, fun line hl => ?_, ?_⟩
  · rw [List.head?_map] at hl
    obtain ⟨l, mem, rfl⟩ := Option.map_eq_some_iff.1 hl
    rw [same]
    exact h.first l mem
  · rw [List.getLast?_map] at hl
    obtain ⟨l, mem, rfl⟩ := Option.map_eq_some_iff.1 hl
    rw [same]
    exact h.last l mem
  · rw [List.isChain_map]
    simpa only [same] using h.between

/-- Squeezed lines end with one line feed, behind something that is no blank. -/
theorem IsSqueezed.exists_final (h : IsSqueezed lines) (some_ : lines ≠ [])
    (ended : ∀ line ∈ lines, IsEnded line) : ∃ before c,
      (lines.flatMap fun line => line ++ ['\n']) = before ++ [c, '\n'] ∧ isBlank c = false := by
  obtain ⟨before, last, rfl⟩ := (List.eq_nil_or_concat lines).resolve_left some_
  rw [List.concat_eq_append] at h ended ⊢
  have filled := h.last last List.getLast?_concat
  obtain ⟨start, c, rfl⟩ := (List.eq_nil_or_concat last).resolve_left fun none_ => by
    rw [none_] at filled
    cases filled
  rw [List.concat_eq_append] at ended ⊢
  refine ⟨before.flatMap (fun line => line ++ ['\n']) ++ start, c, ?_, ?_⟩
  · rw [List.flatMap_append, List.flatMap_singleton, List.append_assoc, List.append_assoc,
      List.singleton_append]
  · exact ended _ (List.mem_append_right _ List.mem_cons_self) c List.getLast?_concat

end

/-! ## The whole text -/

/-- Source text in normal form: every line is ended by a line feed and by nothing else, what stands
before the last one is no blank, no line ends with a blank, and blank lines only stand one by one
between others. -/
structure IsNormal (code : String) : Prop where
  feeds : code.toList = (linesOf code.toList).flatMap fun line => line ++ ['\n']
  final : ∃ before c, code.toList = before ++ [c, '\n'] ∧ isBlank c = false
  ended : ∀ line ∈ linesOf code.toList, IsEnded line
  squeezed : IsSqueezed (linesOf code.toList)

/-- A written line stands for a line: blanks at the ends apart it is that line, or that line written
anew as a statement. -/
def StandsFor (o : LayoutOptions) (line written : List Char) : Prop :=
  trimChars written = trimChars line ∨
    ∃ anew, IsPunctuated o (dropEndWhile isBlank line) anew ∧ trimChars written = trimChars anew

/-- An indent of tabs, or one of two columns. -/
theorem indentUnit_cases {o : LayoutOptions}
    (kept : o.usesTabs = true ∨ o.indentSize = .columns 2) :
    ∃ unit, indentUnit o = .ok unit ∧ (unit = ['\t'] ∨ unit = [' ', ' ']) := by
  rw [indentUnit]
  cases tabs : o.usesTabs with
  | true => exact ⟨_, rfl, .inl rfl⟩
  | false =>
    have width := kept.resolve_left (by rw [tabs]; exact Bool.false_ne_true)
    rw [if_neg Bool.false_ne_true, width]
    exact ⟨_, rfl, .inr rfl⟩

section
variable {o : LayoutOptions} {unit : List Char}

/-- No arranged line has a blank at its end. -/
theorem isEnded_of_mem_arrangeLines (semi : o.semicolons = true) {code line : List Char}
    (h : line ∈ arrangeLines o unit code) : IsEnded line := by
  obtain ⟨kept, mem, rfl⟩ := List.mem_map.1 h
  obtain ⟨raw, -, rfl⟩ := List.mem_map.1
    (((isPrefix_dropEmptyEnd _).sublist.trans (squeeze_sublist _ _)).subset mem)
  exact IsEnded.arrangeLine semi (dropEndWhile_getLast? raw)

/-- Arranged lines have no two empty ones in a row and none at their ends. -/
theorem isSqueezed_arrangeLines (blank : ∀ c ∈ unit, isBlank c = true ∧ isLineBreak c = false)
    (code : List Char) : IsSqueezed (arrangeLines o unit code) := by
  refine (isSqueezed_squeeze fun line hl some_ => ?_).map (isFilled_arrangeLine blank)
  obtain ⟨raw, -, rfl⟩ := List.mem_map.1 hl
  exact IsEnded.isFilled (dropEndWhile_getLast? raw) some_

/-- Source text that is laid out stays when it is laid out again. -/
theorem arrange_arrange (semi : o.semicolons = true) (kept : unit = ['\t'] ∨ unit = [' ', ' '])
    (blank : ∀ c ∈ unit, isBlank c = true ∧ isLineBreak c = false) (code : String) :
    arrange o unit (arrange o unit code) = arrange o unit code := by
  have stays :
      arrangeLines o unit (arrange o unit code).toList = arrangeLines o unit code.toList := by
    have ended : (arrangeLines o unit code.toList).map (dropEndWhile isBlank) =
        arrangeLines o unit code.toList := by
      refine (List.map_congr_left fun line hl => ?_).trans (List.map_id _)
      exact dropEndWhile_of_getLast? (isEnded_of_mem_arrangeLines semi hl)
    have same : arrangeLine o unit ∘ arrangeLine o unit = arrangeLine o unit :=
      funext (arrangeLine_arrangeLine semi kept)
    rw [arrangeLines, linesOf_arrange blank, ended, (isSqueezed_arrangeLines blank _).squeeze_eq,
      arrangeLines, List.map_map, same]
  rw [arrange, stays, arrange]

/-- A text that is not blank has lines. -/
theorem arrangeLines_ne_nil (blank : ∀ c ∈ unit, isBlank c = true ∧ isLineBreak c = false)
    {code : String} (filled : isBlankText code = false) : arrangeLines o unit code.toList ≠ [] := by
  intro none_
  have shows : isFilled code.toList = true := by
    rw [isFilled, ← isBlankText, filled]
    rfl
  have none_left := filledLines_arrange (o := o) blank code
  rw [filledLines, linesOf_arrange blank, none_] at none_left
  exact filledLines_ne_nil shows (List.map_eq_nil_iff.1 none_left.symm)

/-- Source text that is laid out is in normal form, unless it is blank. -/
theorem isNormal_arrange (semi : o.semicolons = true)
    (blank : ∀ c ∈ unit, isBlank c = true ∧ isLineBreak c = false) {code : String}
    (filled : isBlankText code = false) : IsNormal (arrange o unit code) := by
  have lines := linesOf_arrange (o := o) blank code
  have feeds : (arrange o unit code).toList =
      (arrangeLines o unit code.toList).flatMap fun line => line ++ ['\n'] := String.toList_ofList
  have squeezed := isSqueezed_arrangeLines (o := o) blank code.toList
  have ended : ∀ line ∈ arrangeLines o unit code.toList, IsEnded line := fun line hl =>
    isEnded_of_mem_arrangeLines semi hl
  refine ⟨?_, ?_, ?_, ?_⟩
  · rw [lines, feeds]
  · rw [feeds]
    exact squeezed.exists_final (arrangeLines_ne_nil blank filled) ended
  · rwa [lines]
  · rwa [lines]

end

/-- Nothing is said about a language whose source text is laid out, where there is an indent. -/
theorem report_eq_nil {o : LayoutOptions} {language : String} {unit : List Char}
    (known : language ∈ languages) (indent : indentUnit o = .ok unit) (code : String) :
    report o language code = [] := by
  rw [report, List.contains_iff_mem.2 known, indent]
  split
  · rfl
  · rfl

/-- Source text that is laid out is laid out already, where a semicolon ends statements and indents
are tabs or keep their two columns. It is in normal form if it was to be laid out and is not blank,
and its lines that are not blank stand for those there were, one by one. -/
theorem format_formatted {o : LayoutOptions} {language : String} (known : language ∈ languages)
    (semi : o.semicolons = true) (kept : o.usesTabs = true ∨ o.indentSize = .columns 2)
    (code : String) : ∃ laid, format o language code = ⟨[], .ok laid⟩ ∧
      format o language laid = ⟨[], .ok laid⟩ ∧ check o language laid = ⟨[], .ok true⟩ ∧
      (isBlankText code = false → o.enabled = true → IsNormal laid ∧
        List.Forall₂ (StandsFor o) (filledLines code.toList) (filledLines laid.toList)) := by
  obtain ⟨unit, indent, kind⟩ := indentUnit_cases kept
  have blank := blank_of_mem_indentUnit indent
  have silent := report_eq_nil known indent
  have written (code : String) :
      write o language code = if isWanted o code then arrange o unit code else code := by
    rw [write, List.contains_iff_mem.2 known, indent]
    cases isWanted o code <;> rfl
  -- To arrange twice is to arrange once, and what is not wanted is left as it is.
  have again : write o language (write o language code) = write o language code := by
    rw [written code]
    split
    next wanted =>
      rw [written, arrange_arrange semi kind blank, ite_self]
    next unwanted => rw [written, if_neg unwanted]
  refine ⟨write o language code, ?_, ?_, ?_, fun filled enabled => ?_⟩
  · rw [format, silent]
  · rw [format, silent, again]
  · rw [check, silent, again, beq_self_eq_true]
  · have wanted : isWanted o code = true := by
      rw [isWanted, filled, enabled]
      rfl
    rw [written, if_pos wanted]
    refine ⟨isNormal_arrange semi blank filled, ?_⟩
    rw [filledLines_arrange blank, List.forall₂_map_right_iff, List.forall₂_same]
    intro line _
    rw [StandsFor, trimChars_arrangeLine blank]
    rcases punctuate_cases o (dropEndWhile isBlank line) with stays | anew
    · rw [stays, trimChars_dropEndWhile]
      exact .inl rfl
    · exact .inr ⟨_, anew, rfl⟩

/-- Blank lines, odd quotes, a tab and ends of lines of several kinds. -/
theorem format_formatted_oddQuotes :
    let o : LayoutOptions := { usesTabs := true }
    let code := "\n\nimport \"a' 'b\" \"c;\r\n    x \n\t\n \n  )\u2028export default A ;\n\n"
    ∃ laid, format o "jsx" code = ⟨[], .ok laid⟩ ∧ format o "jsx" laid = ⟨[], .ok laid⟩ ∧
      check o "jsx" laid = ⟨[], .ok true⟩ ∧ IsNormal laid ∧
      List.Forall₂ (StandsFor o) (filledLines code.toList) (filledLines laid.toList) := by
  intro o code
  have known : "jsx" ∈ languages := by decide
  obtain ⟨laid, first, again, checked, normal⟩ :=
    format_formatted (o := o) known rfl (.inl rfl) code
  exact ⟨laid, first, again, checked, normal (by decide) rfl⟩

end Componentry.Layout
