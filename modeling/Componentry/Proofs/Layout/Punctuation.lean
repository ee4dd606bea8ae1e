import Componentry.Layout
import Componentry.Proofs.Lists
import Componentry.Proofs.Text.Lines

/-!
# Punctuated lines

A line with the chosen quotes and semicolons is the line itself, unless it is an import or the end
of a statement. Such a line is indented by two columns at most, and is written anew one character
for one, quotation marks apart, up to its semicolon. So it is no more blank than before, no line
more than before, and shows the same only if it is the same.
-/

set_option autoImplicit false

namespace Componentry.Layout
open Componentry.Text

/-- A line is written anew as a statement: an indent of two columns at most, a first character that
stays, as many characters as there were, and the chosen ending in place of the rest. -/
inductive IsPunctuated (o : LayoutOptions) : List Char → List Char → Prop where
  | intro (n : Nat) (c : Char) (kept written rest : List Char) :
      n ≤ sourceIndent → isBlank c = false → written.length = kept.length →
      (∀ d ∈ written, d ∈ kept ∨ d = quoteMark o) →
      IsPunctuated o (List.replicate n ' ' ++ c :: kept ++ rest)
        (List.replicate n ' ' ++ c :: written ++ statementEnd o)

/-! ## Imports -/

/-- What a line loses with its semicolon stood at its end. -/
theorem exists_withoutSemicolon_append (line : List Char) :
    ∃ rest : List Char, rest.length ≤ 1 ∧ withoutSemicolon line ++ rest = line := by
  rw [withoutSemicolon]
  split
  next before eq =>
    refine ⟨[';'], Nat.le_refl 1, ?_⟩
    rw [← List.reverse_cons, ← eq, List.reverse_reverse]
  next => exact ⟨[], Nat.zero_le 1, List.append_nil line⟩

/-- What stands behind the word of an import does not go on with the word. -/
def EndsWord (kept : List Char) : Prop := ∀ c ∈ kept.head?, isWordChar c = false

/-- An import begins with its word. -/
theorem exists_importBody {line body : List Char} (h : importBody? line = some body) :
    ∃ kept rest, EndsWord kept ∧ body = "import".toList ++ kept ∧ body ++ rest = line := by
  rw [importBody?] at h
  split at h
  next => cases h
  next whole =>
    obtain rfl := Option.some.inj h
    refine ⟨[], [], ?_, (append_of_restAfter? whole).symm, List.append_nil _⟩
    rintro c ⟨⟩
  next c tail whole =>
    split at h
    · cases h
    next ends =>
      obtain rfl := Option.some.inj h
      obtain ⟨rest, short, eq⟩ := exists_withoutSemicolon_append line
      have word := append_of_restAfter? whole
      rw [← eq] at word
      rcases List.append_eq_append_iff.1 word with ⟨kept, body, behind⟩ | ⟨lost, body, long⟩
      · refine ⟨kept, rest, ?_, body, eq⟩
        cases kept with
        | nil => rintro d ⟨⟩
        | cons e kept =>
          obtain ⟨rfl, -⟩ := List.cons.inj behind
          rintro d ⟨⟩
          exact Bool.eq_false_iff.2 ends
      · -- no more than the semicolon is lost, and a character stands behind the word
        rw [long, List.length_append, List.length_cons] at short
        obtain rfl : lost = [] := List.length_eq_zero_iff.1 (by omega)
        refine ⟨[], rest, ?_, ?_, eq⟩
        · rintro d ⟨⟩
        · rw [body, List.append_nil, List.append_nil]

/-- A quotation that is closed, with the text behind it. -/
theorem takeWhile_append_of_dropWhile {c d : Char} {rest tail : List Char}
    (h : rest.dropWhile (fun e => e != c) = d :: tail) :
    rest.takeWhile (fun e => e != c) ++ c :: tail = rest := by
  have mark : (d != c) = false := dropWhile_head? rest d (by rw [h]; rfl)
  have same : d = c := bne_eq_false_iff_eq.1 mark
  rw [← same, ← h, same, List.takeWhile_append_dropWhile]

/-- Other quotes take no more room. -/
theorem length_requote (mark : Char) (s : List Char) : (requote mark s).length = s.length := by
  fun_induction requote mark s with
  | case1 => rfl
  | case2 c rest quote open_ ih => rw [List.length_cons, ih, List.length_cons]
  | case3 c rest quote inner d tail closed ih =>
    have whole := congrArg List.length (takeWhile_append_of_dropWhile closed)
    simp only [List.length_append, List.length_cons] at whole
    rw [List.length_append, ih, List.length_cons, ← whole]
    split <;> simp only [inner, List.length_cons, List.length_append, List.length_nil] <;> omega
  | case4 c rest plain ih => rw [List.length_cons, ih, List.length_cons]

/-- A quotation gets no other characters than its marks. -/
theorem mem_requote {mark e : Char} (s : List Char) (h : e ∈ requote mark s) :
    e ∈ s ∨ e = mark := by
  fun_induction requote mark s with
  | case1 => exact .inl h
  | case2 c rest quote open_ ih =>
    rcases List.mem_cons.1 h with rfl | h
    · exact .inl List.mem_cons_self
    · exact (ih h).imp_left (List.mem_cons_of_mem c)
  -- A closed quotation: its quotes are kept or changed for the mark, the inside stays.
  | case3 c rest quote inner d tail closed ih =>
    have within {x : Char} (hx : x ∈ inner ++ c :: tail) : x ∈ c :: rest := by
      rw [takeWhile_append_of_dropWhile closed] at hx
      exact List.mem_cons_of_mem c hx
    rcases List.mem_append.1 h with quoted | behind
    · split at quoted
      · rcases List.mem_append.1 quoted with start | stop
        · rcases List.mem_cons.1 start with rfl | hx
          · exact .inl List.mem_cons_self
          · exact .inl (within (List.mem_append_left _ hx))
        · obtain rfl := List.mem_singleton.1 stop
          exact .inl List.mem_cons_self
      · rcases List.mem_append.1 quoted with start | stop
        · rcases List.mem_cons.1 start with rfl | hx
          · exact .inr rfl
          · exact .inl (within (List.mem_append_left _ hx))
        · exact .inr (List.mem_singleton.1 stop)
    · refine (ih behind).imp_left fun hx => ?_
      exact within (List.mem_append_right _ (List.mem_cons_of_mem c hx))
  | case4 c rest plain ih =>
    rcases List.mem_cons.1 h with rfl | h
    · exact .inl List.mem_cons_self
    · exact (ih h).imp_left (List.mem_cons_of_mem c)

/-! ## Ends of statements -/

/-- The spaces that are taken from the start of a line. -/
theorem exists_splitSpaces (n : Nat) (line : List Char) : ∃ k ≤ n,
    (splitSpaces n line).1 = List.replicate k ' ' ∧
      (splitSpaces n line).1 ++ (splitSpaces n line).2 = line := by
  fun_induction splitSpaces n line with
  | case1 n rest spaces tail eq ih =>
    rw [eq] at ih
    obtain ⟨k, small, same, whole⟩ := ih
    exact ⟨k + 1, Nat.succ_le_succ small, congrArg _ same, congrArg _ whole⟩
  | case2 n line => exact ⟨0, Nat.zero_le n, rfl, rfl⟩

/-- What ends a statement: a closing bracket, or a default export of a name. -/
inductive IsStatement : List Char → Prop where
  | bracket : IsStatement [')']
  | exported (name : List Char) : name ≠ [] → (∀ c ∈ name, isWordChar c = true) →
      IsStatement ("export default ".toList ++ name)

/-- The end of a statement starts visibly. -/
theorem IsStatement.exists_cons {core : List Char} (h : IsStatement core) :
    ∃ c kept, core = c :: kept ∧ isBlank c = false := by
  cases h with
  | bracket => exact ⟨')', [], rfl, rfl⟩
  | exported name => exact ⟨'e', "xport default ".toList ++ name, rfl, rfl⟩

/-- The end of a statement stands behind two spaces at most. -/
theorem exists_statementBody {line body : List Char} (h : statementBody? line = some body) :
    ∃ n core rest, n ≤ sourceIndent ∧ IsStatement core ∧ body = List.replicate n ' ' ++ core ∧
      body ++ rest = line := by
  obtain ⟨n, small, spaces, whole⟩ := exists_splitSpaces 2 line
  rw [statementBody?] at h
  generalize splitSpaces 2 line = parts at h spaces whole
  obtain ⟨indent, tail⟩ := parts
  obtain rfl : indent = List.replicate n ' ' := spaces
  dsimp only at h whole
  -- A bracket that closes the return, or the word of an export with a name behind it.
  split at h
  next rest =>
    split at h
    · obtain rfl := Option.some.inj h
      exact ⟨n, [')'], rest, small, .bracket, rfl, by rw [List.append_assoc]; exact whole⟩
    · cases h
  next =>
    split at h
    next => cases h
    next rest export_ =>
      split at h
      next ends =>
        obtain rfl := Option.some.inj h
        rw [Bool.and_eq_true, Bool.not_eq_true', List.isEmpty_eq_false_iff] at ends
        have word := append_of_restAfter? export_
        refine ⟨n, _, rest.dropWhile isWordChar, small,
          .exported _ ends.1 fun c hc => List.mem_takeWhile_imp hc, List.append_assoc .., ?_⟩
        rw [List.append_assoc, List.append_assoc, List.takeWhile_append_dropWhile, word]
        exact whole
      · cases h

/-! ## Any line -/

/-- An import starts with the first letter of its word. -/
theorem importBody?_of_start {c : Char} (other : c ≠ 'i') (rest : List Char) :
    importBody? (c :: rest) = none := by
  have word : "import".toList = 'i' :: "mport".toList := rfl
  rw [importBody?, word, restAfter?, if_neg (by simpa using other.symm)]

/-- A statement starts with an indent, an import, a bracket or an export. -/
theorem punctuate_of_start {o : LayoutOptions} {c : Char} (h : c ∉ [' ', 'i', ')', 'e'])
    (rest : List Char) : punctuate o (c :: rest) = c :: rest := by
  simp only [List.mem_cons, List.not_mem_nil, or_false, not_or] at h
  obtain ⟨space, i, bracket, e⟩ := h
  have noEnd : statementBody? (c :: rest) = none := by
    have word : "export default ".toList = 'e' :: "xport default ".toList := rfl
    have unindented : splitSpaces 2 (c :: rest) = ([], c :: rest) := by
      rw [splitSpaces]
      rintro _ _ - same
      exact space (List.cons.inj same).1
    rw [statementBody?, unindented, word]
    dsimp only
    split
    next same => exact absurd (List.cons.inj same).1 bracket
    next => rw [restAfter?, if_neg (by simpa using Ne.symm e)]
  rw [punctuate, importBody?_of_start i, noEnd]

/-- A line is written anew as a statement or stays. -/
theorem punctuate_cases (o : LayoutOptions) (line : List Char) :
    punctuate o line = line ∨ IsPunctuated o line (punctuate o line) := by
  rw [punctuate]
  split
  next body import_ =>
    obtain ⟨kept, rest, -, eq, whole⟩ := exists_importBody import_
    have spelled : "import".toList ++ kept = 'i' :: ("mport".toList ++ kept) := rfl
    have start : requote (quoteMark o) ('i' :: ("mport".toList ++ kept)) =
        'i' :: requote (quoteMark o) ("mport".toList ++ kept) := by
      rw [requote, if_neg (by decide)]
    rw [← whole, eq, spelled, start]
    exact .inr (.intro 0 'i' _ _ rest (Nat.zero_le _) rfl (length_requote _ _)
      fun d hd => mem_requote _ hd)
  next =>
    split
    next body end_ =>
      obtain ⟨n, core, rest, small, statement, eq, whole⟩ := exists_statementBody end_
      obtain ⟨c, kept, rfl, visible⟩ := statement.exists_cons
      rw [← whole, eq]
      exact .inr (.intro n c kept kept rest small visible rfl fun d hd => .inl hd)
    next => exact .inl rfl

variable {o : LayoutOptions} {line written : List Char}

/-- A line that is written anew is not blank, and not blank anew. -/
theorem IsPunctuated.isFilled (h : IsPunctuated o line written) :
    isFilled written = true ∧ isFilled line = true := by
  cases h with
  | intro n c kept written rest small visible =>
    refine ⟨isFilled_iff.2 ⟨c, ?_, visible⟩, isFilled_iff.2 ⟨c, ?_, visible⟩⟩
    all_goals exact List.mem_append_left _ (List.mem_append_right _ List.mem_cons_self)

/-- Punctuation neither fills nor empties a line. -/
theorem isFilled_punctuate (o : LayoutOptions) (line : List Char) :
    isFilled (punctuate o line) = isFilled line := by
  rcases punctuate_cases o line with same | anew
  · rw [same]
  · rw [anew.isFilled.1, anew.isFilled.2]

/-- No end of a line comes in with quotes and semicolons. -/
theorem isLineBreak_of_mem_punctuate (solid : ∀ c ∈ line, isLineBreak c = false) :
    ∀ c ∈ punctuate o line, isLineBreak c = false := by
  rcases punctuate_cases o line with same | anew
  · rwa [same]
  have quote : isLineBreak (quoteMark o) = false := by
    rw [quoteMark]
    split <;> rfl
  have ending : ∀ c ∈ statementEnd o, isLineBreak c = false := by
    rw [statementEnd]
    split <;> exact Lists.forall_mem_of_all (by decide)
  generalize punctuate o line = written at anew
  cases anew with
  | intro n c kept written rest small visible long within =>
    have kept_solid : ∀ d ∈ c :: kept, isLineBreak d = false := fun d hd =>
      solid d (List.mem_append_left _ (List.mem_append_right _ hd))
    intro d hd
    rcases List.mem_append.1 hd with hd | hd
    · rcases List.mem_append.1 hd with hd | hd
      · exact solid d (List.mem_append_left _ (List.mem_append_left _ hd))
      · rcases List.mem_cons.1 hd with rfl | hd
        · exact kept_solid d List.mem_cons_self
        · rcases within d hd with hd | rfl
          · exact kept_solid d (List.mem_cons_of_mem c hd)
          · exact quote
    · exact ending d hd

/-- A line that shows the same with its quotes and semicolons is the same. -/
theorem trimChars_punctuate_iff (ended : dropEndWhile isBlank line = line) :
    trimChars (punctuate o line) = trimChars line ↔ punctuate o line = line := by
  refine ⟨fun same => ?_, congrArg trimChars⟩
  rcases punctuate_cases o line with stays | anew
  · exact stays
  generalize punctuate o line = written at anew same
  cases anew with
  | intro n c kept written rest small visible long within =>
    have spaces : ∀ d ∈ List.replicate n ' ', isBlank d = true := by
      intro d hd
      rw [List.eq_of_mem_replicate hd]
      rfl
    simp only [List.append_assoc (List.replicate n ' ')] at same ended ⊢
    rw [trimChars_append_left spaces, trimChars_append_left spaces] at same
    have first {l : List Char} : ∀ d ∈ (c :: l).head?, isBlank d = false := by
      rintro d ⟨⟩
      exact visible
    have trimmed : IsTrimmed (c :: kept ++ rest) := by
      refine ⟨first, fun d hd => ?_⟩
      have last : (List.replicate n ' ' ++ (c :: kept ++ rest)).getLast? = some d :=
        (List.getLast?_append_of_ne_nil _ (List.cons_ne_nil c (kept ++ rest))).trans hd
      rw [← ended] at last
      exact dropEndWhile_getLast? _ d last
    rw [trimChars_of_isTrimmed trimmed] at same
    rw [← same, statementEnd]
    refine congrArg _ (Eq.symm ?_)
    split
    · -- a semicolon ends the line visibly
      refine trimChars_of_isTrimmed ⟨first, fun d hd => ?_⟩
      rw [List.getLast?_concat] at hd
      cases hd
      rfl
    · -- without one the line is too short to have lost a blank
      next plain =>
      refine trimChars_of_length_le ?_
      rw [statementEnd, if_neg plain] at same
      rw [same, List.append_nil, List.length_cons, long, List.length_append, List.length_cons]
      omega

/-- A line indented by more than two columns stays. -/
theorem punctuate_of_deep {n : Nat} (deep : sourceIndent < n) {l : List Char}
    (start : line <+: List.replicate n ' ' ++ l) : punctuate o line = line := by
  rcases punctuate_cases o line with stays | anew
  · exact stays
  generalize punctuate o line = written at anew
  cases anew with
  | intro m c kept written rest small visible =>
    -- where the statement would begin there is one more space
    obtain ⟨k, rfl⟩ := Nat.exists_eq_add_of_lt (Nat.lt_of_le_of_lt small deep)
    rw [Nat.add_assoc, List.replicate_add, List.append_assoc, List.append_assoc,
      List.prefix_append_right_inj, List.replicate_succ, List.cons_append, List.cons_append,
      List.cons_prefix_cons] at start
    rw [start.1] at visible
    cases visible

end Componentry.Layout
