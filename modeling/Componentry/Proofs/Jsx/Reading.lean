import Componentry.Jsx.Rendering
import Componentry.Proofs.Jsx.Emission
import Componentry.Proofs.Jsx.Escaping
import Componentry.Proofs.Lists
import Componentry.Proofs.Text.Words

/-!
# Reading rendered pages

A rendered page is read from left to right. Markup says nothing and ends the text before it; a text
is read without the blanks around its line breaks, of which one within the text counts as a space;
the expression for a blank is a space, and a reference is its character. So the line of a text reads
as the text, with a space at an edge that is kept and before a text that follows another.
-/

set_option autoImplicit false

namespace Componentry.Jsx
open Componentry.Text Componentry.Markup

/-! ## Signs -/

/-- What is read of a page, one after the other. -/
inductive Sign where
  | markup
  | blank
  | character (c : Char)
  | reference (c : Char)

/-- What stands behind the brace of an expression for a blank. -/
def blankRest : List Char := "' '\x7d".toList

/-- The signs of a text; the count says how many characters the last one still covers. -/
def signsFrom : Nat → List Char → List Sign
  | _, [] => []
  | skip + 1, _ :: rest => signsFrom skip rest
  | 0, c :: rest =>
    if c == '\x7b' && blankRest.isPrefixOf rest then .blank :: signsFrom blankRest.length rest
    else match if c == '&' then reference? rest else none with
      | some (d, length) => .reference d :: signsFrom length rest
      | none => .character c :: signsFrom 0 rest

/-- The signs of a text. -/
def signs (s : List Char) : List Sign := signsFrom 0 s

/-- The characters that are written as references. -/
def escaped : List Char := ['&', '<', '>', '\x7b', '\x7d']

/-- The sign of a character of a text that was escaped. -/
def signOf (c : Char) : Sign := if c ∈ escaped then .reference c else .character c

/-- A character that needs no reference stands for itself. -/
theorem escapeTextChar_of_not_mem {c : Char} (h : c ∉ escaped) : escapeTextChar c = [c] := by
  simp only [escaped, List.mem_cons, List.not_mem_nil, or_false, not_or] at h
  obtain ⟨ampersand, less, greater, opening, closing⟩ := h
  simp [escapeTextChar, ampersand, less, greater, opening, closing]

/-- A character that needs no reference is read as a sign of its own. -/
theorem signs_character {c : Char} (h : c ∉ escaped) (rest : List Char) :
    signs (c :: rest) = .character c :: signs rest := by
  simp only [escaped, List.mem_cons, List.not_mem_nil, or_false, not_or] at h
  simp [signs, signsFrom, h]

/-- A character that was escaped is read back. -/
theorem signs_escapeTextChar (c : Char) (rest : List Char) :
    signs (escapeTextChar c ++ rest) = signOf c :: signs rest := by
  by_cases h : c ∈ escaped
  · rw [signOf, if_pos h]
    simp only [escaped, List.mem_cons, List.not_mem_nil, or_false] at h
    rcases h with rfl | rfl | rfl | rfl | rfl <;> rfl
  · rw [signOf, if_neg h, escapeTextChar_of_not_mem h, List.singleton_append, signs_character h]

/-- An escaped text is read as the signs of its characters. -/
theorem signs_escapeText (s rest : List Char) :
    signs (s.flatMap escapeTextChar ++ rest) = s.map signOf ++ signs rest := by
  induction s with
  | nil => rfl
  | cons c s ih =>
    rw [List.flatMap_cons, List.append_assoc, signs_escapeTextChar, ih]
    rfl

/-- The expression for a blank is read as one sign. -/
theorem signs_blankExpression (rest : List Char) :
    signs (blankExpression.toList ++ rest) = .blank :: signs rest := rfl

/-! ## Reading -/

/-- A character that ends a line of a page. -/
def endsLine (c : Char) : Bool := c == '\n' || c == '\r'

/-- A blank that is dropped around a line break. -/
def isMarginal (c : Char) : Bool := c == ' ' || c == '\t'

/-- What stands behind the last character that was read: whether there is one in the text, the
blanks behind it, and whether a line ends there. -/
structure Gap where
  begun : Bool := false
  blanks : List Char := []
  broken : Bool := false

namespace Gap

/-- What a gap comes to before another character. -/
def inside (g : Gap) : List Char :=
  if g.broken then if g.begun then [' '] else [] else g.blanks

/-- What a gap comes to at the end of a text. -/
def atEnd (g : Gap) : List Char := if g.broken then [] else g.blanks

/-- A line ends. -/
def endLine (g : Gap) : Gap := { begun := g.begun, broken := true }

/-- A blank follows; next to a line break it is dropped. -/
def add (c : Char) (g : Gap) : Gap := if g.broken then g else { g with blanks := g.blanks ++ [c] }

end Gap

/-- What signs say behind a gap. -/
def readFrom : Gap → List Sign → List Char
  | g, [] => g.atEnd
  | g, .markup :: rest => g.atEnd ++ readFrom {} rest
  | g, .blank :: rest => g.atEnd ++ ' ' :: readFrom {} rest
  | g, .reference c :: rest => g.inside ++ c :: readFrom { begun := true } rest
  | g, .character c :: rest =>
    if endsLine c then readFrom g.endLine rest
    else if isMarginal c then readFrom (g.add c) rest
    else g.inside ++ c :: readFrom { begun := true } rest

/-- A character that was escaped is no blank, and is read as any other. -/
theorem readFrom_signOf (g : Gap) (c : Char) (rest : List Sign) :
    readFrom g (signOf c :: rest) = readFrom g (.character c :: rest) := by
  rw [signOf]
  split
  · next h =>
    have solid : ∀ d ∈ escaped, endsLine d = false ∧ isMarginal d = false :=
      Lists.forall_mem_of_all (by decide)
    obtain ⟨inline, filled⟩ := solid c h
    rw [readFrom, readFrom, inline, filled]
    rfl
  · rfl

/-- The gap behind a line break is left by the columns before a line. -/
theorem readFrom_columns (g : Gap) (broken : g.broken = true) (k : Nat) (rest : List Sign) :
    readFrom g ((List.replicate k ' ').map .character ++ rest) = readFrom g rest := by
  induction k with
  | zero => rfl
  | succ k ih =>
    have same : g.add ' ' = g := if_pos broken
    rw [List.replicate_succ, List.map_cons, List.cons_append, readFrom, same, ih]
    rfl

/-- What ends a line is a blank. -/
theorem isBlank_of_endsLine {c : Char} (h : endsLine c = true) : isBlank c = true := by
  rw [endsLine, Bool.or_eq_true, beq_iff_eq, beq_iff_eq] at h
  rcases h with rfl | rfl <;> rfl

/-- What stands in a margin is a blank. -/
theorem isBlank_of_isMarginal {c : Char} (h : isMarginal c = true) : isBlank c = true := by
  rw [isMarginal, Bool.or_eq_true, beq_iff_eq, beq_iff_eq] at h
  rcases h with rfl | rfl <;> rfl

/-- What a gap comes to holds nothing but blanks. -/
theorem Gap.isBlank_inside {g : Gap} (blanks : ∀ c ∈ g.blanks, isBlank c = true) :
    ∀ c ∈ g.inside, isBlank c = true := by
  intro c hc
  rw [Gap.inside] at hc
  split at hc
  · split at hc
    · rw [List.mem_singleton.1 hc]
      rfl
    · cases hc
  · exact blanks c hc

/-- A gap that takes in a blank has only blanks. -/
theorem Gap.isBlank_add {g : Gap} {c : Char} (blanks : ∀ c ∈ g.blanks, isBlank c = true)
    (blank : isBlank c = true) : ∀ d ∈ (g.add c).blanks, isBlank d = true := by
  intro d hd
  rw [Gap.add] at hd
  split at hd
  · exact blanks d hd
  · rcases List.mem_append.1 hd with old | new
    · exact blanks d old
    · rwa [List.mem_singleton.1 new]

/-- One more blank leaves some blank of a gap within a text. -/
theorem Gap.inside_add_ne_nil {g : Gap} (begun : g.begun = true) (c : Char) :
    (g.add c).inside ≠ [] := by
  rw [Gap.add]
  split
  · next broken =>
    rw [Gap.inside, if_pos broken, if_pos begun]
    exact List.cons_ne_nil _ _
  · next unbroken =>
    rw [Gap.inside, if_neg unbroken]
    exact List.append_ne_nil_of_right_ne_nil _ (List.cons_ne_nil _ _)

/-- A character that is no blank is read as it stands. -/
theorem readFrom_solid {c : Char} (solid : isBlank c = false) (g : Gap) (rest : List Sign) :
    readFrom g (.character c :: rest) = g.inside ++ c :: readFrom { begun := true } rest := by
  have inline : ¬ endsLine c = true := fun h => by
    rw [isBlank_of_endsLine h] at solid
    cases solid
  have filled : ¬ isMarginal c = true := fun h => by
    rw [isBlank_of_isMarginal h] at solid
    cases solid
  rw [readFrom, if_neg inline, if_neg filled]

/-- Blanks before the rest of a text make the words of the blanks that are read. -/
theorem Gap.sameWords_behind {g : Gap} {b s : List Char} {c : Char}
    (blanks : ∀ c ∈ g.blanks, isBlank c = true) (blank : isBlank c = true)
    (hb : ∀ d ∈ b, isBlank d = true) (some_ : b ≠ []) :
    SameWords (b ++ s) (g.inside ++ c :: s) := by
  have filled : ∀ d ∈ g.inside ++ [c], isBlank d = true := by
    intro d hd
    rcases List.mem_append.1 hd with old | new
    · exact isBlank_inside blanks d old
    · rwa [List.mem_singleton.1 new]
  have same := (SameWords.of_blanks hb some_ filled (by simp)).append (.refl s)
  rwa [List.append_assoc, List.singleton_append] at same

/-- Within a text the rest of it is read with the same words. -/
theorem exists_read_inside {s : List Char} (some_ : s ≠ [])
    (last : ∀ c ∈ s.getLast?, isBlank c = false) (rest : List Sign) {g : Gap}
    (begun : g.begun = true) (blanks : ∀ c ∈ g.blanks, isBlank c = true) :
    ∃ t, readFrom g (s.map signOf ++ rest) = t ++ readFrom { begun := true } rest ∧
      SameWords t (g.inside ++ s) := by
  induction s generalizing g with
  | nil => exact absurd rfl some_
  | cons c s ih =>
    rw [List.map_cons, List.cons_append, readFrom_signOf]
    by_cases more : s = []
    · subst more
      refine ⟨g.inside ++ [c], ?_, .refl _⟩
      rw [readFrom_solid (last c rfl), List.append_assoc]
      rfl
    · have last : ∀ c ∈ s.getLast?, isBlank c = false := by
        rwa [List.getLast?_cons_of_ne_nil more] at last
      rw [readFrom]
      -- A character ends the line, widens the gap, or is solid and closes it.
      split
      next ends =>
        obtain ⟨t, read, same⟩ := ih more last (g := g.endLine) begun (fun _ h => nomatch h)
        have space : g.endLine.inside = [' '] := if_pos begun
        refine ⟨t, read, same.trans ?_⟩
        rw [space]
        exact Gap.sameWords_behind blanks (isBlank_of_endsLine ends)
          (Lists.forall_mem_of_all (by decide)) (List.cons_ne_nil _ _)
      next =>
        split
        next marginal =>
          have blank := isBlank_of_isMarginal marginal
          have wider := Gap.isBlank_add blanks blank
          have begun' : (g.add c).begun = true := by
            rw [Gap.add]
            split <;> exact begun
          obtain ⟨t, read, same⟩ := ih more last begun' wider
          exact ⟨t, read, same.trans (Gap.sameWords_behind blanks blank
            (Gap.isBlank_inside wider) (Gap.inside_add_ne_nil begun c))⟩
        next =>
          obtain ⟨t, read, same⟩ := ih more last (g := { begun := true }) rfl (fun _ h => nomatch h)
          have same : SameWords t s := same
          have whole := (SameWords.refl (g.inside ++ [c])).append same
          rw [List.append_assoc, List.append_assoc] at whole
          exact ⟨g.inside ++ c :: t, by rw [read, List.append_assoc]; rfl, whole⟩

/-- A text is read behind a gap with the same words. -/
theorem exists_read_text {s : List Char} (solid : IsSolid s) (rest : List Sign) (g : Gap) :
    ∃ t, readFrom g (s.map signOf ++ rest) = g.inside ++ (t ++ readFrom { begun := true } rest) ∧
      SameWords t s := by
  obtain ⟨some_, trimmed⟩ := solid
  cases s with
  | nil => exact absurd rfl some_
  | cons c s =>
    rw [List.map_cons, List.cons_append, readFrom_signOf, readFrom_solid (trimmed.first c rfl)]
    by_cases more : s = []
    · subst more
      exact ⟨[c], rfl, .refl _⟩
    · have last : ∀ d ∈ s.getLast?, isBlank d = false := by
        have whole := trimmed.last
        rwa [List.getLast?_cons_of_ne_nil more] at whole
      obtain ⟨t, read, same⟩ :=
        exists_read_inside more last rest (g := { begun := true }) rfl (fun _ h => nomatch h)
      exact ⟨c :: t, by rw [read]; rfl, (SameWords.refl [c]).append same⟩

/-! ## Pieces of a page -/

/-- A piece of a page: markup, or characters of a text. -/
inductive Piece where
  | markup (s : List Char)
  | text (s : List Char)

namespace Piece

/-- What is written for a piece. -/
def characters : Piece → List Char
  | .markup s | .text s => s

/-- What is read of a piece. -/
def signs : Piece → List Sign
  | .markup _ => [.markup]
  | .text s => Jsx.signs s

end Piece

/-- What a page says. -/
def read (page : List Piece) : String := String.ofList (readFrom {} (page.flatMap Piece.signs))

/-- What stands on a line, as a piece. -/
def LineContent.piece : LineContent → Piece
  | .text s => .text s.toList
  | content => .markup content.write.toList

/-- The pieces of a line, the first of them the line feed and the columns before it. -/
def Line.pieces (line : Line) : List Piece :=
  [.text ('\n' :: List.replicate (2 * line.level.toNat) ' '), line.content.piece]

/-- The pieces of lines. -/
def pieces (lines : List Line) : List Piece := lines.flatMap Line.pieces

/-- What is read of lines. -/
def signsOf (lines : List Line) : List Sign := (pieces lines).flatMap Piece.signs

/-- A line is read as a line feed, its columns and its content. -/
theorem signsOf_cons (line : Line) (rest : List Line) : signsOf (line :: rest) =
    signs ('\n' :: List.replicate (2 * line.level.toNat) ' ') ++
      (line.content.piece.signs ++ signsOf rest) := by
  rw [signsOf, pieces, List.flatMap_cons, List.flatMap_append, Line.pieces, List.flatMap_cons,
    List.flatMap_singleton, List.append_assoc]
  rfl

/-- The characters of a line are those that are written. -/
theorem characters_piece (content : LineContent) :
    content.piece.characters = content.write.toList := by
  cases content <;> rfl

/-- The pieces of lines spell the lines, a line feed before each. -/
theorem characters_pieces (lines : List Line) : (pieces lines).flatMap Piece.characters =
    lines.flatMap fun line => '\n' :: line.write.toList := by
  rw [pieces, List.flatMap_assoc]
  refine List.flatMap_congr fun line _ => ?_
  rw [Line.pieces, List.flatMap_cons, List.flatMap_singleton, characters_piece, toList_write]
  rfl

/-- The columns before a line end the line above. -/
theorem readFrom_margin (g : Gap) (k : Nat) (rest : List Sign) :
    readFrom g (signs ('\n' :: List.replicate k ' ') ++ rest) = readFrom g.endLine rest := by
  have columns : signs (List.replicate k ' ') = (List.replicate k ' ').map .character := by
    induction k with
    | zero => rfl
    | succ k ih => rw [List.replicate_succ, signs_character (by decide), ih, List.map_cons]
  rw [signs_character (by decide), columns, List.cons_append, readFrom, if_pos (by decide)]
  exact readFrom_columns g.endLine rfl k rest

/-- Markup ends the text before it, and the columns of its line are dropped. -/
theorem readFrom_markup {line : Line} {s : List Char} (markup : line.content.piece = .markup s)
    (rest : List Line) (g : Gap) :
    readFrom g (signsOf (line :: rest)) = readFrom {} (signsOf rest) := by
  rw [signsOf_cons, readFrom_margin, markup]
  rfl

/-- A text starts with a blank. -/
def startsBlank (s : String) : Bool := isBlank (s.toList.headD 'x')

/-- A text ends with a blank. -/
def endsBlank (s : String) : Bool := isBlank (s.toList.getLastD 'x')

/-- The blank at the start of a text is kept: it is not the first one rendered beside its
siblings. -/
def keepsBefore (first : Bool) (s : String) : Bool := !first && startsBlank s

/-- The blank at the end of a text is kept: it is not the last one rendered beside its siblings. -/
def keepsBehind (last : Bool) (s : String) : Bool := !last && endsBlank s

/-- A text is read as its trimmed characters, with a blank for each edge that is kept. -/
theorem signs_textLine (first last : Bool) (s : String) :
    signs (textLine first last s).toList = (if keepsBefore first s then [.blank] else []) ++
      ((trimChars s.toList).map signOf ++ if keepsBehind last s then [.blank] else []) := by
  have escape : (escapeText (trim s)).toList = (trimChars s.toList).flatMap escapeTextChar := by
    rw [toList_escapeText, trim, String.toList_ofList]
  have stop : ∀ kept : Bool, signs (if kept then blankExpression else "").toList =
      if kept then [.blank] else [] := by
    intro kept
    cases kept <;> rfl
  rw [textLine, String.toList_append, String.toList_append, escape, List.append_assoc]
  change signs ((if keepsBefore first s then blankExpression else "").toList ++ (_ ++
    (if keepsBehind last s then blankExpression else "").toList)) = _
  cases keepsBefore first s with
  | true =>
    rw [if_pos rfl, if_pos rfl, signs_blankExpression, signs_escapeText, stop]
    rfl
  | false =>
    rw [if_neg Bool.false_ne_true, if_neg Bool.false_ne_true]
    exact (signs_escapeText _ _).trans (congrArg _ (stop _))

/-- The line of a text is read as the text, with a space for each edge that is kept, and one before
it if it follows another text. -/
theorem exists_read_textLine {line : Line} {first last : Bool} {s : String}
    (content : line.content = .text (textLine first last s)) (filled : IsSolid (trimChars s.toList))
    (begun : Bool) (rest : List Line) :
    ∃ t, readFrom { begun } (signsOf (line :: rest)) =
        (if keepsBefore first s || begun then [' '] else []) ++ (t ++
          ((if keepsBehind last s then [' '] else []) ++
            readFrom { begun := !keepsBehind last s } (signsOf rest))) ∧
      SameWords t (trimChars s.toList) := by
  have piece : line.content.piece.signs = signs (textLine first last s).toList := by
    rw [content]
    rfl
  rw [signsOf_cons, readFrom_margin, piece, signs_textLine, List.append_assoc, List.append_assoc]
  -- what is read behind the text
  have behind : readFrom { begun := true }
      ((if keepsBehind last s then [.blank] else []) ++ signsOf rest) =
      (if keepsBehind last s then [' '] else []) ++
        readFrom { begun := !keepsBehind last s } (signsOf rest) := by
    cases keepsBehind last s <;> rfl
  -- A kept edge begins the text with a space of its own; else the line feed before it may give
  -- one.
  cases keepsBefore first s with
  | true =>
    obtain ⟨t, read, same⟩ := exists_read_text filled
      ((if keepsBehind last s then [.blank] else []) ++ signsOf rest) {}
    refine ⟨t, ?_, same⟩
    rw [if_pos rfl, List.singleton_append, readFrom, read, behind]
    rfl
  | false =>
    obtain ⟨t, read, same⟩ := exists_read_text filled
      ((if keepsBehind last s then [.blank] else []) ++ signsOf rest) (Gap.endLine { begun })
    refine ⟨t, ?_, same⟩
    rw [if_neg Bool.false_ne_true, List.nil_append, read, behind, Bool.false_or]
    rfl

end Componentry.Jsx
