import Componentry.Proofs.Jsx.Reading

/-!
# Texts that meet

From left to right a rendered page shows texts and edges of other things. Two texts with no other
text between them stand apart by the blanks at the edges that meet; read from the page they are
apart if they are adjacent, or if such a blank is kept, which it is on a side that has a sibling. So
the page says the words of its texts exactly when the two come to the same for all that meet.
-/

set_option autoImplicit false

namespace Componentry
open Componentry.Text Componentry.Jsx

/-! ## Marks -/

/-- A text that is rendered, the first or the last one beside its siblings. -/
structure ShownText where
  first : Bool
  last : Bool
  text : String
deriving DecidableEq

/-- What is met from left to right in what is rendered: an edge of something else, or a text. -/
inductive Mark where
  | edge
  | text (t : ShownText)

/-- Two texts with no other text between them; adjacent ones have nothing between them at all. -/
structure Meeting where
  before : ShownText
  adjacent : Bool
  behind : ShownText

namespace Mark

/-- The meetings of a text with the next one, and of those behind it. -/
def meetingsFrom (t : ShownText) (adjacent : Bool) : List Mark → List Meeting
  | [] => []
  | .edge :: rest => meetingsFrom t false rest
  | .text u :: rest => ⟨t, adjacent, u⟩ :: meetingsFrom u true rest

/-- All meetings, in order. -/
def meetings : List Mark → List Meeting
  | [] => []
  | .edge :: rest => meetings rest
  | .text t :: rest => meetingsFrom t true rest

/-- The text of a mark. -/
def characters : Mark → List Char
  | .edge => []
  | .text t => t.text.toList

end Mark

namespace Meeting

/-- The texts of a meeting stand apart in the page. -/
def standsApart (m : Meeting) : Bool := endsBlank m.before.text || startsBlank m.behind.text

/-- The texts of a meeting are read apart: they are adjacent, or the blank between them is kept. -/
def isReadApart (m : Meeting) : Bool :=
  m.adjacent || keepsBehind m.before.last m.before.text || keepsBefore m.behind.first m.behind.text

/-- The second text, without the blanks around it. -/
def trimmed (m : Meeting) : List Char := trimChars m.behind.text.toList

/-- What is read apart has a blank, unless the texts are adjacent. -/
theorem standsApart_of_isReadApart (m : Meeting)
    (adjacent : m.adjacent = true → m.standsApart = true)
    (h : m.isReadApart = true) : m.standsApart = true := by
  rw [isReadApart, Bool.or_eq_true, Bool.or_eq_true] at h
  rcases h with (next | before) | behind
  · exact adjacent next
  · exact Bool.or_eq_true_iff.2 (.inl (Bool.and_eq_true_iff.1 before).2)
  · exact Bool.or_eq_true_iff.2 (.inr (Bool.and_eq_true_iff.1 behind).2)

end Meeting

namespace Node

mutual
/-- The marks of a node that is the first or the last one rendered beside its siblings. -/
def marks (first last : Bool) : Node → List Mark
  | .mk label children =>
    match label.kind with
    | .text =>
      let s := label.text.getD ""
      if isBlankText s then [] else [.text ⟨first, last, s⟩]
    | .comment => [.edge]
    | .fragment => .edge :: marksAll true children ++ [.edge]
    | .element =>
      if closesAtOnce label children then [.edge]
      else .edge :: marksAll true children ++ [.edge]

/-- The marks of nodes; the first one that is rendered may be the first of all. -/
def marksAll (first : Bool) : List Node → List Mark
  | [] => []
  | n :: rest =>
    if renders n then marks first (!rest.any renders) n ++ marksAll false rest
    else marksAll first rest
end

/-- The marks of a root; the word for nothing is an edge. -/
def rootMarks (root : Node) : List Mark :=
  match root.outermost?.toList.flatMap (marks true true) with
  | [] => [.edge]
  | marks => marks

end Node

namespace Jsx

/-- What a line shows: markup is an edge, and the line of a text shows the text. -/
inductive Line.Shows : Line → Mark → Prop
  | edge {line : Line} {s : List Char} (markup : line.content.piece = .markup s) :
    Line.Shows line .edge
  | text {line : Line} {t : ShownText} (filled : isBlankText t.text = false)
      (content : line.content = .text (textLine t.first t.last t.text)) : Line.Shows line (.text t)

end Jsx

namespace Node

variable {attributes : Label → String}

mutual
/-- The lines of a node show its marks. -/
theorem forall₂_shows_lines (level : Int) (first last : Bool) : ∀ n : Node,
    List.Forall₂ Line.Shows (n.lines attributes level first last) (n.marks first last)
  | .mk label children => by
    have inner := forall₂_shows_linesAll (level + 1) true children
    rw [lines, marks]
    cases label.kind with
    | text =>
      dsimp only
      split
      · exact .nil
      · next filled => exact .cons (.text (by simpa using filled) rfl) .nil
    | comment => exact .cons (.edge rfl) .nil
    | fragment => exact .cons (.edge rfl) (List.rel_append inner (.cons (.edge rfl) .nil))
    | element =>
      dsimp only
      split
      · exact .cons (.edge rfl) .nil
      · exact .cons (.edge rfl) (List.rel_append inner (.cons (.edge rfl) .nil))

/-- The lines of nodes show their marks. -/
theorem forall₂_shows_linesAll (level : Int) (first : Bool) : ∀ l : List Node,
    List.Forall₂ Line.Shows (linesAll attributes level first l) (marksAll first l)
  | [] => by
    rw [linesAll, marksAll]
    exact .nil
  | n :: rest => by
    rw [linesAll, marksAll]
    split
    · exact List.rel_append (forall₂_shows_lines level first _ n)
        (forall₂_shows_linesAll level false rest)
    · exact forall₂_shows_linesAll level first rest
end

/-- Every page is rendered in at least one line. -/
theorem renderedLines_ne_nil {level : Int} {root : Node} :
    root.renderedLines attributes level ≠ [] := by
  rw [renderedLines]
  split
  · exact List.cons_ne_nil _ _
  · next some_ => exact some_

/-- The lines of a root show its marks. -/
theorem forall₂_shows_renderedLines (level : Int) (root : Node) :
    List.Forall₂ Line.Shows (root.renderedLines attributes level) root.rootMarks := by
  have emitted : List.Forall₂ Line.Shows (root.emitted attributes level)
      (root.outermost?.toList.flatMap (marks true true)) := by
    rw [emitted_eq]
    cases root.outermost? with
    | none => exact .nil
    | some n =>
      rw [Option.toList_some, List.flatMap_singleton, List.flatMap_singleton]
      exact forall₂_shows_lines level true true n
  rw [renderedLines, rootMarks]
  generalize root.emitted attributes level = lines at emitted ⊢
  generalize root.outermost?.toList.flatMap (marks true true) = shown at emitted ⊢
  cases emitted with
  | nil => exact .cons (.edge rfl) .nil
  | cons shown others => exact .cons shown others

end Node

/-! ## Meetings -/

/-- What is trimmed of a text that is not blank is solid. -/
theorem isSolid_trimChars {s : String} (filled : isBlankText s = false) :
    IsSolid (trimChars s.toList) where
  some_ := by
    intro none
    obtain ⟨before, behind, front, back, whole⟩ := exists_blanks_trimChars s.toList
    rw [none, List.append_nil] at whole
    have blank : isBlankText s = true := by
      rw [isBlankText, whole, List.all_append, Bool.and_eq_true, List.all_eq_true,
        List.all_eq_true]
      exact ⟨front, back⟩
    rw [blank] at filled
    cases filled
  trimmed := isTrimmed_trimChars _

/-- A text stands between blanks if it starts or ends with any. -/
theorem exists_edges {s : String} (filled : isBlankText s = false) : ∃ before behind : List Char,
    s.toList = before ++ (trimChars s.toList ++ behind) ∧
      SameWords before (if startsBlank s then [' '] else []) ∧
      SameWords behind (if endsBlank s then [' '] else []) := by
  obtain ⟨before, behind, front, back, whole⟩ := exists_blanks_trimChars s.toList
  obtain ⟨some_, trimmed⟩ := isSolid_trimChars filled
  rw [List.append_assoc] at whole
  refine ⟨before, behind, whole, ?_, ?_⟩
  · cases before with
    | nil =>
      obtain ⟨c, u, first⟩ := List.exists_cons_of_ne_nil some_
      have start : startsBlank s = false := by
        rw [startsBlank, whole, List.nil_append, first]
        exact trimmed.first c (by rw [first]; rfl)
      rw [start]
      exact .refl _
    | cons b more =>
      have start : startsBlank s = true := by
        rw [startsBlank, whole]
        exact front b List.mem_cons_self
      rw [start]
      exact .of_blank front (List.cons_ne_nil b more)
  · rcases List.eq_nil_or_concat behind with rfl | ⟨more, b, rfl⟩
    · have stop : endsBlank s = false := by
        rcases List.eq_nil_or_concat (trimChars s.toList) with none | ⟨more, b, last⟩
        · exact absurd none some_
        · rw [List.append_nil, last, List.concat_eq_append, ← List.append_assoc] at whole
          rw [endsBlank, whole, List.getLastD_concat]
          exact trimmed.last b (by rw [last, List.concat_eq_append, List.getLast?_concat]; rfl)
      rw [stop]
      exact .refl _
    · have stop : endsBlank s = true := by
        rw [endsBlank, whole, List.concat_eq_append, ← List.append_assoc, ← List.append_assoc,
          List.getLastD_concat]
        exact back b (by simp)
      rw [stop]
      exact .of_blank back (by simp)

namespace Mark

variable {lines : List Line} {marks : List Mark}

/-- A space that is kept, or none, is blank. -/
theorem isBlank_space (kept : Bool) : ∀ c ∈ if kept then [' '] else [], isBlank c = true := by
  cases kept with
  | false => exact fun c hc => nomatch hc
  | true => exact Lists.forall_mem_of_all (by decide)

/-- Spaces that say of two reasons that one of them holds. -/
theorem sameWords_or (a b : Bool) :
    SameWords ((if a then [' '] else []) ++ (if b then [' '] else []))
      (if a || b then [' '] else []) := by
  cases a with
  | false => exact .refl _
  | true =>
    cases b with
    | false => exact .refl _
    | true => exact .of_blank (Lists.forall_mem_of_all (by decide)) (List.cons_ne_nil _ _)

/-- Behind a text the lines are read as the texts of its meetings, apart as they are read apart. -/
theorem exists_read_behind (shows : List.Forall₂ Line.Shows lines marks) (t : ShownText)
    (adjacent : Bool) : ∃ b, (∀ c ∈ b, isBlank c = true) ∧
      SameWords ((if keepsBehind t.last t.text then [' '] else []) ++
          readFrom { begun := adjacent && !keepsBehind t.last t.text } (signsOf lines))
        (weave Meeting.trimmed Meeting.isReadApart (meetingsFrom t adjacent marks) ++ b) := by
  induction shows generalizing t adjacent with
  | nil =>
    exact ⟨_, isBlank_space (keepsBehind t.last t.text), .of_eq (List.append_nil _)⟩
  | @cons line mark lines marks shown _ ih =>
    cases shown with
    | edge markup =>
      rw [readFrom_markup markup]
      exact ih t false
    | @text u filled content =>
      obtain ⟨b, blank, same⟩ := ih u true
      obtain ⟨s, read, text⟩ := exists_read_textLine content (isSolid_trimChars filled)
        (adjacent && !keepsBehind t.last t.text) lines
      have spaces := sameWords_or (keepsBehind t.last t.text)
        (keepsBefore u.first u.text || (adjacent && !keepsBehind t.last t.text))
      have reason : (keepsBehind t.last t.text ||
          (keepsBefore u.first u.text || (adjacent && !keepsBehind t.last t.text))) =
          Meeting.isReadApart ⟨t, adjacent, u⟩ := by
        rw [Meeting.isReadApart]
        cases adjacent <;> cases keepsBehind t.last t.text <;> cases keepsBefore u.first u.text <;>
          rfl
      rw [reason] at spaces
      have whole := spaces.append (text.append same)
      refine ⟨b, blank, ?_⟩
      rw [read, meetingsFrom, weave_cons]
      simp only [List.append_assoc] at whole ⊢
      exact whole

/-- Behind a text the texts of its meetings stand apart by the blanks at their edges. -/
theorem exists_content_behind (shows : List.Forall₂ Line.Shows lines marks) (t : ShownText)
    (adjacent : Bool) {e : List Char}
    (edge : SameWords e (if endsBlank t.text then [' '] else [])) :
    ∃ b, (∀ c ∈ b, isBlank c = true) ∧ SameWords (e ++ marks.flatMap characters)
      (weave Meeting.trimmed Meeting.standsApart (meetingsFrom t adjacent marks) ++ b) := by
  induction shows generalizing t adjacent e with
  | nil =>
    exact ⟨_, isBlank_space (endsBlank t.text), (SameWords.of_eq (List.append_nil _)).trans edge⟩
  | @cons line mark lines marks shown _ ih =>
    cases shown with
    | edge markup => exact ih t false edge
    | @text u filled content =>
      obtain ⟨front, back, text, before, behind⟩ := exists_edges filled
      obtain ⟨b, blank, same⟩ := ih u true behind
      have spaces := (edge.append before).trans (sameWords_or _ _)
      have whole := spaces.append ((SameWords.refl (trimChars u.text.toList)).append same)
      refine ⟨b, blank, ?_⟩
      rw [List.flatMap_cons, characters, text, meetingsFrom, weave_cons]
      simp only [List.append_assoc] at whole ⊢
      exact whole

/-- Blanks around a text have no words. -/
theorem wordsOf_between {a b s t : List Char} (same : SameWords t (a ++ (s ++ b)))
    (front : ∀ c ∈ a, isBlank c = true) (back : ∀ c ∈ b, isBlank c = true) :
    wordsOf t = wordsOf s := by
  rw [same.wordsOf_eq]
  have before : ∀ u, wordsOf (a ++ u) = wordsOf u := by
    intro u
    by_cases none : a = []
    · rw [none, List.nil_append]
    · exact wordsOf_append_blanks front none [] u
  have behind : wordsOf (s ++ b) = wordsOf s := by
    by_cases none : b = []
    · rw [none, List.append_nil]
    · have whole := wordsOf_append_blanks back none s []
      rwa [List.append_nil, wordsOf_nil, List.append_nil] at whole
  rw [before, behind]

/-- The texts that meet are solid. -/
theorem isSolid_trimmed (shows : List.Forall₂ Line.Shows lines marks) (t : ShownText)
    (adjacent : Bool) : ∀ m ∈ meetingsFrom t adjacent marks, IsSolid m.trimmed := by
  induction shows generalizing t adjacent with
  | nil => exact fun m hm => absurd hm List.not_mem_nil
  | cons shown _ ih =>
    cases shown with
    | edge markup => exact ih t false
    | text filled content =>
      rw [meetingsFrom, List.forall_mem_cons]
      exact ⟨isSolid_trimChars filled, ih _ true⟩

/-- Lines are read with the words of the texts they show exactly when these are read apart where
they stand apart. -/
theorem wordsOf_read_eq_iff (shows : List.Forall₂ Line.Shows lines marks) :
    wordsOf (readFrom {} (signsOf lines)) = wordsOf (marks.flatMap characters) ↔
      ∀ m ∈ meetings marks, m.isReadApart = m.standsApart := by
  induction shows with
  | nil => exact ⟨fun _ _ hm => absurd hm List.not_mem_nil, fun _ => rfl⟩
  | @cons line mark lines marks shown others ih =>
    cases shown with
    | edge markup =>
      rw [readFrom_markup markup]
      exact ih
    | @text t filled content =>
      have solid := isSolid_trimChars filled
      obtain ⟨s, read, text⟩ := exists_read_textLine content solid false lines
      obtain ⟨b, blank, behind⟩ := exists_read_behind others t true
      obtain ⟨front, back, whole, before, edge⟩ := exists_edges filled
      obtain ⟨b', blank', behind'⟩ := exists_content_behind others t true edge
      rw [Bool.true_and] at behind
      have said := (SameWords.refl
        (if keepsBefore t.first t.text || false then [' '] else [])).append
        (text.append behind)
      have stands := before.append ((SameWords.refl (trimChars t.text.toList)).append behind')
      rw [← List.append_assoc (trimChars t.text.toList) (weave _ _ _)] at said stands
      rw [List.flatMap_cons, characters, whole, read, List.append_assoc, List.append_assoc,
        wordsOf_between said (isBlank_space _) blank,
        wordsOf_between stands (isBlank_space _) blank', meetings]
      exact wordsOf_weave_eq_iff solid (isSolid_trimmed others t true)

end Mark

end Componentry
