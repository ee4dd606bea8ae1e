import Componentry.Jsx.Source
import Componentry.Proofs.Document.Reading
import Componentry.Proofs.Outcome
import Componentry.Proofs.Jsx.Brackets
import Componentry.Proofs.Jsx.Escaping
import Componentry.Proofs.Text.Erasure
import Componentry.Proofs.Text.Pieces
import Componentry.Proofs.Text.Trim

/-!
# Expressions

A component returns one expression: the word for nothing, an element or a fragment. Here they are
given by a grammar on characters, in which only the text of the attributes is left open. What the
lines of a page spell is an expression of the grammar when its elements have names of elements and
no comment holds the end of a comment, except where the only node that is rendered in a fragment is
a comment or a text: it stands for the fragment, and is none of the three.
-/

set_option autoImplicit false

namespace Componentry.Jsx
open Componentry.Text

/-- A name of an element is a letter with letters, digits, underscores and hyphens behind it. -/
def isTagName (s : String) : Bool :=
  match s.toList with
  | [] => false
  | c :: rest => isAsciiLetter c && rest.all fun d => isAsciiAlnum d || d == '_' || d == '-'

/-- A name of an element is not empty. -/
theorem ne_empty_of_isTagName {s : String} (h : isTagName s = true) : s ≠ "" := by
  rintro rfl
  cases h

/-- A comment in brackets, which ends once only. -/
structure IsComment (s : String) : Prop where
  bracketed : ∃ inner, s = "\x7b/*" ++ inner ++ "*/\x7d"
  endsOnce : ∀ before behind, s.toList = before ++ '*' :: '/' :: behind → behind = ['\x7d']

/-- The characters that start and end elements and bracketed expressions. -/
def delimiters : List Char := ['<', '>', '\x7b', '\x7d']

mutual
/-- What stands inside an element or a fragment. -/
inductive IsContent (given : String → Prop) : List Char → Prop where
  | nil : IsContent given []
  | char {c : Char} : c ∉ delimiters → IsContent given [c]
  | blank : IsContent given blankExpression.toList
  | comment {s : String} : IsComment s → IsContent given s.toList
  | element {s : List Char} : IsElement given s → IsContent given s
  | append {s t : List Char} : IsContent given s → IsContent given t → IsContent given (s ++ t)

/-- An element or a fragment. The texts that attributes may have are given. -/
inductive IsElement (given : String → Prop) : List Char → Prop where
  | closed {tag attributes : String} : isTagName tag = true → given attributes →
      IsElement given ("<" ++ tagText tag attributes ++ " />").toList
  | nested {tag attributes : String} {inner : List Char} : isTagName tag = true → given attributes →
      IsContent given inner →
      IsElement given
        (("<" ++ tagText tag attributes ++ ">").toList ++ inner ++ ("</" ++ tag ++ ">").toList)
  | fragment {inner : List Char} : IsContent given inner →
      IsElement given ("<>".toList ++ inner ++ "</>".toList)
end

/-- One expression with blanks around it: nothing, an element or a fragment. -/
def IsExpression (given : String → Prop) (s : String) : Prop :=
  trim s = "null" ∨ IsElement given (trim s).toList

/-- The end of a comment. -/
def commentEnd : String := "*/"

variable {given : String → Prop}

/-- Characters that delimit nothing are content. -/
theorem IsContent.of_forall : ∀ {s : List Char}, (∀ c ∈ s, c ∉ delimiters) → IsContent given s
  | [], _ => .nil
  | c :: _, plain =>
    .append (.char (plain c List.mem_cons_self)) (of_forall fun d hd =>
      plain d (List.mem_cons_of_mem c hd))

/-- An element starts and ends with angle brackets. -/
theorem IsElement.exists_inner {s : List Char} (h : IsElement given s) :
    ∃ inner, s = '<' :: inner ++ ['>'] := by
  cases h with
  | @closed tag attributes _ _ =>
    have slash : " />" = " /" ++ ">" := rfl
    refine ⟨(tagText tag attributes ++ " /").toList, ?_⟩
    simp [slash, String.toList_append]
  | @nested tag attributes inner _ _ _ =>
    refine ⟨(tagText tag attributes).toList ++ '>' :: (inner ++ '<' :: '/' :: tag.toList), ?_⟩
    simp [String.toList_append]
  | @fragment inner _ => exact ⟨'>' :: inner ++ ['<', '/'], by simp⟩

/-- An element starts and ends with a bracket, so no blank is trimmed from it. -/
theorem IsElement.isTrimmed {s : List Char} (h : IsElement given s) : IsTrimmed s := by
  obtain ⟨inner, rfl⟩ := h.exists_inner
  exact IsTrimmed.append (s := ['<']) (t := ['>'])
    (isTrimmed_of_no_blank (Lists.forall_mem_of_all (by decide)))
    (isTrimmed_of_no_blank (Lists.forall_mem_of_all (by decide))) (by decide) (by decide)

/-- What is written for a comment ends once exactly when it does not hold the end of a comment. -/
theorem isComment_write_iff {s : String} :
    IsComment (LineContent.comment s).write ↔ contains s commentEnd = false := by
  have whole : (LineContent.comment s).write.toList =
      ('\x7b' :: '/' :: '*' :: ' ' :: s.toList) ++ [' ', '*', '/', '\x7d'] := by
    rw [LineContent.write, String.toList_append, String.toList_append]
    rfl
  have across : occursIn commentEnd.toList ('\x7b' :: '/' :: '*' :: ' ' :: s.toList) =
      contains s commentEnd :=
    occursIn_append_cons (by decide) (by decide) s.toList ['\x7b', '/', '*']
  constructor
  · intro comment
    rw [← Bool.not_eq_true]
    intro inside
    obtain ⟨before, behind, split⟩ := occursIn_iff.1 inside
    have ends : behind ++ [' ', '*', '/', '\x7d'] = ['\x7d'] := by
      refine comment.endsOnce ('\x7b' :: '/' :: '*' :: ' ' :: before) _ ?_
      rw [whole, ← split]
      simp [commentEnd]
    have long := congrArg List.length ends
    simp only [List.length_append, List.length_cons, List.length_nil] at long
    omega
  · intro outside
    refine ⟨⟨" " ++ s ++ " ", ?_⟩, fun before behind split => ?_⟩
    · have start : "\x7b/* " = "\x7b/*" ++ " " := rfl
      have stop : " */\x7d" = " " ++ "*/\x7d" := rfl
      rw [LineContent.write, start, stop]
      simp only [String.append_assoc]
    -- The end found lies within the comment, over its last blank, or is the last one.
    rw [whole] at split
    rcases List.append_eq_append_iff.1 split with ⟨more, rfl, split⟩ | ⟨more, inside, split⟩
    · rcases more with - | ⟨a, - | ⟨b, - | ⟨c, - | ⟨d, more⟩⟩⟩⟩ <;> simp_all
    · rcases more with - | ⟨a, - | ⟨b, more⟩⟩
      · simp at split
      · simp at split
      · simp only [List.cons_append, List.cons.injEq] at split
        obtain ⟨rfl, rfl, -⟩ := split
        rw [inside, occursIn_iff.2 ⟨before, more, by simp [commentEnd]⟩] at across
        rw [← across] at outside
        cases outside

/-- Trimming does not take an end of a comment away. -/
theorem contains_trim_commentEnd (s : String) :
    contains (trim s) commentEnd = contains s commentEnd := by
  obtain ⟨before, behind, front, back, whole⟩ := exists_blanks_trimChars s.toList
  have foreign {b : List Char} (blank : ∀ c ∈ b, isBlank c = true) :
      ∀ c ∈ b, c ∉ commentEnd.toList := by
    intro c hc mem
    have filled : ∀ d ∈ commentEnd.toList, isBlank d = false :=
      Lists.forall_mem_of_all (by decide)
    have both := blank c hc
    rw [filled c mem] at both
    cases both
  rw [contains, contains, trim, String.toList_ofList]
  conv_rhs => rw [whole]
  rw [occursIn_append_right (by decide) _ (foreign back),
    occursIn_append_left (by decide) _ (foreign front)]

/-- The comment that stands on a line. -/
def Line.comment? (line : Line) : Option String :=
  match line.content with
  | .comment s => some s
  | _ => none

/-- What lines spell, a line feed before each of them. -/
def spelled (lines : List Line) : List Char := lines.flatMap fun line => '\n' :: line.write.toList

/-- Lines in a row are spelled in a row. -/
theorem spelled_append (l m : List Line) : spelled (l ++ m) = spelled l ++ spelled m :=
  List.flatMap_append

/-- A line is spelled with a line feed, its columns and its content. -/
theorem spelled_singleton (level : Int) (content : LineContent) :
    spelled [⟨level, content⟩] =
      '\n' :: (List.replicate (2 * level.toNat) ' ' ++ content.write.toList) := by
  rw [spelled, List.flatMap_singleton, toList_write]

/-- Lines between two of a level spell something between what the two have on them. -/
theorem spelled_bracketed (level : Int) (start stop : LineContent) (inner : List Line) :
    spelled (⟨level, start⟩ :: inner ++ [⟨level, stop⟩]) =
      '\n' :: (List.replicate (2 * level.toNat) ' ' ++ (start.write.toList ++
        (spelled inner ++ '\n' :: List.replicate (2 * level.toNat) ' ') ++ stop.write.toList)) := by
  rw [List.cons_append, ← List.singleton_append, spelled_append, spelled_append,
    spelled_singleton, spelled_singleton]
  simp only [List.cons_append, List.append_assoc]

/-- Lines that are joined spell what they spell. -/
theorem lineFeed_cons_join {l : List Line} (some_ : l ≠ []) :
    '\n' :: (join "\n" (l.map Line.write)).toList = spelled l := by
  rw [cons_join (d := '\n') rfl (by simpa using some_), List.flatMap_map]
  rfl

/-- The columns before a line are content. -/
theorem isContent_margin (k : Nat) : IsContent given ('\n' :: List.replicate k ' ') := by
  refine .of_forall fun c hc => ?_
  rcases List.mem_cons.1 hc with rfl | hc
  · decide
  · rw [List.eq_of_mem_replicate hc]
    decide

/-- A character stands for itself and delimits nothing, or is written as a reference. -/
theorem escapeTextChar_cases (c : Char) :
    (escapeTextChar c = [c] ∧ c ∉ delimiters) ∨
      ('&' ∈ escapeTextChar c ∧ ∀ d ∈ escapeTextChar c, d ∉ delimiters ∧ isBlank d = false) := by
  rw [escapeTextChar]
  repeat' split
  all_goals first
    | exact .inr ⟨by decide, Lists.forall_mem_of_all (by decide)⟩
    | refine .inl ⟨rfl, ?_⟩
      simp_all [delimiters]

/-- An escaped text holds nothing that starts or ends an element or an expression. -/
theorem not_mem_delimiters_of_mem_escapeText {s : String} {c : Char}
    (h : c ∈ (escapeText s).toList) : c ∉ delimiters := by
  rw [toList_escapeText] at h
  obtain ⟨d, -, hc⟩ := List.mem_flatMap.1 h
  rcases escapeTextChar_cases d with ⟨same, plain⟩ | ⟨-, plain⟩
  · rw [same] at hc
    rwa [List.mem_singleton.1 hc]
  · exact (plain c hc).1

/-- An escaped text is content. -/
theorem isContent_escapeText (s : String) : IsContent given (escapeText s).toList :=
  .of_forall fun _ => not_mem_delimiters_of_mem_escapeText

/-- The line of a text is content. -/
theorem isContent_textLine (first last : Bool) (s : String) :
    IsContent given (textLine first last s).toList := by
  have kept (edge : Bool) : IsContent given (if edge then blankExpression else "").toList := by
    cases edge with
    | true => exact .blank
    | false => exact .nil
  rw [textLine, String.toList_append, String.toList_append]
  exact .append (.append (kept _) (isContent_escapeText _)) (kept _)

/-- Only the word itself is written as the word for nothing. -/
theorem escapeText_eq_null_iff {s : String} : escapeText s = "null" ↔ s = "null" := by
  constructor
  · intro h
    have whole : s.toList.flatMap escapeTextChar = "null".toList := by
      rw [← h, toList_escapeText]
    have plain : ∀ c ∈ s.toList, escapeTextChar c = [c] := by
      intro c hc
      rcases escapeTextChar_cases c with ⟨same, -⟩ | ⟨reference, -⟩
      · exact same
      · have mem := List.mem_flatMap.2 ⟨c, hc, reference⟩
        rw [whole] at mem
        exact absurd mem (by decide)
    rw [← String.toList_inj, ← whole]
    rw [List.flatMap_congr plain, List.flatMap_singleton']
  · rintro rfl
    rfl

/-- A character that is no blank is written without blanks. -/
theorem filled_escapeTextChar {c : Char} (filled : isBlank c = false) :
    escapeTextChar c ≠ [] ∧ ∀ d ∈ escapeTextChar c, isBlank d = false := by
  rcases escapeTextChar_cases c with ⟨same, -⟩ | ⟨reference, plain⟩
  · rw [same]
    exact ⟨List.cons_ne_nil _ _, fun d hd => List.mem_singleton.1 hd ▸ filled⟩
  · exact ⟨List.ne_nil_of_mem reference, fun d hd => (plain d hd).2⟩

/-- A trimmed text is trimmed when it is escaped, too. -/
theorem isTrimmed_escapeText {s : String} (h : IsTrimmed s.toList) :
    IsTrimmed (escapeText s).toList := by
  rw [toList_escapeText]
  refine ⟨?_, ?_⟩
  · cases whole : s.toList with
    | nil => exact fun c hc => nomatch hc
    | cons c rest =>
      obtain ⟨some_, filled⟩ := filled_escapeTextChar (h.first c (by rw [whole]; rfl))
      rw [List.flatMap_cons, List.head?_append_of_ne_nil _ some_]
      exact fun d hd => filled d (List.mem_of_mem_head? hd)
  · rcases List.eq_nil_or_concat s.toList with whole | ⟨before, c, whole⟩
    · rw [whole]
      exact fun c hc => nomatch hc
    · obtain ⟨some_, filled⟩ := filled_escapeTextChar
        (h.last c (by rw [whole, List.concat_eq_append, List.getLast?_concat]; rfl))
      rw [whole, List.concat_eq_append, List.flatMap_append, List.flatMap_singleton,
        List.getLast?_append_of_ne_nil _ some_]
      exact fun d hd => filled d (List.mem_of_mem_getLast? hd)

end Componentry.Jsx

namespace Componentry.Node
open Componentry.Text Componentry.Jsx

/-- The comment that a node is rendered as. -/
def comment? (n : Node) : Option String :=
  if n.kind = .comment then some (trim n.textOrNone) else none

/-- A node can be written: an element has a name of elements and attributes of those given, and a
comment does not hold the end of a comment. -/
structure IsWritable (given : String → Prop) (attributes : Label → String) (n : Node) : Prop where
  name : n.kind = .element → isTagName n.tagOrNone = true
  given : n.kind = .element → given (attributes n.label)
  comment : n.kind = .comment → contains n.textOrNone commentEnd = false

/-- The node is an element or a fragment. -/
def holdsNodes (n : Node) : Bool := n.kind == .element || n.kind == .fragment

variable {given : String → Prop} {attributes : Label → String}

/-- Only a comment has a comment to write, trimmed. -/
theorem comment?_mk (label : Label) (children : List Node) :
    comment? (.mk label children) =
      if label.kind = .comment then some (trim (label.text.getD "")) else none :=
  rfl

/-- The comments on lines are a view of them. -/
theorem isView_comment? : IsView attributes (fun content => Line.comment? ⟨0, content⟩)
    fun label => comment? (.mk label []) where
  text _ := rfl
  ofText label kind := by simp [comment?_mk, kind]
  comment label kind := by simp [comment?_mk, kind, Line.comment?]
  fragment label kind := by simp [comment?_mk, kind, Line.comment?]
  opening label kind := by simp [comment?_mk, kind, Line.comment?]
  closed label kind := by simp [comment?_mk, kind, Line.comment?]
  closing _ := rfl
  fragmentEnd := rfl
  nothing := rfl

mutual
/-- A node that is rendered spells content, behind the columns of its first line, and one that
holds nodes an element. -/
theorem exists_core (level : Int) (first last : Bool) : ∀ n : Node, n.renders = true →
    (∀ m ∈ n.met, m.IsWritable given attributes) →
    ∃ core, spelled (n.lines attributes level first last) =
        '\n' :: (List.replicate (2 * level.toNat) ' ' ++ core) ∧
      IsContent given core ∧ (n.holdsNodes = true → IsElement given core)
  | .mk label children, rendered, writable => by
    -- One case for each kind; only an element and a fragment go on to their children.
    cases kind : label.kind with
    | text =>
      have filled := not_isBlankText_of_renders rendered kind
      refine ⟨_, ?_, isContent_textLine first last (label.text.getD ""), fun holds => ?_⟩
      · simp only [lines, kind, if_neg filled]
        exact spelled_singleton level _
      · rw [holdsNodes, Node.kind, Node.label, kind] at holds
        cases holds
    | comment =>
      have closed := (writable (.mk label children) (by simp [met, kind])).comment kind
      have comment := isComment_write_iff.2 ((contains_trim_commentEnd _).trans closed)
      refine ⟨_, ?_, .comment comment, fun holds => ?_⟩
      · simp only [lines, kind]
        exact spelled_singleton level _
      · rw [holdsNodes, Node.kind, Node.label, kind] at holds
        cases holds
    | fragment =>
      have inner := isContent_linesAll (level + 1) true children fun m hm =>
        writable m (by simp [met, kind, hm])
      have element : IsElement given _ :=
        .fragment (.append inner (isContent_margin (2 * level.toNat)))
      refine ⟨_, ?_, .element element, fun _ => element⟩
      simp only [lines, kind]
      exact spelled_bracketed level .fragmentStart .fragmentEnd _
    | element =>
      have self : (Node.mk label children).IsWritable given attributes := by
        refine writable _ ?_
        simp only [met, kind]
        split <;> exact List.mem_cons_self
      have closing : label.tag.getD "None" = openingTag label :=
        have named : IsNamed (.mk label children) := fun _ => ne_empty_of_isTagName (self.name kind)
        named.closingTag kind
      have name : isTagName (openingTag label) = true := by
        rw [openingTag, if_neg]
        · exact self.name kind
        · exact fun empty => ne_empty_of_isTagName (self.name kind) (beq_iff_eq.1 empty)
      simp only [lines, kind]
      split
      next =>
        have element : IsElement given _ := .closed name (self.given kind)
        exact ⟨_, spelled_singleton level _, .element element, fun _ => element⟩
      next opened =>
        have inner := isContent_linesAll (level + 1) true children fun m hm =>
          writable m (by simp [met, kind, opened, hm])
        have element : IsElement given _ := .nested name (self.given kind)
          (.append inner (isContent_margin (2 * level.toNat)))
        rw [closing]
        exact ⟨_, spelled_bracketed level _ _ _, .element element, fun _ => element⟩

/-- Nodes that stand side by side spell content. -/
theorem isContent_linesAll (level : Int) (first : Bool) : ∀ l : List Node,
    (∀ m ∈ metAll l, m.IsWritable given attributes) →
    IsContent given (spelled (linesAll attributes level first l))
  | [], _ => by
    rw [linesAll]
    exact .nil
  | n :: rest, writable => by
    rw [metAll] at writable
    rw [linesAll]
    split
    next rendered =>
      rw [if_pos rendered] at writable
      obtain ⟨core, spells, content, -⟩ := exists_core level first (!rest.any renders) n rendered
        fun m hm => writable m (List.mem_append_left _ hm)
      rw [spelled_append, spells, ← List.cons_append]
      exact .append (.append (isContent_margin _) content) (isContent_linesAll level false rest
        fun m hm => writable m (List.mem_append_right _ hm))
    next hidden =>
      rw [if_neg hidden] at writable
      exact isContent_linesAll level first rest writable
end

/-- A node can stand for a fragment: it is an element or a fragment, or the word for nothing. -/
def CanStandAlone (n : Node) : Prop :=
  n.holdsNodes = true ∨ n.kind = .text ∧ trim n.textOrNone = "null"

/-- The attributes of the elements that are rendered in a root. -/
def IsGiven (attributes : Label → String) (root : Node) (s : String) : Prop :=
  ∃ n ∈ root.metFromRoot, n.isElement = true ∧ attributes n.label = s

/-- What a root is rendered as is one expression, and each of its comments ends once. -/
structure IsSound (attributes : Label → String) (level : Int) (root : Node) : Prop where
  expression : IsExpression (IsGiven attributes root) (root.rendered attributes level)
  comments : ∀ line ∈ root.renderedLines attributes level, ∀ s, line.content = .comment s →
    IsComment line.content.write

/-- The only node that is rendered in a fragment can stand for it, and no comment that is rendered
holds the end of a comment. -/
structure IsFit (root : Node) : Prop where
  alone : root.kind = .fragment → ∀ n, root.children.filter renders = [n] → n.CanStandAlone
  comments : ∀ n ∈ root.metFromRoot, n.kind = .comment → contains n.textOrNone commentEnd = false

section
variable {root n : Node} {level : Int}

/-- A root stands for itself, but for a fragment in which at most one node is rendered. -/
theorem outermost?_cases (root : Node) :
    (root.outermost? = none ∧ root.kind = .fragment) ∨
      (root.outermost? = some root ∧ ∀ n, root.kind = .fragment →
        root.children.filter renders ≠ [n]) ∨
      ∃ n, root.outermost? = some n ∧ root.kind = .fragment ∧
        root.children.filter renders = [n] := by
  rw [outermost?]
  split
  next fragment =>
    split
    next => exact .inl ⟨rfl, beq_iff_eq.1 fragment⟩
    next n only => exact .inr (.inr ⟨n, rfl, beq_iff_eq.1 fragment, only⟩)
    next _ more => exact .inr (.inl ⟨rfl, fun n _ => more n⟩)
  next element =>
    exact .inr (.inl ⟨rfl, fun n fragment => absurd (beq_iff_eq.2 fragment) element⟩)

/-- What may hold nodes is rendered. -/
theorem renders_of_holdsNodes (h : n.holdsNodes = true) : n.renders = true := by
  rw [holdsNodes, Bool.or_eq_true, beq_iff_eq, beq_iff_eq] at h
  rcases h with h | h <;> simp [renders, h]

/-- The lines of a root for which a node with lines stands. -/
theorem renderedLines_of_outermost? (h : root.outermost? = some n) {lines : List Line}
    (spells : n.lines attributes level true true = lines) (some_ : lines ≠ []) :
    root.renderedLines attributes level = lines := by
  obtain ⟨line, rest, rfl⟩ := List.exists_cons_of_ne_nil some_
  rw [renderedLines, emitted_eq, h, Option.toList_some, List.flatMap_singleton, spells]

/-- What a root is rendered as is what the node that stands for it spells. -/
theorem trim_rendered (h : root.outermost? = some n) {core : List Char}
    (spells : spelled (n.lines attributes level true true) =
      '\n' :: (List.replicate (2 * level.toNat) ' ' ++ core)) (trimmed : IsTrimmed core) :
    trim (root.rendered attributes level) = String.ofList core := by
  have some_ : n.lines attributes level true true ≠ [] := by
    intro none_
    rw [none_] at spells
    cases spells
  have joined := lineFeed_cons_join some_
  rw [spells] at joined
  rw [rendered, renderedLines_of_outermost? h rfl some_, trim, (List.cons.inj joined).2,
    trimChars_append_left, trimChars_of_isTrimmed trimmed]
  exact fun c hc => List.eq_of_mem_replicate hc ▸ rfl

/-- Without anything rendered there is the word for nothing. -/
theorem trim_rendered_of_none (h : root.outermost? = none) :
    trim (root.rendered attributes level) = "null" := by
  have only : root.renderedLines attributes level = [⟨level, .nothing⟩] := by
    rw [renderedLines, emitted, h]
  have write : (Line.write ⟨level, .nothing⟩).toList = _ := toList_write _
  rw [rendered, only, List.map_singleton, join, trim, write, trimChars_append_left]
  · show String.ofList (trimChars "null".toList) = "null"
    decide
  · exact fun c hc => List.eq_of_mem_replicate hc ▸ rfl

/-- A text that stands alone spells its escaped text. -/
theorem spelled_lines_of_text (kind : n.kind = .text) (rendered : n.renders = true) :
    spelled (n.lines attributes level true true) =
      '\n' :: (List.replicate (2 * level.toNat) ' ' ++
        (escapeText (trim n.textOrNone)).toList) := by
  obtain ⟨label, children⟩ := n
  have kind : label.kind = .text := kind
  have filled := not_isBlankText_of_renders rendered kind
  have line : textLine true true (label.text.getD "") = escapeText (trim (label.text.getD "")) := by
    rw [textLine, Bool.not_true, Bool.false_and, Bool.false_and, if_neg Bool.false_ne_true,
      String.empty_append, String.append_empty]
  simp only [lines, kind, if_neg filled, line]
  exact spelled_singleton level _

/-- A comment spells itself. -/
theorem spelled_lines_of_comment (kind : n.kind = .comment) {first last : Bool} :
    spelled (n.lines attributes level first last) =
      '\n' :: (List.replicate (2 * level.toNat) ' ' ++
        (LineContent.comment (trim n.textOrNone)).write.toList) := by
  obtain ⟨label, children⟩ := n
  have kind : label.kind = .comment := kind
  simp only [lines, kind]
  exact spelled_singleton level _

/-- A trimmed text stays trimmed when it is escaped. -/
theorem isTrimmed_escapeText_trim (s : String) : IsTrimmed (escapeText (trim s)).toList := by
  refine isTrimmed_escapeText ?_
  rw [trim, String.toList_ofList]
  exact isTrimmed_trimChars _

/-- The outermost node of a sound page can stand alone. -/
theorem IsSound.canStandAlone (h : IsSound attributes level root)
    (outermost : root.outermost? = some n) (rendered : n.renders = true) : n.CanStandAlone := by
  have noElement {core : List Char} (spells : spelled (n.lines attributes level true true) =
      '\n' :: (List.replicate (2 * level.toNat) ' ' ++ core)) (trimmed : IsTrimmed core)
      (start : core.head? ≠ some '<') : String.ofList core = "null" := by
    have expression := h.expression
    rw [IsExpression, trim_rendered outermost spells trimmed, String.toList_ofList] at expression
    rcases expression with null | element
    · exact null
    · obtain ⟨inner, rfl⟩ := element.exists_inner
      exact absurd rfl start
  -- A text or a comment opens no element, so alone it has to be the word that stands for nothing.
  cases kind : n.kind with
  | element => exact .inl (by rw [holdsNodes, kind]; rfl)
  | fragment => exact .inl (by rw [holdsNodes, kind]; rfl)
  | text =>
    refine .inr ⟨kind, escapeText_eq_null_iff.1 ?_⟩
    rw [← String.ofList_toList (s := escapeText (trim n.textOrNone))]
    refine noElement (spelled_lines_of_text kind rendered) (isTrimmed_escapeText_trim _) ?_
    intro start
    exact not_mem_delimiters_of_mem_escapeText (List.mem_of_mem_head? start) (by decide)
  | comment =>
    have write (t : String) : (LineContent.comment t).write.toList =
        ['\x7b'] ++ ("/* " ++ t ++ " */").toList ++ ['\x7d'] := by
      simp [LineContent.write, String.toList_append]
    have null := noElement (spelled_lines_of_comment kind)
      (by
        rw [write]
        exact IsTrimmed.append (isTrimmed_of_no_blank (Lists.forall_mem_of_all (by decide)))
          (isTrimmed_of_no_blank (Lists.forall_mem_of_all (by decide))) (by decide) (by decide))
      (by rw [write]; simp)
    rw [String.ofList_toList, ← String.toList_inj, write] at null
    exact absurd (List.cons.inj null).1 (by decide)

end

/-- What is met from the root is met from the outermost node. -/
theorem metFromRoot_of_outermost? {root n : Node} (h : root.outermost? = some n) :
    root.metFromRoot = n.met := by
  rw [metFromRoot, h]

/-- The comments on the lines of a root are those among the nodes that are met from it. -/
theorem filterMap_comment?_renderedLines (attributes : Label → String) (level : Int) (root : Node) :
    (root.renderedLines attributes level).filterMap Line.comment? =
      root.metFromRoot.filterMap comment? :=
  isView_comment?.filterMap_renderedLines level root

/-- A line has a comment just when its content is one. -/
theorem comment?_eq_some {line : Line} {s : String} :
    line.comment? = some s ↔ line.content = .comment s := by
  rw [Line.comment?]
  cases line.content <;> simp

/-- The comments on the lines end once exactly when no comment met holds the end of a comment. -/
theorem comments_iff {root : Node} {level : Int} :
    (∀ line ∈ root.renderedLines attributes level, ∀ s, line.content = .comment s →
      IsComment line.content.write) ↔
    ∀ n ∈ root.metFromRoot, n.kind = .comment → contains n.textOrNone commentEnd = false := by
  constructor
  · intro lines n met kind
    have shown : trim n.textOrNone ∈ root.metFromRoot.filterMap comment? :=
      List.mem_filterMap.2 ⟨n, met, if_pos kind⟩
    rw [← filterMap_comment?_renderedLines attributes level] at shown
    obtain ⟨line, mem, comment⟩ := List.mem_filterMap.1 shown
    have content := comment?_eq_some.1 comment
    have closed := lines line mem _ content
    rwa [content, isComment_write_iff, contains_trim_commentEnd] at closed
  · intro nodes line mem s content
    have shown : s ∈ (root.renderedLines attributes level).filterMap Line.comment? :=
      List.mem_filterMap.2 ⟨line, mem, comment?_eq_some.2 content⟩
    rw [filterMap_comment?_renderedLines] at shown
    obtain ⟨n, met, comment⟩ := List.mem_filterMap.1 shown
    rw [comment?, Option.ite_none_right_eq_some, Option.some.injEq] at comment
    obtain ⟨kind, rfl⟩ := comment
    rw [content, isComment_write_iff, contains_trim_commentEnd]
    exact nodes n met kind

/-- What is one expression in which comments end once comes from a root that fits. -/
theorem IsSound.isFit {root : Node} {level : Int} (h : IsSound attributes level root) :
    IsFit root where
  alone fragment n only := by
    refine h.canStandAlone ?_ ?_
    · rw [outermost?, if_pos (beq_iff_eq.2 fragment), only]
    · exact (List.mem_filter.1 (only ▸ List.mem_singleton_self n)).2
  comments := comments_iff.1 h.comments

/-- A root that fits is rendered as one expression in which comments end once, if its elements have
names of elements. -/
theorem IsFit.isSound {root : Node} {level : Int} (fit : IsFit root)
    (kind : root.holdsNodes = true)
    (named : ∀ n ∈ root.metFromRoot, n.isElement = true → isTagName n.tagOrNone = true) :
    IsSound attributes level root := by
  refine ⟨?_, comments_iff.2 fit.comments⟩
  have writable : ∀ n ∈ root.metFromRoot, n.IsWritable (IsGiven attributes root) attributes :=
    fun n met =>
      { name := fun element => named n met (beq_iff_eq.2 element)
        given := fun element => ⟨n, met, beq_iff_eq.2 element, rfl⟩
        comment := fit.comments n met }
  have holding {n : Node} (outermost : root.outermost? = some n) (holds : n.holdsNodes = true) :
      IsExpression (IsGiven attributes root) (root.rendered attributes level) := by
    obtain ⟨core, spells, -, element⟩ := exists_core level true true n (renders_of_holdsNodes holds)
      (metFromRoot_of_outermost? outermost ▸ writable)
    refine .inr ?_
    rw [trim_rendered outermost spells (element holds).isTrimmed, String.toList_ofList]
    exact element holds
  -- Nothing is rendered, the root itself is, or a single node below a fragment is.
  rcases outermost?_cases root with ⟨none_, -⟩ | ⟨self, -⟩ | ⟨n, outermost, fragment, only⟩
  · exact .inl (trim_rendered_of_none none_)
  · exact holding self kind
  · rcases fit.alone fragment n only with holds | ⟨text, null⟩
    · exact holding outermost holds
    · have rendered : n.renders = true :=
        (List.mem_filter.1 (only ▸ List.mem_singleton_self n)).2
      refine .inl ?_
      rw [trim_rendered outermost (spelled_lines_of_text text rendered)
        (isTrimmed_escapeText_trim _), String.ofList_toList]
      exact escapeText_eq_null_iff.2 null

end Componentry.Node

namespace Componentry.Document
open Componentry.Text Componentry.Jsx Componentry.Node

/-- A page that was read is rendered as one expression in which comments end once only if its root
fits, and whenever it fits and its elements have names of elements. -/
theorem isSound_rendered {r : ReadOptions} {markup : Option String} {d : Document}
    (read : (Document.read r markup).result = .ok d) (attributes : Label → String) (level : Int) :
    (IsSound attributes level d.root → IsFit d.root) ∧
      ((∀ n ∈ d.root.metFromRoot, n.isElement = true → isTagName n.tagOrNone = true) →
        IsFit d.root → IsSound attributes level d.root) := by
  have kind : d.root.holdsNodes = true := by
    rw [holdsNodes, Bool.or_eq_true, beq_iff_eq, beq_iff_eq]
    exact kind_of_read read
  exact ⟨IsSound.isFit, fun named fit => fit.isSound kind named⟩

/-- A comment beside a paragraph with a line break. -/
theorem isSound_rendered_commentAndParagraph : ∃ d : Document,
    (Document.read { keepsComments := true } (some "<!-- a * b --><p>x<br></p>")).result = .ok d ∧
    IsSound (({} : SourceOptions).attributesOf Dict.empty) SourceOptions.bodyLevel d.root := by
  have known : ((Document.read { keepsComments := true }
      (some "<!-- a * b --><p>x<br></p>")).result.toOption.map fun d =>
        (d.root.metFromRoot.map fun n => (n.kind, n.tagOrNone, n.textOrNone),
          (d.root.children.filter renders).length)) =
      some ([(.fragment, "", ""), (.comment, "", " a * b "), (.element, "p", ""), (.text, "", "x"),
        (.element, "br", "")], 2) := by decide +kernel
  obtain ⟨d, read, known⟩ := exists_ok_of_toOption_map known
  obtain ⟨met, two⟩ := Prod.mk.inj known
  have among {p : NodeKind × String × String → Bool} (each : [(NodeKind.fragment, "", ""),
      (.comment, "", " a * b "), (.element, "p", ""), (.text, "", "x"),
      (.element, "br", "")].all p = true) :
      ∀ n ∈ d.root.metFromRoot, p (n.kind, n.tagOrNone, n.textOrNone) = true := fun n hn =>
    List.all_eq_true.1 each _ (met ▸ List.mem_map_of_mem hn)
  refine ⟨d, read, (isSound_rendered read _ _).2 ?_ ⟨?_, ?_⟩⟩
  · intro n hn element
    have each := among (p := fun x => x.1 != .element || isTagName x.2.1) (by decide) n hn
    rw [Bool.or_eq_true, bne_iff_ne] at each
    exact each.resolve_left fun other => other (beq_iff_eq.1 element)
  · intro _ n only
    rw [only] at two
    cases two
  · intro n hn comment
    have each := among (p := fun x => x.1 != .comment || !contains x.2.2 commentEnd) (by decide)
      n hn
    rw [Bool.or_eq_true, bne_iff_ne, Bool.not_eq_true'] at each
    exact each.resolve_left fun other => other comment

/-- A text that is all of a page is rendered as it is. -/
theorem text_alone_is_no_expression : ∃ d : Document,
    (Document.read {} (some "hello")).result = .ok d ∧
    (({} : SourceOptions).render Dict.empty SourceOptions.bodyLevel d.root).text = "    hello" ∧
    ¬ IsSound (({} : SourceOptions).attributesOf Dict.empty) SourceOptions.bodyLevel d.root := by
  have known : ((Document.read {} (some "hello")).result.toOption.map fun d =>
      ((({} : SourceOptions).render Dict.empty SourceOptions.bodyLevel d.root).text, d.root.kind,
        (d.root.children.filter renders).map fun n => (n.kind, n.textOrNone))) =
      some ("    hello", .fragment, [(.text, "hello")]) := by decide +kernel
  obtain ⟨d, read, known⟩ := exists_ok_of_toOption_map known
  obtain ⟨shown, known⟩ := Prod.mk.inj known
  obtain ⟨fragment, known⟩ := Prod.mk.inj known
  refine ⟨d, read, shown, fun sound => ?_⟩
  obtain ⟨n, only, known⟩ := List.map_eq_singleton_iff.1 known
  obtain ⟨kind, text⟩ := Prod.mk.inj known
  rcases sound.isFit.alone fragment n only with holds | ⟨-, null⟩
  · rw [holdsNodes, kind] at holds
    cases holds
  · rw [text] at null
    exact absurd null (by decide)

end Componentry.Document
