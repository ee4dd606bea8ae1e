import Componentry.Proofs.Document.Reading
import Componentry.Proofs.Document.Rereading
import Componentry.Proofs.Document.Tidy
import Componentry.Proofs.Outcome

/-!
# Pages that are written for an element

What is written for an element is a page of its own. Its tree holds this element and nothing else,
and no part of it is taken for the frame of a page, so reading the page gives the element as the
root: rendering an element and reading what was rendered loses nothing but comments.
-/

set_option autoImplicit false

namespace Componentry.Markup

mutual
/-- The places of a tree are places of its elements. -/
theorem Place.toTree_mem_of_mem_placesOf {enters : Tag → Bool} {parent p : Place}
    {before after : List Tree} : ∀ {t : Tree}, p ∈ placesOf enters parent before after t →
    p.toTree ∈ t.elements
  | .string kind text, h => by
    rw [placesOf] at h
    exact absurd h List.not_mem_nil
  | .element tag children, h => by
    rw [placesOf] at h
    rw [Tree.elements]
    rcases List.mem_cons.1 h with rfl | h
    · exact List.mem_cons_self
    · split at h
      · exact List.mem_cons_of_mem _ (toTree_mem_of_mem_placesIn h)
      · exact absurd h List.not_mem_nil

/-- The places of siblings are places of elements in them. -/
theorem Place.toTree_mem_of_mem_placesIn {enters : Tag → Bool} {parent p : Place}
    {before : List Tree} : ∀ {l : List Tree}, p ∈ placesIn enters parent before l →
    p.toTree ∈ Tree.elementsIn l
  | [], h => by
    rw [placesIn] at h
    exact absurd h List.not_mem_nil
  | t :: rest, h => by
    rw [placesIn] at h
    rw [Tree.elementsIn, List.mem_append]
    exact (List.mem_append.1 h).imp toTree_mem_of_mem_placesOf toTree_mem_of_mem_placesIn
end

end Componentry.Markup

namespace Componentry.PageSection

/-- Without rules no selector is read, so sections are found in every page. -/
theorem exists_candidates (unreadable : Unreadable) (l : List Node) :
    ∃ found, candidates [] unreadable l = (unreadable, .ok found) := by
  induction l with
  | nil => exact ⟨[], rfl⟩
  | cons n rest ih =>
    obtain ⟨found, behind⟩ := ih
    rw [candidates, ruleFor]
    dsimp only
    rw [behind]
    exact ⟨_, rfl⟩

/-- Without rules the sections of every page are found. -/
theorem exists_analyze (root : Node) :
    ∃ sections, (analyze root []).result = .ok sections := by
  obtain ⟨found, candidates⟩ := exists_candidates [] root.elements
  rw [analyze, candidates]
  exact ⟨outermost found, rfl⟩

end Componentry.PageSection

namespace Componentry.Document
open Componentry.Text Componentry.Markup Componentry.Markup.Builder Componentry.Node

/-- A report of progress never fails. -/
theorem result_report (o : ReadOptions) (p : Progress) : (report o p).result = .ok () := by
  unfold report
  split <;> rfl

/-- A page is read when its tree has a root and sections are found in it. -/
theorem read_of_readRoot? {o : ReadOptions} {text : String} {tree : Tree} {root : Node}
    {sections : List PageSection} (filled : trim text ≠ "")
    (parsed : Tree.parse (trim text) = .ok tree)
    (found : readRoot? o ((Place.ofTree tree).getD default) = some root)
    (analyzed : (PageSection.analyze root o.rules).result = .ok sections) :
    (read o (some text)).result =
      .ok ⟨root, tally (describe (trim text) tree) root, sections⟩ := by
  rw [read, if_neg (by simpa using filled)]
  refine Outcome.result_bind_eq_ok.2 ⟨(), result_report o _, ?_⟩
  refine Outcome.result_bind_eq_ok.2 ⟨tree, parsed, ?_⟩
  dsimp only
  rw [found]
  refine Outcome.result_bind_eq_ok.2 ⟨(), result_report o _, ?_⟩
  refine Outcome.result_bind_eq_ok.2 ⟨sections, analyzed, ?_⟩
  exact Outcome.result_bind_eq_ok.2 ⟨(), result_report o _, rfl⟩

/-- What shows of a page whose tree has one element at its top, and nothing that a page is looked
for in, is this element. -/
theorem shown_of_single (whole : Tag) {tag : Tag} {children : List Tree}
    (plain : ∀ e ∈ (Tree.element tag children).elements, ∀ pageName ∈ pageNames,
      e.isNamed pageName = false) :
    shown (.top whole [.element tag children]) =
      (.top whole [.element tag children], [⟨[], .element tag children, []⟩]) := by
  have missing : ∀ pageName ∈ pageNames,
      (Place.top whole [.element tag children]).descendants.find?
        (fun p => p.tag.name == pageName) = none := by
    intro pageName mem
    rw [List.find?_eq_none]
    intro p hp named
    have inside : p.toTree ∈ Tree.elementsIn [.element tag children] :=
      Place.toTree_mem_of_mem_placesIn hp
    rw [Tree.elementsIn, Tree.elementsIn, List.append_nil] at inside
    have other := plain _ inside pageName mem
    rw [Place.toTree, Tree.isNamed, named] at other
    cases other
  have head : (Tree.element tag children).isNamed "head" = false :=
    plain _ (by rw [Tree.elements]; exact List.mem_cons_self) "head" (by decide)
  unfold shown
  dsimp only
  rw [missing "body" (by decide), missing "html" (by decide)]
  simp only [Option.getD_none, Place.children, slotsFrom, List.filter_cons, head, Bool.not_false,
    if_true, List.filter_nil]

/-- What is written for an element goes from bracket to bracket. -/
theorem exists_brackets {n : Node} (h : IsRestorable n) (element : n.isElement = true) :
    ∃ s, n.write.toList = '<' :: (s ++ ['>']) := by
  have isElement := beq_iff_eq.1 element
  cases h with
  | text text => exact absurd (isElement.symm.trans text) (by decide)
  | comment comment => exact absurd (isElement.symm.trans comment) (by decide)
  | @element label children name kind tag text named other plain void attributes =>
    have start := toList_startTag tag (areNamed_of_isExtracted attributes)
    simp only [write, writeIn, kind]
    split
    · rw [start, ← List.append_assoc]
      exact ⟨_, rfl⟩
    · refine ⟨name.toList ++ (spaced label.attributes.toMarkup.entries ++ ['>']) ++
        (writeAllIn (isRaw label) children).toList ++ '<' :: '/' :: name.toList, ?_⟩
      rw [String.toList_append, String.toList_append, start, toList_endTag tag]
      simp

/-- What is read for a node that is no comment is one node. -/
theorem exists_node_of_isReadAs {n : Node} {t : Tree} (h : IsReadAs n t) (other : n.kind ≠ .comment)
    (parent : Place) (before after : List Tree) (depth number : Nat) :
    ∃ m, (readOne {} parent before after depth number t).1 = some m ∧
      Matches n.withoutComments m := by
  have one : withoutCommentsAll [n] = [n.withoutComments] := by
    rw [withoutCommentsAll, if_neg (by simpa using other), withoutCommentsAll]
  have nodes := h.node parent before after depth number
  rw [one] at nodes
  cases found : (readOne {} parent before after depth number t).1 with
  | none =>
    rw [found] at nodes
    cases nodes
  | some m =>
    rw [found] at nodes
    cases nodes with
    | cons same _ => exact ⟨m, rfl, same⟩

/-- The tree that is read as an element is one. -/
theorem exists_element_of_isReadAs {n : Node} {t : Tree} (h : IsReadAs n t)
    (element : n.isElement = true) : ∃ tag children, t = .element tag children := by
  have isElement := beq_iff_eq.1 element
  cases t with
  | element tag children => exact ⟨tag, children, rfl⟩
  | string kind text =>
    have other : n.kind ≠ .comment := by
      rw [isElement]
      decide
    obtain ⟨m, found, same⟩ := exists_node_of_isReadAs h other default [] [] 0 0
    obtain ⟨label, children⟩ := n
    rw [withoutComments] at same
    rw [readOne] at found
    split at found
    · cases found
      cases same with
      | mk kind =>
        rw [show label.kind = .element from isElement, stringLabel] at kind
        dsimp only at kind
        split at kind <;> cases kind
    · cases found

/-- An element at the top of a page, read as a node that is no comment, is its root. -/
theorem readRoot?_of_isReadAs {n : Node} {tag : Tag} {children : List Tree} (whole : Tag)
    (h : IsReadAs n (.element tag children)) (other : n.kind ≠ .comment) :
    ∃ root, readRoot? {} (.top whole [.element tag children]) = some root ∧
      Matches n.withoutComments root := by
  obtain ⟨root, found, same⟩ :=
    exists_node_of_isReadAs h other (.top whole [.element tag children]) [] [] 0 0
  have shows := shown_of_single whole h.names
  have only : keptSlots {} (.top whole [.element tag children]) =
      [⟨[], .element tag children, []⟩] := by
    rw [keptSlots, shows]
    rfl
  refine ⟨root, ?_, same⟩
  rw [readRoot?_of_element only, shows]
  exact found

section
variable {n : Node} (h : IsRestorable n) (element : n.isElement = true)
include h element

/-- Nothing is trimmed off what is written for an element. -/
theorem trim_write : trim n.write = n.write := by
  obtain ⟨s, brackets⟩ := exists_brackets h element
  have ends : IsTrimmed n.write.toList := by
    rw [brackets]
    refine ⟨fun c hc => ?_, fun c hc => ?_⟩
    · obtain rfl := Option.mem_some_iff.1 hc
      decide
    · rw [← List.cons_append, List.getLast?_concat] at hc
      obtain rfl := Option.mem_some_iff.1 hc
      decide
  rw [trim, trimChars_of_isTrimmed ends, String.ofList_toList]

/-- The tree of what is written for an element has this element at its top. -/
theorem exists_parse_write : ∃ tag children,
    Tree.parse n.write = .ok (.element ⟨documentName, Dict.empty⟩ [.element tag children]) ∧
      IsReadAs n (.element tag children) := by
  obtain ⟨tokens, t, scans, took, -, readAs⟩ := isRebuilt_of_isRestorable h start []
    (fun _ mem => absurd mem List.not_mem_nil) fun text =>
      absurd ((beq_iff_eq.1 element).symm.trans text) (by decide)
  obtain ⟨tag, children, rfl⟩ := exists_element_of_isReadAs readAs element
  refine ⟨tag, children, ?_, readAs⟩
  rw [List.append_nil] at scans
  have whole : Token.scan n.write.toList = .ok tokens := scans.scan_eq
  rw [Tree.parse, whole]
  exact congrArg Except.ok (done_of_took took)

/-- Rendering an element and reading the page that was rendered gives the element again, with its
comments left out: the same kinds, names, texts and order of children, and attributes that say the
same unless a class is blank or the names of a style are not ASCII. -/
theorem written_element_is_read_again :
    ∃ d, (read {} (some n.write)).result = .ok d ∧ Matches n.withoutComments d.root := by
  have other : n.kind ≠ .comment := by
    rw [beq_iff_eq.1 element]
    decide
  obtain ⟨tag, children, parsed, readAs⟩ := exists_parse_write h element
  obtain ⟨root, found, same⟩ := readRoot?_of_isReadAs ⟨documentName, Dict.empty⟩ readAs other
  obtain ⟨sections, analyzed⟩ := PageSection.exists_analyze root
  have filled : n.write ≠ "" := by
    obtain ⟨s, brackets⟩ := exists_brackets h element
    intro empty
    rw [empty] at brackets
    cases brackets
  rw [← trim_write h element] at parsed filled
  exact ⟨_, read_of_readRoot? filled parsed found analyzed, same⟩

end

/-- A navigation with a class, a switch, a style and a handler, and in it a text with marks in it,
a line break, a comment and an item. -/
def markedNavigation : Node :=
  .mk { id := "node-0", kind := .element, tag := some "nav",
        attributes := Attributes.ofTag (tagOf "nav" [("class", "main  open"), ("hidden", ""),
          ("style", "font-size: 2em; Color: \"red\""), ("onclick", "go('a')")]) }
    [.mk { id := "node-1", kind := .text, text := some "a < b & \"c\"", depth := 1 } [],
     .mk { id := "node-2", kind := .element, tag := some "br", depth := 1,
           attributes := Attributes.ofTag (tagOf "br" []) } [],
     .mk { id := "node-3", kind := .comment, text := some " d -- e ", depth := 1 } [],
     .mk { id := "node-4", kind := .element, tag := some "li", depth := 1,
           attributes := Attributes.ofTag (tagOf "li" [("for", "x"), ("data-y", "&amp;")]) }
       [.mk { id := "node-5", kind := .text, text := some "f", depth := 2 } []]]

/-- The navigation is restored from its markup, without its comment. -/
theorem written_element_is_read_again_marked : IsRestorable markedNavigation ∧
    markedNavigation.isElement = true ∧
    ∃ d, (read {} (some markedNavigation.write)).result = .ok d ∧
      Matches markedNavigation.withoutComments d.root := by
  have item : IsRestorable (markedNavigation.children[3]) :=
    .element rfl rfl rfl (by decide) (by decide) (by decide) (by decide) ⟨_, by decide, rfl⟩
      (List.isChain_singleton _) (by
        intro c hc
        obtain rfl := List.mem_singleton.1 hc
        exact .text rfl rfl rfl (by decide))
  have restorable : IsRestorable markedNavigation := by
    refine .element rfl rfl rfl (by decide) (by decide) (by decide) (by decide)
      ⟨_, by decide, rfl⟩ (by simp [StandApart, Node.kind, Node.label]) fun c hc => ?_
    simp only [List.mem_cons, List.not_mem_nil, or_false] at hc
    rcases hc with rfl | rfl | rfl | rfl
    · exact .text rfl rfl rfl (by decide)
    · exact .element rfl rfl rfl (by decide) (by decide) (by decide) (fun _ => rfl)
        ⟨_, by decide, rfl⟩ .nil fun _ mem => absurd mem List.not_mem_nil
    · exact .comment rfl rfl (by decide)
    · exact item
  exact ⟨restorable, rfl, written_element_is_read_again restorable rfl⟩

/-- A comment that was asked for is rendered, and lost when what was rendered is read. -/
theorem comment_is_not_read_again : ∃ d again,
    (read { keepsComments := true } (some "<nav>x<!--c--></nav>")).result = .ok d ∧
    (read {} (some d.root.write)).result = .ok again ∧ ¬Matches d.root again.root := by
  have first : (read { keepsComments := true } (some "<nav>x<!--c--></nav>")).result.toOption.map
      (fun d => (d.root.write, d.root.children.length)) =
        some ("<nav>x<!--c--></nav>", 2) := by decide +kernel
  have second : (read {} (some "<nav>x<!--c--></nav>")).result.toOption.map
      (fun d => d.root.children.length) = some 1 := by decide +kernel
  obtain ⟨d, built, facts⟩ := exists_ok_of_toOption_map first
  obtain ⟨again, reread, one⟩ := exists_ok_of_toOption_map second
  obtain ⟨written, two⟩ := Prod.mk.inj facts
  refine ⟨d, again, built, by rw [written]; exact reread, fun same => ?_⟩
  rcases root : d.root with ⟨label, children⟩
  rcases root' : again.root with ⟨label', others⟩
  rw [root, root'] at same
  rw [root] at two
  rw [root'] at one
  cases same with
  | mk _ _ _ _ below =>
    have lengths := below.length_eq
    rw [show children.length = 2 from two, show others.length = 1 from one] at lengths
    exact absurd lengths (by decide)

end Componentry.Document
