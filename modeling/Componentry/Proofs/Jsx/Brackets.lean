import Componentry.Proofs.Document.Walk
import Componentry.Proofs.Jsx.Emission
import Mathlib.Data.List.Forall2

/-!
# Brackets of rendered lines

The lines of a node are bracketed: every line that opens an element or a fragment has a line of its
own that closes it, with the same name and at the same level, and what stands between the two lies
one level deeper. Reading the brackets gives back the tree of the rendered nodes. It has each of
them once, in their order; only what is inside an element that is closed where it opens is missing.
-/

set_option autoImplicit false

namespace Componentry.Jsx

/-- Lines at a level, in which every opening line has its own closing line. -/
inductive IsBracketed : Int → List Line → Prop where
  | nil (level : Int) : IsBracketed level []
  | text (level : Int) (s : String) : IsBracketed level [⟨level, .text s⟩]
  | comment (level : Int) (s : String) : IsBracketed level [⟨level, .comment s⟩]
  | closed (level : Int) (tag attributes : String) :
      IsBracketed level [⟨level, .closed tag attributes⟩]
  | nested (level : Int) (tag attributes : String) {inner : List Line} :
      IsBracketed (level + 1) inner →
      IsBracketed level (⟨level, .opening tag attributes⟩ :: inner ++ [⟨level, .closing tag⟩])
  | fragment (level : Int) {inner : List Line} :
      IsBracketed (level + 1) inner →
      IsBracketed level (⟨level, .fragmentStart⟩ :: inner ++ [⟨level, .fragmentEnd⟩])
  | append {level : Int} {l m : List Line} :
      IsBracketed level l → IsBracketed level m → IsBracketed level (l ++ m)

/-- What lines spell: texts, comments, elements that are closed where they open, and those that hold
others, as fragments do. -/
inductive Shown where
  | text (s : String)
  | comment (s : String)
  | closed (tag attributes : String)
  | nested (tag attributes : String) (inner : List Shown)
  | fragment (inner : List Shown)

/-- An opening line whose closing line has not been read: what stands before it, its level, and the
name and the attributes of its element, which a fragment does not have. -/
structure Opened where
  before : List Shown
  level : Int
  element : Option (String × String)

/-- What an opening line becomes with what stands behind it, once its closing line is read. -/
def Opened.whole (o : Opened) (inner : List Shown) : Shown :=
  match o.element with
  | some (tag, attributes) => .nested tag attributes inner
  | none => .fragment inner

/-- What has been read: the opening lines, the innermost first, and what stands behind the
innermost. -/
structure Reading where
  opened : List Opened := []
  shown : List Shown := []

namespace Reading

/-- Goes on with something that has been read as a whole. -/
def add (r : Reading) (more : List Shown) : Reading := { r with shown := r.shown ++ more }

/-- Reads an opening line. -/
def enter (r : Reading) (level : Int) (element : Option (String × String)) : Reading :=
  { opened := ⟨r.shown, level, element⟩ :: r.opened }

/-- Reads a closing line: it belongs to the innermost opening line, which has to have its level and
its name. -/
def leave? (r : Reading) (level : Int) (tag : Option String) : Option Reading :=
  match r.opened with
  | [] => none
  | o :: outer =>
    if o.level = level ∧ o.element.map Prod.fst = tag then
      some { opened := outer, shown := o.before ++ [o.whole r.shown] }
    else none

/-- Reads a line. -/
def line? (r : Reading) (l : Line) : Option Reading :=
  match l.content with
  | .nothing => none
  | .text s => some (r.add [.text s])
  | .comment s => some (r.add [.comment s])
  | .closed tag attributes => some (r.add [.closed tag attributes])
  | .opening tag attributes => some (r.enter l.level (some (tag, attributes)))
  | .fragmentStart => some (r.enter l.level none)
  | .closing tag => r.leave? l.level (some tag)
  | .fragmentEnd => r.leave? l.level none

/-- What was read, once every opening line has its closing line. -/
def whole? (r : Reading) : Option (List Shown) := if r.opened.isEmpty then some r.shown else none

/-- To add nothing changes no reading. -/
theorem add_nil (r : Reading) : r.add [] = r := by
  rw [add, List.append_nil]

/-- To add twice is to add together. -/
theorem add_add (r : Reading) (l m : List Shown) : (r.add l).add m = r.add (l ++ m) := by
  rw [add, add, add, List.append_assoc]

/-- What stands between an opening line and its closing line becomes one with them. -/
theorem leave?_nested (r : Reading) (level : Int) (tag attributes : String) (inner : List Shown) :
    ((r.enter level (some (tag, attributes))).add inner).leave? level (some tag) =
      some (r.add [.nested tag attributes inner]) :=
  if_pos ⟨rfl, rfl⟩

/-- A fragment is left with what was read inside it. -/
theorem leave?_fragment (r : Reading) (level : Int) (inner : List Shown) :
    ((r.enter level none).add inner).leave? level none = some (r.add [.fragment inner]) :=
  if_pos ⟨rfl, rfl⟩

end Reading

/-- Reads lines, if their brackets fit. -/
def readLines? (lines : List Line) : Option (List Shown) :=
  (lines.foldlM Reading.line? {}).bind Reading.whole?

end Componentry.Jsx

namespace Componentry.Node
open Componentry.Text Componentry.Jsx

variable {attributes : Label → String}

/-- A node shows as a tree: it stands at the top, and the nodes rendered in it show as what is
inside, one after the other. Nothing is inside an element that is closed where it opens. -/
inductive Shows (attributes : Label → String) : Node → Shown → Prop where
  | text {label : Label} {children : List Node} (first last : Bool) : label.kind = .text →
      Shows attributes (.mk label children) (.text (textLine first last (label.text.getD "")))
  | comment {label : Label} {children : List Node} : label.kind = .comment →
      Shows attributes (.mk label children) (.comment (trim (label.text.getD "")))
  | closed {label : Label} {children : List Node} : label.kind = .element →
      closesAtOnce label children = true →
      Shows attributes (.mk label children) (.closed (openingTag label) (attributes label))
  | nested {label : Label} {children : List Node} {inner : List Shown} : label.kind = .element →
      closesAtOnce label children = false →
      List.Forall₂ (Shows attributes) (children.filter renders) inner →
      Shows attributes (.mk label children) (.nested (openingTag label) (attributes label) inner)
  | fragment {label : Label} {children : List Node} {inner : List Shown} : label.kind = .fragment →
      List.Forall₂ (Shows attributes) (children.filter renders) inner →
      Shows attributes (.mk label children) (.fragment inner)

/-- A node that has a name if it is an element. -/
def IsNamed (n : Node) : Prop := n.isElement = true → n.tagOrNone ≠ ""

instance (n : Node) : Decidable n.IsNamed :=
  inferInstanceAs (Decidable (n.isElement = true → n.tagOrNone ≠ ""))

/-- An element with a name opens with the name that it closes with. -/
theorem IsNamed.closingTag {label : Label} {children : List Node}
    (h : IsNamed (.mk label children)) (kind : label.kind = .element) :
    label.tag.getD "None" = openingTag label := by
  have named : label.tag.getD "" ≠ "" := h (beq_iff_eq.2 kind)
  cases tag : label.tag with
  | none =>
    rw [tag] at named
    exact absurd rfl named
  | some name =>
    rw [tag] at named
    rw [openingTag, tag]
    exact (if_neg fun empty => named (beq_iff_eq.1 empty)).symm

mutual
/-- The lines of a node are bracketed. -/
theorem isBracketed_lines (level : Int) (first last : Bool) : ∀ n : Node,
    (∀ m ∈ n.preorder, m.IsNamed) → IsBracketed level (n.lines attributes level first last)
  | .mk label children, named => by
    have below : ∀ m ∈ preorderAll children, m.IsNamed := fun m hm =>
      named m (by rw [preorder_mk]; exact List.mem_cons_of_mem _ hm)
    have inner := isBracketed_linesAll (level + 1) true children below
    cases kind : label.kind with
    | text =>
      simp only [lines, kind]
      split
      · exact .nil level
      · exact .text level _
    | comment =>
      simp only [lines, kind]
      exact .comment level _
    | fragment =>
      simp only [lines, kind]
      exact .fragment level inner
    | element =>
      simp only [lines, kind]
      split
      · exact .closed level _ _
      · rw [(named _ (mem_preorder_self _)).closingTag kind]
        exact .nested level _ _ inner

/-- The lines of nodes that stand side by side are bracketed. -/
theorem isBracketed_linesAll (level : Int) (first : Bool) : ∀ l : List Node,
    (∀ m ∈ preorderAll l, m.IsNamed) → IsBracketed level (linesAll attributes level first l)
  | [], _ => by
    rw [linesAll]
    exact .nil level
  | n :: rest, named => by
    have here : ∀ m ∈ n.preorder, m.IsNamed := fun m hm =>
      named m (by rw [preorderAll_cons]; exact List.mem_append_left _ hm)
    have others : ∀ m ∈ preorderAll rest, m.IsNamed := fun m hm =>
      named m (by rw [preorderAll_cons]; exact List.mem_append_right _ hm)
    rw [linesAll]
    split
    · exact .append (isBracketed_lines level first _ n here)
        (isBracketed_linesAll level false rest others)
    · exact isBracketed_linesAll level first rest others
end

/-- A text that is rendered is not blank. -/
theorem not_isBlankText_of_renders {label : Label} {children : List Node}
    (rendered : (Node.mk label children).renders = true) (kind : label.kind = .text) :
    ¬ isBlankText (label.text.getD "") = true := by
  rw [renders, Bool.or_eq_true, bne_iff_ne] at rendered
  rcases rendered with other | filled
  · exact absurd kind other
  · rwa [Bool.not_eq_true', ← Bool.not_eq_true] at filled

mutual
/-- Reading the lines of a rendered node adds the tree that the node shows as. -/
theorem exists_shown (level : Int) (first last : Bool) : ∀ n : Node,
    (∀ m ∈ n.preorder, m.IsNamed) → n.renders = true →
    ∃ s, Shows attributes n s ∧
      ∀ r : Reading, (n.lines attributes level first last).foldlM Reading.line? r =
        some (r.add [s])
  | .mk label children, named, rendered => by
    have below : ∀ m ∈ preorderAll children, m.IsNamed := fun m hm =>
      named m (by rw [preorder_mk]; exact List.mem_cons_of_mem _ hm)
    obtain ⟨inner, shows, read⟩ := exists_shownAll (level + 1) true children below
    -- A text and a comment are read by their line; the others open, hold what is inside and close.
    cases kind : label.kind with
    | text =>
      have filled := not_isBlankText_of_renders rendered kind
      refine ⟨_, .text first last kind, fun r => ?_⟩
      simp only [lines, kind, if_neg filled]
      rfl
    | comment =>
      refine ⟨_, .comment kind, fun r => ?_⟩
      simp only [lines, kind]
      rfl
    | fragment =>
      refine ⟨_, .fragment kind shows, fun r => ?_⟩
      simp only [lines, kind, List.cons_append, List.foldlM_cons, List.foldlM_append, Reading.line?,
        Option.bind_eq_bind, Option.bind_some, read, List.foldlM_nil, Reading.leave?_fragment]
      rfl
    | element =>
      cases closes : closesAtOnce label children with
      | true =>
        refine ⟨_, .closed kind closes, fun r => ?_⟩
        simp only [lines, kind, closes, if_true]
        rfl
      | false =>
        refine ⟨_, .nested kind closes shows, fun r => ?_⟩
        have tag := (named _ (mem_preorder_self _)).closingTag kind
        simp only [lines, kind, closes, Bool.false_eq_true, if_false, tag, List.cons_append,
          List.foldlM_cons, List.foldlM_append, Reading.line?, Option.bind_eq_bind,
          Option.bind_some, read, List.foldlM_nil, Reading.leave?_nested]
        rfl

/-- Reading the lines of nodes that stand side by side adds the trees of the rendered ones. -/
theorem exists_shownAll (level : Int) (first : Bool) : ∀ l : List Node,
    (∀ m ∈ preorderAll l, m.IsNamed) →
    ∃ inner, List.Forall₂ (Shows attributes) (l.filter renders) inner ∧
      ∀ r : Reading, (linesAll attributes level first l).foldlM Reading.line? r =
        some (r.add inner)
  | [], _ => by
    refine ⟨[], .nil, fun r => ?_⟩
    rw [linesAll, Reading.add_nil]
    rfl
  | n :: rest, named => by
    have here : ∀ m ∈ n.preorder, m.IsNamed := fun m hm =>
      named m (by rw [preorderAll_cons]; exact List.mem_append_left _ hm)
    have others : ∀ m ∈ preorderAll rest, m.IsNamed := fun m hm =>
      named m (by rw [preorderAll_cons]; exact List.mem_append_right _ hm)
    by_cases rendered : n.renders = true
    · obtain ⟨s, shows, read⟩ := exists_shown level first (!rest.any renders) n here rendered
      obtain ⟨inner, more, readMore⟩ := exists_shownAll level false rest others
      refine ⟨s :: inner, ?_, fun r => ?_⟩
      · rw [List.filter_cons, if_pos rendered]
        exact .cons shows more
      · rw [linesAll, if_pos rendered, List.foldlM_append, read, Option.bind_eq_bind,
          Option.bind_some, readMore, Reading.add_add, List.singleton_append]
    · obtain ⟨inner, more, readMore⟩ := exists_shownAll level first rest others
      refine ⟨inner, ?_, fun r => ?_⟩
      · rw [List.filter_cons, if_neg rendered]
        exact more
      · rw [linesAll, if_neg rendered, readMore]
end

/-- A node that is not rendered has no lines. -/
theorem lines_of_not_renders {level : Int} {first last : Bool} {n : Node}
    (hidden : ¬ n.renders = true) : n.lines attributes level first last = [] := by
  obtain ⟨label, children⟩ := n
  rw [renders, Bool.or_eq_true, not_or, bne_iff_ne, Decidable.not_not, Bool.not_eq_true',
    Bool.not_eq_false] at hidden
  obtain ⟨text, blank⟩ := hidden
  have kind : label.kind = .text := text
  simp only [lines, kind]
  exact if_pos blank

/-- What stands for a root is met from the root. -/
theorem mem_preorder_of_outermost? {root n : Node} (h : root.outermost? = some n) :
    n ∈ root.preorder := by
  obtain ⟨label, children⟩ := root
  rw [outermost?] at h
  split at h
  · split at h
    next => cases h
    next only =>
      cases h
      have child : n ∈ children.filter renders := only ▸ List.mem_singleton_self n
      rw [preorder_mk]
      exact List.mem_cons_of_mem _
        (mem_preorderAll.2 ⟨n, List.mem_of_mem_filter child, mem_preorder_self n⟩)
    next =>
      cases h
      exact mem_preorder_self _
  · cases h
    exact mem_preorder_self _

/-- The loop that puts out lines puts out those that the recursion over nodes gives. They are
bracketed, and reading the brackets gives back the rendered node that stands for the root, with the
rendered nodes in it. -/
theorem emitted_is_recursive_and_read (attributes : Label → String) (level : Int) (root : Node)
    (named : ∀ n ∈ root.preorder, n.IsNamed) :
    root.emitted attributes level =
      root.outermost?.toList.flatMap (lines attributes level true true) ∧
    IsBracketed level (root.emitted attributes level) ∧
    ∃ shown, readLines? (root.emitted attributes level) = some shown ∧
      List.Forall₂ (Shows attributes) (root.outermost?.toList.filter renders) shown := by
  refine ⟨emitted_eq attributes level root, ?_⟩
  rw [emitted_eq]
  cases outermost : root.outermost? with
  | none => exact ⟨.nil level, [], rfl, .nil⟩
  | some n =>
    have inside : ∀ m ∈ n.preorder, m.IsNamed := fun m hm =>
      named m (mem_preorder_trans hm _ (mem_preorder_of_outermost? outermost))
    rw [Option.toList_some, List.flatMap_singleton]
    refine ⟨isBracketed_lines level true true n inside, ?_⟩
    by_cases rendered : n.renders = true
    · obtain ⟨s, shows, read⟩ := exists_shown level true true n inside rendered
      refine ⟨[s], ?_, ?_⟩
      · rw [readLines?, read]
        rfl
      · rw [List.filter_cons, if_pos rendered]
        exact .cons shows .nil
    · refine ⟨[], ?_, ?_⟩
      · rw [lines_of_not_renders rendered]
        rfl
      · rw [List.filter_cons, if_neg rendered]
        exact .nil

/-- A fragment of a blank text, a paragraph with a text and a bold one in it, and a line break that
holds a text. -/
def paragraphAndBreak : Node :=
  .mk { id := "a", kind := .fragment } [
    .mk { id := "b", kind := .text, text := some " " } [],
    .mk { id := "c", kind := .element, tag := some "p" } [
      .mk { id := "d", kind := .text, text := some "x " } [],
      .mk { id := "e", kind := .element, tag := some "b" } [
        .mk { id := "f", kind := .text, text := some "y" } []]],
    .mk { id := "g", kind := .element, tag := some "br" } [
      .mk { id := "h", kind := .text, text := some "z" } []]]

/-- A paragraph with a line break, put out and read. -/
theorem emitted_paragraphAndBreak : (∀ n ∈ paragraphAndBreak.preorder, n.IsNamed) ∧
    paragraphAndBreak.emitted (fun _ => "") 2 =
      paragraphAndBreak.outermost?.toList.flatMap (lines (fun _ => "") 2 true true) ∧
    IsBracketed 2 (paragraphAndBreak.emitted (fun _ => "") 2) ∧
    ∃ shown, readLines? (paragraphAndBreak.emitted (fun _ => "") 2) = some shown ∧
      List.Forall₂ (Shows fun _ => "") (paragraphAndBreak.outermost?.toList.filter renders)
        shown := by
  have named : ∀ n ∈ paragraphAndBreak.preorder, n.IsNamed :=
    Lists.forall_mem_of_all (by decide)
  exact ⟨named, emitted_is_recursive_and_read (fun _ => "") 2 paragraphAndBreak named⟩

end Componentry.Node
