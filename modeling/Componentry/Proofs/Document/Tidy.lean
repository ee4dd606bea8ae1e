import Componentry.Document.Printer
import Componentry.Jsx.Rendering
import Componentry.Proofs.Document.Reading
import Componentry.Proofs.Markup.Tidy

/-!
# Tidy pages

A page that was read is as tidy as its tree: its elements know their places and the bags of their
tags, nothing stands in void ones, and no comment holds the end of a comment. So nothing is lost of
a page where elements are written or rendered without content.
-/

set_option autoImplicit false

namespace Componentry.Markup

/-- What a place stands for is tidy. -/
def Place.IsTidy (p : Place) : Prop := p.toTree.IsTidy

/-- The trees below a tidy place are tidy. -/
theorem Place.IsTidy.children {p : Place} (h : p.IsTidy) : ∀ t ∈ p.children, t.IsTidy := by
  unfold Place.IsTidy Place.toTree at h
  cases h with
  | element _ _ below => exact below

mutual
/-- The places of a tidy tree are tidy. -/
theorem Place.isTidy_of_mem_placesOf {enters : Tag → Bool} {parent p : Place}
    {before after : List Tree} : ∀ {t : Tree}, t.IsTidy →
    p ∈ placesOf enters parent before after t → p.IsTidy
  | .string kind text, _, h => by
    rw [placesOf] at h
    exact absurd h List.not_mem_nil
  | .element tag children, tidy, h => by
    rw [placesOf] at h
    rcases List.mem_cons.1 h with rfl | h
    · exact tidy
    · split at h
      · cases tidy with
        | element _ _ below => exact isTidy_of_mem_placesIn below h
      · exact absurd h List.not_mem_nil

/-- The places of tidy siblings are tidy. -/
theorem Place.isTidy_of_mem_placesIn {enters : Tag → Bool} {parent p : Place}
    {before : List Tree} : ∀ {l : List Tree}, (∀ t ∈ l, t.IsTidy) →
    p ∈ placesIn enters parent before l → p.IsTidy
  | [], _, h => by
    rw [placesIn] at h
    exact absurd h List.not_mem_nil
  | t :: rest, tidy, h => by
    obtain ⟨first, others⟩ := List.forall_mem_cons.1 tidy
    rw [placesIn] at h
    rcases List.mem_append.1 h with h | h
    · exact isTidy_of_mem_placesOf first h
    · exact isTidy_of_mem_placesIn others h
end

/-- The places below a tidy one are tidy. -/
theorem Place.IsTidy.of_mem_descendants {p q : Place} (h : p.IsTidy) (hq : q ∈ p.descendants) :
    q.IsTidy :=
  isTidy_of_mem_placesIn h.children hq

/-- The place of a tidy tree is tidy. -/
theorem Tree.IsTidy.place {t : Tree} (h : t.IsTidy) : ((Place.ofTree t).getD default).IsTidy := by
  cases h with
  | string =>
    have tag : Tag.IsTidy ⟨"", Dict.empty⟩ := ⟨by decide, fun _ mem => absurd mem List.not_mem_nil⟩
    exact .element tag (fun _ => rfl) fun _ mem => absurd mem List.not_mem_nil
  | element tag void below => exact .element tag void below

end Componentry.Markup

namespace Componentry.Node
open Componentry.Markup

/-- Elements know their places with the tidy tags that they have their names and bags from, nothing
stands in void ones, and no comment holds the end of a comment. -/
inductive IsTidy : Node → Prop where
  | mk {label : Label} {children : List Node}
      (placed : label.kind = .element → ∃ p : Place, label.place = some p ∧
        label.tag = some p.tag.name ∧ label.attributes = Attributes.ofTag p.tag ∧ p.tag.IsTidy)
      (void : ∀ name ∈ label.tag, voidNames.contains name = true → children = [])
      (below : ∀ c ∈ children, IsTidy c)
      (closed : label.kind = .comment → ∀ s ∈ label.text, HoldsNoEnd s.toList) :
      IsTidy (.mk label children)

section
variable {label : Label} {children : List Node} (tidy : IsTidy (.mk label children))
include tidy

/-- Nothing stands in an element that closes where it opens. -/
theorem children_of_selfClosing
    (h : Jsx.selfClosing.contains (label.tag.getD "") = true) : children = [] := by
  cases tidy with
  | mk _ void _ _ =>
    cases tag : label.tag with
    | none =>
      rw [tag] at h
      exact absurd h (by decide)
    | some name =>
      rw [tag, Option.getD_some] at h
      have all : Jsx.selfClosing.all voidNames.contains = true := by decide
      exact void name tag (List.all_eq_true.1 all name (List.contains_iff_mem.1 h))

/-- Nothing stands in an element that is written without content. -/
theorem children_of_isVoid (h : isVoid label = true) : children = [] := by
  refine children_of_selfClosing tidy ?_
  unfold isVoid at h
  cases tag : label.tag with
  | none =>
    rw [tag] at h
    exact absurd h (by decide)
  | some name =>
    rw [tag, Option.getD_some, List.contains_iff_mem] at h
    rw [Option.getD_some, List.contains_iff_mem]
    exact List.mem_cons_of_mem _ h

end

mutual
/-- A tidy tree is read as a tidy node. -/
theorem isTidy_readOne (o : ReadOptions) (parent : Place) (before after : List Tree)
    (depth number : Nat) : ∀ t : Tree, t.IsTidy →
    ∀ n ∈ (readOne o parent before after depth number t).1, IsTidy n
  | .string kind text, tidy => by
    obtain ⟨closed⟩ := tidy
    rw [readOne]
    split
    · rintro n ⟨⟩
      refine .mk ?_ (fun _ _ _ => rfl) (fun c hc => absurd hc List.not_mem_nil) ?_
      · intro element
        simp only [stringLabel] at element
        split at element <;> cases element
      · rintro comment s ⟨⟩
        simp only [stringLabel] at comment
        split at comment
        next same => exact closed (beq_iff_eq.1 same)
        next => cases comment
    · rintro n ⟨⟩
  | .element tag children, tidy => by
    -- A void element has no children in the tree, so none are read for it.
    obtain ⟨⟩ | ⟨tidyTag, void, below⟩ := tidy
    rw [readOne]
    split
    · rintro n ⟨⟩
      refine .mk (fun _ => ⟨_, rfl, rfl, rfl, tidyTag⟩) ?_
        (isTidy_readAll o _ [] (depth + 1) (number + 1) children below)
        (fun comment => by cases comment)
      rintro name ⟨⟩ empty
      rw [void empty, readAll]
    · rintro n ⟨⟩

/-- Tidy trees are read as tidy nodes. -/
theorem isTidy_readAll (o : ReadOptions) (parent : Place) (before : List Tree)
    (depth number : Nat) : ∀ l : List Tree, (∀ t ∈ l, t.IsTidy) →
    ∀ n ∈ (readAll o parent before depth number l).1, IsTidy n
  | [], _ => by
    rw [readAll]
    exact fun n hn => absurd hn List.not_mem_nil
  | t :: rest, tidy => by
    obtain ⟨first, others⟩ := List.forall_mem_cons.1 tidy
    rw [readAll]
    intro n hn
    rcases List.mem_append.1 hn with hn | hn
    · exact isTidy_readOne o parent before rest depth number t first n (Option.mem_toList.1 hn)
    · exact isTidy_readAll o parent (t :: before) depth _ rest others n hn
end

end Componentry.Node

namespace Componentry.Document
open Componentry.Markup Componentry.Node

/-- Tidy trees at the top are read as tidy nodes. -/
theorem isTidy_readSlots (o : ReadOptions) (parent : Place) (depth : Nat) :
    ∀ (number : Nat) (slots : List Slot), (∀ s ∈ slots, s.tree.IsTidy) →
      ∀ n ∈ (readSlots o parent depth number slots).1, IsTidy n
  | number, [], _ => by
    rw [readSlots]
    exact fun n hn => absurd hn List.not_mem_nil
  | number, s :: rest, tidy => by
    obtain ⟨first, others⟩ := List.forall_mem_cons.1 tidy
    rw [readSlots]
    intro n hn
    rcases List.mem_append.1 hn with hn | hn
    · exact isTidy_readOne o parent s.before s.after depth number s.tree first n
        (Option.mem_toList.1 hn)
    · exact isTidy_readSlots o parent depth _ rest others n hn

/-- A slot of a list is for one of its trees. -/
theorem mem_of_mem_slotsFrom {s : Slot} : ∀ {before l : List Tree}, s ∈ slotsFrom before l →
    s.tree ∈ l
  | _, [], h => absurd h List.not_mem_nil
  | before, t :: rest, h => by
    rw [slotsFrom] at h
    rcases List.mem_cons.1 h with rfl | h
    · exact List.mem_cons_self
    · exact List.mem_cons_of_mem _ (mem_of_mem_slotsFrom h)

/-- What shows of a tidy page is tidy. -/
theorem isTidy_of_mem_shown {top : Place} {s : Slot} (tidy : top.IsTidy) (h : s ∈ (shown top).2) :
    s.tree.IsTidy := by
  unfold shown at h
  dsimp only at h
  split at h
  next body found =>
    have place := tidy.of_mem_descendants (List.mem_of_find?_eq_some found)
    exact place.children _ (mem_of_mem_slotsFrom h)
  next =>
    have inside := mem_of_mem_slotsFrom (List.mem_of_mem_filter h)
    cases page : top.descendants.find? fun p => p.tag.name == "html" with
    | none =>
      rw [page] at inside
      exact tidy.children _ inside
    | some html =>
      rw [page] at inside
      have place := tidy.of_mem_descendants (List.mem_of_find?_eq_some page)
      exact place.children _ inside

/-- A tidy page has a tidy root. -/
theorem isTidy_readRoot? {o : ReadOptions} {top : Place} {root : Node} (tidy : top.IsTidy)
    (h : readRoot? o top = some root) : IsTidy root := by
  have kept : ∀ s ∈ keptSlots o top, s.tree.IsTidy := fun s hs =>
    isTidy_of_mem_shown tidy (List.mem_of_mem_filter hs)
  obtain ⟨before, tag, children, after, only, eq⟩ | eq := readRoot?_cases o top
  · have element := kept ⟨before, .element tag children, after⟩ (only ▸ List.mem_cons_self)
    exact isTidy_readOne o (shown top).1 before after 0 0 _ element root (eq ▸ h)
  · rw [h, Option.some.injEq] at eq
    rw [eq]
    refine .mk (fun element => by cases element) ?_ (isTidy_readSlots o (shown top).1 1 1 _ kept)
      fun comment => by cases comment
    rintro name ⟨⟩

/-- A page that was read is tidy. -/
theorem isTidy_of_read {o : ReadOptions} {markup : Option String} {d : Document}
    (h : (read o markup).result = .ok d) : IsTidy d.root := by
  obtain ⟨text, rfl, ⟨_, rfl⟩ | ⟨tree, root, sections, _, parsed, found, rfl⟩⟩ := read_cases h
  · refine .mk (fun element => by cases element) (fun _ _ _ => rfl)
      (fun c hc => absurd hc List.not_mem_nil) fun comment => by cases comment
  · exact isTidy_readRoot? (Tree.isTidy_of_parse parsed).place found

end Componentry.Document

namespace Componentry.Node
open Componentry.Markup

/-- All nodes that are met from a tidy one are tidy. -/
theorem IsTidy.of_mem_preorder {n m : Node} (h : n.IsTidy) (hm : m ∈ n.preorder) : m.IsTidy := by
  induction h with
  | @mk label children placed void below closed ih =>
    rw [preorder_mk] at hm
    rcases List.mem_cons.1 hm with rfl | hm
    · exact .mk placed void below closed
    · obtain ⟨c, hc, hm⟩ := mem_preorderAll.1 hm
      exact ih c hc hm

/-- A tidy element knows its place, and its name and its bag are those of a tidy tag. -/
theorem IsTidy.exists_place {n : Node} (h : n.IsTidy) (element : n.isElement = true) :
    ∃ p : Place, n.label.place = some p ∧ n.tag = some p.tag.name ∧
      n.attributes = Attributes.ofTag p.tag ∧ p.tag.IsTidy := by
  cases h with
  | mk placed _ _ _ => exact placed (beq_iff_eq.1 element)

/-- A tidy element has a name without spaces. -/
theorem IsTidy.exists_tag {n : Node} (h : n.IsTidy) (element : n.isElement = true) :
    ∃ name, n.tag = some name ∧ ' ' ∉ name.toList := by
  obtain ⟨p, _, tag, _, tidy⟩ := h.exists_place element
  exact ⟨p.tag.name, tag, tidy.name⟩

end Componentry.Node

/-! ## Filled pages

A page that is read without blank texts and comments holds elements and texts that are not blank,
and nothing else but the fragment that may stand at its top.
-/

namespace Componentry
open Componentry.Text

namespace Node
open Componentry.Markup

/-- An element or a text that is not blank, and so is all below. -/
inductive IsFilled : Node → Prop
  | text {label : Label} (kind : label.kind = .text)
      (filled : isBlankText (label.text.getD "") = false) : IsFilled (.mk label [])
  | element {label : Label} {children : List Node} (kind : label.kind = .element)
      (below : ∀ c ∈ children, IsFilled c) : IsFilled (.mk label children)

/-- Neither blank texts nor comments are kept. -/
structure KeepsFilled (o : ReadOptions) : Prop where
  blanks : o.keepsBlanks = false
  comments : o.keepsComments = false

variable {o : ReadOptions}

/-- A string that is kept is no comment and not blank, where these are left out. -/
theorem filled_of_keeps (keeps : KeepsFilled o) {kind : StringKind} {text : String}
    (kept : o.keeps (.string kind text) = true) :
    kind ≠ .comment ∧ isBlankText text = false := by
  rw [ReadOptions.keeps.eq_def] at kept
  split at kept
  next => next other => cases other
  next =>
    rw [keeps.comments] at kept
    cases kept
  next kind text comment same =>
    cases same
    rw [keeps.blanks, Bool.false_or, Bool.and_eq_true, Bool.not_eq_true'] at kept
    exact ⟨comment, kept.2⟩

mutual
/-- A tree is read without comments and blank texts, where these are left out. -/
theorem isFilled_readOne (keeps : KeepsFilled o) (parent : Place) (before after : List Tree)
    (depth number : Nat) :
    ∀ t : Tree, ∀ n ∈ (readOne o parent before after depth number t).1, IsFilled n
  | .string kind text => by
    rw [readOne]
    split
    · next kept =>
      rintro n ⟨⟩
      obtain ⟨noComment, filled⟩ := filled_of_keeps keeps (Bool.and_eq_true_iff.1 kept).2
      refine .text ?_ filled
      rw [stringLabel, if_neg]
      exact fun comment => noComment (beq_iff_eq.1 comment)
    · rintro n ⟨⟩
  | .element tag children => by
    rw [readOne]
    split
    · rintro n ⟨⟩
      exact .element rfl (isFilled_readAll keeps _ [] (depth + 1) (number + 1) children)
    · rintro n ⟨⟩

/-- Trees are read without comments and blank texts, where these are left out. -/
theorem isFilled_readAll (keeps : KeepsFilled o) (parent : Place) (before : List Tree)
    (depth number : Nat) :
    ∀ l : List Tree, ∀ n ∈ (readAll o parent before depth number l).1, IsFilled n
  | [] => by
    rw [readAll]
    exact fun n hn => absurd hn List.not_mem_nil
  | t :: rest => by
    rw [readAll]
    intro n hn
    rcases List.mem_append.1 hn with hn | hn
    · exact isFilled_readOne keeps parent before rest depth number t n (Option.mem_toList.1 hn)
    · exact isFilled_readAll keeps parent (t :: before) depth _ rest n hn
end

end Node

namespace Document
open Componentry.Markup Componentry.Node

/-- The top of a page is read without comments and blank texts, where these are left out. -/
theorem isFilled_readSlots {o : ReadOptions} (keeps : KeepsFilled o) (parent : Place)
    (depth : Nat) : ∀ (number : Nat) (slots : List Slot),
      ∀ n ∈ (readSlots o parent depth number slots).1, IsFilled n
  | number, [] => by
    rw [readSlots]
    exact fun n hn => absurd hn List.not_mem_nil
  | number, s :: rest => by
    rw [readSlots]
    intro n hn
    rcases List.mem_append.1 hn with hn | hn
    · exact isFilled_readOne keeps parent s.before s.after depth number s.tree n
        (Option.mem_toList.1 hn)
    · exact isFilled_readSlots keeps parent depth _ rest n hn

/-- A page that is read without blanks and comments is an element or a fragment of filled nodes. -/
theorem isFilled_of_read {o : ReadOptions} (keeps : KeepsFilled o) {markup : Option String}
    {d : Document} (h : (read o markup).result = .ok d) :
    d.root.IsFilled ∨ d.root.kind = .fragment ∧ ∀ c ∈ d.root.children, IsFilled c := by
  obtain ⟨text, rfl, ⟨_, rfl⟩ | ⟨tree, root, sections, _, _, found, rfl⟩⟩ := read_cases h
  · exact .inr ⟨rfl, fun c hc => absurd hc List.not_mem_nil⟩
  · obtain ⟨before, tag, children, after, _, eq⟩ | eq :=
      readRoot?_cases o ((Place.ofTree tree).getD default)
    · exact .inl (isFilled_readOne keeps _ before after 0 0 _ root (eq ▸ found))
    · rw [found, Option.some.injEq] at eq
      rw [eq]
      exact .inr ⟨rfl, isFilled_readSlots keeps _ 1 1 _⟩

end Document
end Componentry
