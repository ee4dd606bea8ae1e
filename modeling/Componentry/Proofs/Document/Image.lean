import Componentry.Proofs.Document.Reading

/-!
# Images of pages

Reading filters three times: trees are passed over before they wait, a depth is checked when a tree
is met, and a string may still be left out when its node is made. What comes of it can be said
without numbers and without a walk: the image of a tree is its element, its comment where comments
are kept, or its text where it is not blank or blanks are kept; the limit prunes the image, and what
is left is numbered in the order of the walk. So a page that is read with a limit is the whole page
pruned at the limit, with new numbers.
-/

set_option autoImplicit false

namespace Componentry.Node
open Componentry.Text Componentry.Markup

/-! ## Images, pruning and numbers -/

/-- The image of a string, one node or none: comments and blank texts are kept on demand, other
texts always, and other declarations never. -/
def stringImage (comments blanks : Bool) (depth : Nat) (kind : StringKind) (text : String) :
    List Node :=
  match kind with
  | .comment =>
    if comments then [.mk { id := "", kind := .comment, text := some text, depth } []] else []
  | .cdata | .instruction | .doctype | .declaration => []
  | .plain | .script | .stylesheet | .template | .rubyText | .rubyParenthesis =>
    if isBlankText text && !blanks then []
    else [.mk { id := "", kind := .text, text := some text, depth } []]

mutual
/-- The image of a tree that stands in a parent, without ids and without a limit. -/
def image (comments blanks : Bool) (parent : Place) (before after : List Tree) (depth : Nat) :
    Tree → List Node
  | .element tag children =>
    let place := Place.child parent before tag children after
    [.mk { id := "", kind := .element, tag := some tag.name, attributes := Attributes.ofTag tag,
           depth, place := some place }
      (imageAll comments blanks place [] (depth + 1) children)]
  | .string kind text => stringImage comments blanks depth kind text

/-- The images of the trees of a list. -/
def imageAll (comments blanks : Bool) (parent : Place) (before : List Tree) (depth : Nat) :
    List Tree → List Node
  | [] => []
  | t :: rest =>
    image comments blanks parent before rest depth t
      ++ imageAll comments blanks parent (t :: before) depth rest
end

mutual
/-- A node without the nodes below it whose depth is out of reach. -/
def prune (reaches : Nat → Bool) : Node → Node
  | .mk label children => .mk label (pruneAll reaches children)

/-- The nodes of a list whose depth is within reach, pruned. -/
def pruneAll (reaches : Nat → Bool) : List Node → List Node
  | [] => []
  | n :: rest =>
    if reaches n.depth then prune reaches n :: pruneAll reaches rest else pruneAll reaches rest
end

mutual
/-- A node with new ids in the order of the walk, and the next free number. -/
def renumber (number : Nat) : Node → Node × Nat
  | .mk label children =>
    (.mk { label with id := numberedId number } (renumberAll (number + 1) children).1,
      (renumberAll (number + 1) children).2)

/-- The nodes of a list with new ids, and the next free number. -/
def renumberAll (number : Nat) : List Node → List Node × Nat
  | [] => ([], number)
  | n :: rest =>
    ((renumber number n).1 :: (renumberAll (renumber number n).2 rest).1,
      (renumberAll (renumber number n).2 rest).2)
end

mutual
/-- A node without ids. -/
def anonymous : Node → Node
  | .mk label children => .mk { label with id := "" } (anonymousAll children)

/-- The nodes of a list without ids. -/
def anonymousAll : List Node → List Node
  | [] => []
  | n :: rest => anonymous n :: anonymousAll rest
end

/-- Two forests in a row are pruned one after the other. -/
theorem pruneAll_append (reaches : Nat → Bool) : ∀ l m : List Node,
    pruneAll reaches (l ++ m) = pruneAll reaches l ++ pruneAll reaches m
  | [], _ => by rw [pruneAll, List.nil_append, List.nil_append]
  | n :: rest, m => by
    rw [List.cons_append, pruneAll, pruneAll, pruneAll_append reaches rest m]
    split
    · rw [List.cons_append]
    · rfl

/-- A single tree is pruned, or left out where its own depth is beyond the limit. -/
theorem pruneAll_singleton (reaches : Nat → Bool) (n : Node) :
    pruneAll reaches [n] = if reaches n.depth then [prune reaches n] else [] := by
  rw [pruneAll, pruneAll]

/-- Two forests in a row are numbered one after the other. -/
theorem renumberAll_append (m : List Node) : ∀ (number : Nat) (l : List Node),
    renumberAll number (l ++ m) =
      ((renumberAll number l).1 ++ (renumberAll (renumberAll number l).2 m).1,
        (renumberAll (renumberAll number l).2 m).2)
  | _, [] => by rw [renumberAll, List.nil_append, List.nil_append]
  | number, n :: rest => by
    rw [List.cons_append, renumberAll, renumberAll_append m _ rest, renumberAll, List.cons_append]

/-- A node without its number has the depth it had. -/
theorem depth_anonymous (n : Node) : n.anonymous.depth = n.depth := by
  cases n
  rw [anonymous]
  rfl

mutual
/-- New ids take the place of any others. -/
theorem renumber_anonymous : ∀ (number : Nat) (n : Node),
    renumber number n.anonymous = renumber number n
  | number, .mk label children => by
    rw [anonymous, renumber, renumberAll_anonymousAll (number + 1) children, renumber]

/-- The numbers a forest had do not matter for those it is given. -/
theorem renumberAll_anonymousAll : ∀ (number : Nat) (l : List Node),
    renumberAll number (anonymousAll l) = renumberAll number l
  | number, [] => by rw [anonymousAll]
  | number, n :: rest => by
    rw [anonymousAll, renumberAll, renumber_anonymous number n,
      renumberAll_anonymousAll _ rest, renumberAll]
end

mutual
/-- New ids change nothing but the ids. -/
theorem anonymous_renumber : ∀ (number : Nat) (n : Node),
    (renumber number n).1.anonymous = n.anonymous
  | number, .mk label children => by
    rw [renumber, anonymous, anonymousAll_renumberAll (number + 1) children, anonymous]

/-- New numbers are all that numbering changes. -/
theorem anonymousAll_renumberAll : ∀ (number : Nat) (l : List Node),
    anonymousAll (renumberAll number l).1 = anonymousAll l
  | number, [] => by rw [renumberAll]
  | number, n :: rest => by
    rw [renumberAll, anonymousAll, anonymous_renumber number n,
      anonymousAll_renumberAll _ rest, anonymousAll]
end

variable {reaches : Nat → Bool}

mutual
/-- To prune a tree does not look at its numbers. -/
theorem prune_anonymous : ∀ n : Node, n.anonymous.prune reaches = (n.prune reaches).anonymous
  | .mk label children => by
    rw [anonymous, prune, pruneAll_anonymousAll children, prune, anonymous]

/-- To prune a forest does not look at its numbers. -/
theorem pruneAll_anonymousAll : ∀ l : List Node,
    pruneAll reaches (anonymousAll l) = anonymousAll (pruneAll reaches l)
  | [] => by rw [anonymousAll, pruneAll, anonymousAll]
  | n :: rest => by
    rw [anonymousAll, pruneAll, depth_anonymous, prune_anonymous n, pruneAll_anonymousAll rest,
      pruneAll]
    split
    · rw [anonymousAll]
    · rfl
end

mutual
/-- Without a limit nothing is pruned from a tree. -/
theorem prune_of_all (all : ∀ depth, reaches depth = true) : ∀ n : Node, n.prune reaches = n
  | .mk label children => by rw [prune, pruneAll_of_all all children]

/-- Without a limit nothing is pruned from a forest. -/
theorem pruneAll_of_all (all : ∀ depth, reaches depth = true) : ∀ l : List Node,
    pruneAll reaches l = l
  | [] => by rw [pruneAll]
  | n :: rest => by rw [pruneAll, if_pos (all _), prune_of_all all n, pruneAll_of_all all rest]
end

/-- Pruning what was numbered and numbering it again is like pruning before. -/
theorem renumber_prune_renumber (number before : Nat) (n : Node) :
    renumber number ((renumber before n).1.prune reaches) = renumber number (n.prune reaches) := by
  rw [← renumber_anonymous, ← prune_anonymous, anonymous_renumber, prune_anonymous,
    renumber_anonymous]

/-! ## Images have no ids -/

/-- Numbers are taken off two forests in a row one after the other. -/
theorem anonymousAll_append : ∀ l m : List Node,
    anonymousAll (l ++ m) = anonymousAll l ++ anonymousAll m
  | [], _ => by rw [anonymousAll, List.nil_append, List.nil_append]
  | n :: rest, m => by
    rw [List.cons_append, anonymousAll, anonymousAll, anonymousAll_append rest m, List.cons_append]

variable (comments blanks : Bool)

/-- The image of a string is the node that reading makes of it, if the string is kept. -/
theorem stringImage_eq (o : ReadOptions) (depth : Nat) (kind : StringKind) (text : String) :
    stringImage o.keepsComments o.keepsBlanks depth kind text =
      if o.keeps (.string kind text) then [.mk { stringLabel 0 depth kind text with id := "" } []]
      else [] := by
  cases kind <;> cases hb : isBlankText text <;> cases hk : o.keepsBlanks <;>
    simp [stringImage, ReadOptions.keeps, StringKind.isText, stringLabel, hb, hk]

mutual
/-- The image of a tree has no numbers. -/
theorem anonymousAll_image (parent : Place) (before after : List Tree) (depth : Nat) : ∀ t : Tree,
    anonymousAll (image comments blanks parent before after depth t) =
      image comments blanks parent before after depth t
  | .element tag children => by
    rw [image, anonymousAll, anonymousAll, anonymous, anonymousAll_imageAll]
  | .string kind text => by
    have kept := stringImage_eq { keepsComments := comments, keepsBlanks := blanks } depth kind text
    rw [image, kept]
    split
    · rw [anonymousAll, anonymousAll, anonymous, anonymousAll]
    · rw [anonymousAll]

/-- The image of a list of trees has no numbers. -/
theorem anonymousAll_imageAll (parent : Place) (before : List Tree) (depth : Nat) :
    ∀ l : List Tree, anonymousAll (imageAll comments blanks parent before depth l) =
      imageAll comments blanks parent before depth l
  | [] => by rw [imageAll, anonymousAll]
  | t :: rest => by
    rw [imageAll, anonymousAll_append, anonymousAll_image parent before rest depth t,
      anonymousAll_imageAll parent (t :: before) depth rest]
end

/-! ## Reading numbers the pruned image -/

variable {comments blanks} {o : ReadOptions}

mutual
/-- Reading a tree is to take its image, to prune it and to number it. -/
theorem readOne_eq (parent : Place) (before after : List Tree) (depth number : Nat) : ∀ t : Tree,
    ((readOne o parent before after depth number t).1.toList,
        (readOne o parent before after depth number t).2) =
      renumberAll number (pruneAll o.reaches
        (image o.keepsComments o.keepsBlanks parent before after depth t))
  | .string kind text => by
    have alone : pruneAll o.reaches [.mk { stringLabel 0 depth kind text with id := "" } []] =
        if o.reaches depth then [.mk { stringLabel 0 depth kind text with id := "" } []]
        else [] := by
      rw [pruneAll_singleton, prune, pruneAll]
      rfl
    rw [readOne, image, stringImage_eq]
    cases o.keeps (.string kind text) with
    | false =>
      rw [Bool.and_false, if_neg Bool.false_ne_true, if_neg Bool.false_ne_true, pruneAll,
        renumberAll]
      rfl
    | true =>
      rw [Bool.and_true, if_pos rfl, alone]
      split
      · rw [renumberAll, renumber, renumberAll, renumberAll]
        rfl
      · rw [renumberAll]
        rfl
  | .element tag children => by
    have below := readAll_eq (.child parent before tag children after) [] (depth + 1)
      (number + 1) children
    rw [readOne, image, pruneAll_singleton]
    change (_, _) = renumberAll number (if o.reaches depth then _ else _)
    split
    · rw [prune, renumberAll, renumber, renumberAll, ← below]
      rfl
    · rw [renumberAll]
      rfl

/-- Reading a list of trees is to take its image, to prune it and to number it. -/
theorem readAll_eq (parent : Place) (before : List Tree) (depth number : Nat) : ∀ l : List Tree,
    readAll o parent before depth number l = renumberAll number (pruneAll o.reaches
      (imageAll o.keepsComments o.keepsBlanks parent before depth l))
  | [] => by rw [readAll, imageAll, pruneAll, renumberAll]
  | t :: rest => by
    have first := readOne_eq parent before rest depth number t
    rw [readAll, imageAll, pruneAll_append, renumberAll_append, ← first]
    dsimp only
    rw [← readAll_eq parent (t :: before) depth _ rest]
end

end Componentry.Node

namespace Componentry.Pending
open Componentry.Text Componentry.Markup Componentry.Node

/-- The label that a tree is translated into once it is met. Elements come first, then comments,
then other declarations, and texts last; what was asked before the tree waited is asked again. -/
def translate? (o : ReadOptions) (number : Nat) (p : Pending) : Option Label :=
  match p.slot.tree with
  | .element tag children =>
    some (elementLabel number p.depth (.child p.parent p.slot.before tag children p.slot.after))
  | .string kind text =>
    if kind = .comment then
      if !o.keepsComments then none else some (stringLabel number p.depth .comment text)
    else if !kind.isText then none
    else if !o.keepsBlanks && isBlankText text then none
    else some (stringLabel number p.depth kind text)

/-- A waiting tree is translated into the label it is promised. -/
theorem translate?_eq_label? (o : ReadOptions) (number : Nat) (p : Pending) :
    p.translate? o number = p.label? o number := by
  rw [translate?, label?]
  cases p.slot.tree with
  | element tag children => rfl
  | string kind text =>
    cases kind <;> cases hc : o.keepsComments <;> cases hk : o.keepsBlanks <;>
      cases hb : isBlankText text <;> simp [ReadOptions.keeps, StringKind.isText, hc, hk, hb]

/-- What waits is never left out by its translation, and nothing else would be translated. -/
theorem isSome_translate? (o : ReadOptions) (number : Nat) (p : Pending) :
    (p.translate? o number).isSome = o.keeps p.slot.tree := by
  rw [translate?_eq_label?, label?]
  cases p.slot.tree with
  | element tag children => rfl
  | string kind text =>
    dsimp only
    cases o.keeps (.string kind text) <;> rfl

end Componentry.Pending

namespace Componentry.Document
open Componentry.Text Componentry.Markup Componentry.Node

/-! ## The image of a page -/

/-- The images of the trees in slots. -/
def imagesAt (comments blanks : Bool) (parent : Place) (depth : Nat) (slots : List Slot) :
    List Node :=
  slots.flatMap fun s => image comments blanks parent s.before s.after depth s.tree

/-- The image of a page: what shows of it is a single element, or stands in a fragment. -/
def imageOfPage (comments blanks : Bool) (top : Place) : Node :=
  let several := Node.mk { id := "", kind := .fragment }
    (imagesAt comments blanks (shown top).1 1 (shown top).2)
  match imagesAt comments blanks (shown top).1 0 (shown top).2 with
  | [n] => if n.isElement then n else several
  | _ => several

variable {o : ReadOptions} {top : Place}

/-- A tree that is kept has one node for its image, an element for an element. -/
theorem exists_image_of_keeps {t : Tree} (kept : o.keeps t = true) (parent : Place)
    (before after : List Tree) (depth : Nat) :
    ∃ n, image o.keepsComments o.keepsBlanks parent before after depth t = [n] ∧
      n.isElement = t.tag?.isSome := by
  cases t with
  | element tag children =>
    rw [image]
    exact ⟨_, rfl, rfl⟩
  | string kind text =>
    rw [image, stringImage_eq, if_pos kept]
    refine ⟨_, rfl, ?_⟩
    change ((if kind == .comment then NodeKind.comment else NodeKind.text) == .element) = false
    split <;> rfl

/-- A tree that is not kept has no image. -/
theorem image_of_not_keeps {t : Tree} (left : ¬ o.keeps t = true) (parent : Place)
    (before after : List Tree) (depth : Nat) :
    image o.keepsComments o.keepsBlanks parent before after depth t = [] := by
  cases t with
  | element tag children => exact absurd rfl left
  | string kind text => rw [image, stringImage_eq, if_neg left]

/-- What is not kept has no image. -/
theorem imagesAt_filter (parent : Place) (depth : Nat) : ∀ slots : List Slot,
    imagesAt o.keepsComments o.keepsBlanks parent depth (slots.filter fun s => o.keeps s.tree) =
      imagesAt o.keepsComments o.keepsBlanks parent depth slots
  | [] => rfl
  | s :: rest => by
    have ih := imagesAt_filter parent depth rest
    rw [imagesAt] at ih ⊢
    rw [imagesAt, List.flatMap_cons, List.filter_cons]
    split
    · rw [List.flatMap_cons, ih, imagesAt]
    · next left => rw [image_of_not_keeps left, ih, imagesAt, List.nil_append]

/-- Reading the slots at the top is to take their images, to prune them and to number them. -/
theorem readSlots_eq (parent : Place) (depth : Nat) : ∀ (number : Nat) (slots : List Slot),
    readSlots o parent depth number slots = renumberAll number (pruneAll o.reaches
      (imagesAt o.keepsComments o.keepsBlanks parent depth slots))
  | number, [] => by
    rw [readSlots, imagesAt, List.flatMap_nil, pruneAll, renumberAll]
  | number, s :: rest => by
    have first := readOne_eq (o := o) parent s.before s.after depth number s.tree
    rw [readSlots, imagesAt, List.flatMap_cons, pruneAll_append, renumberAll_append, ← first]
    dsimp only
    rw [readSlots_eq parent depth _ rest, imagesAt]

/-- The image of a page is a single element exactly if a single element is kept at its top. -/
theorem exists_keptSlots_of_imagesAt {n : Node} {depth : Nat} (element : n.isElement = true)
    (only : imagesAt o.keepsComments o.keepsBlanks (shown top).1 depth (shown top).2 = [n]) :
    ∃ before tag children after, keptSlots o top = [⟨before, .element tag children, after⟩] := by
  have kept : ∀ s ∈ keptSlots o top, o.keeps s.tree = true := fun s hs => (List.mem_filter.1 hs).2
  rw [← imagesAt_filter] at only
  change imagesAt _ _ _ _ (keptSlots o top) = [n] at only
  -- A kept slot gives exactly one node: one slot is kept, and it is no string.
  match slots : keptSlots o top with
  | [] =>
    rw [slots] at only
    cases only
  | [⟨before, .element tag children, after⟩] => exact ⟨before, tag, children, after, rfl⟩
  | [⟨before, .string kind text, after⟩] =>
    obtain ⟨m, image, plain⟩ := exists_image_of_keeps
      (kept ⟨before, .string kind text, after⟩ (slots ▸ List.mem_cons_self)) (shown top).1 before
        after depth
    rw [slots, imagesAt, List.flatMap_singleton, image] at only
    cases only
    rw [element] at plain
    cases plain
  | s :: t :: rest =>
    obtain ⟨m, first, _⟩ := exists_image_of_keeps (kept s (slots ▸ List.mem_cons_self))
      (shown top).1 s.before s.after depth
    obtain ⟨k, second, _⟩ := exists_image_of_keeps
      (kept t (slots ▸ List.mem_cons_of_mem s List.mem_cons_self)) (shown top).1 t.before t.after
        depth
    rw [slots, imagesAt, List.flatMap_cons, List.flatMap_cons, first, second] at only
    cases only

/-- The root of a page is the pruned image with numbers. -/
theorem readRoot?_eq (reaches : o.reaches 0 = true) :
    readRoot? o top = some (renumber 0
      ((imageOfPage o.keepsComments o.keepsBlanks top).prune o.reaches)).1 := by
  -- With a single element at the top it is the root itself; else a fragment around the slots is.
  by_cases single : ∃ before tag children after,
      keptSlots o top = [⟨before, .element tag children, after⟩]
  · obtain ⟨before, tag, children, after, only⟩ := single
    obtain ⟨n, one, element⟩ := exists_image_of_keeps (o := o) (t := .element tag children) rfl
      (shown top).1 before after 0
    have image : imageOfPage o.keepsComments o.keepsBlanks top = n := by
      have images : imagesAt o.keepsComments o.keepsBlanks (shown top).1 0 (shown top).2 = [n] := by
        rw [← imagesAt_filter]
        change imagesAt _ _ _ _ (keptSlots o top) = [n]
        rw [only, imagesAt, List.flatMap_singleton, one]
      rw [imageOfPage, images]
      exact if_pos element
    have read := readOne_eq (o := o) (shown top).1 before after 0 0 (.element tag children)
    have top_ : n.depth = 0 := by
      rw [Node.image] at one
      cases one
      rfl
    rw [one, pruneAll_singleton, top_, if_pos reaches, renumberAll, renumberAll] at read
    have root := congrArg Prod.fst read
    rw [readRoot?_of_element only, image]
    dsimp only at root
    cases made : (readOne o (shown top).1 before after 0 0 (.element tag children)).1 with
    | none =>
      rw [made] at root
      cases root
    | some m =>
      rw [made] at root
      rw [List.head_eq_of_cons_eq root]
  · have image : imageOfPage o.keepsComments o.keepsBlanks top = .mk { id := "", kind := .fragment }
        (imagesAt o.keepsComments o.keepsBlanks (shown top).1 1 (shown top).2) := by
      rw [imageOfPage]
      split
      next n only =>
        refine if_neg fun element => single (exists_keptSlots_of_imagesAt element only)
      next => rfl
    rw [readRoot?_of_several fun before tag children after only =>
      single ⟨before, tag, children, after, only⟩, readSlots_eq, keptSlots, imagesAt_filter, image,
      prune, renumber]
    rfl

/-! ## The three filters -/

/-- A root is the image of its page: without ids it is the image pruned at the limit, its ids count
the nodes in the order of the walk, the loop over waiting trees lists the same nodes, and it is the
root that is read without a limit, pruned and numbered anew. -/
structure IsImage (o : ReadOptions) (top : Place) (root : Node) : Prop where
  image : root.anonymous = (imageOfPage o.keepsComments o.keepsBlanks top).prune o.reaches
  ids : root.ids = (List.range root.preorder.length).map numberedId
  arena : (Arena.ofPage o top).entries = root.preorder.map (Arena.entryIn root)
  whole : ∃ whole, readRoot? { o with maxDepth := none } top = some whole ∧
    whole.anonymous = imageOfPage o.keepsComments o.keepsBlanks top ∧
    root = (renumber 0 (whole.prune o.reaches)).1

/-- The image of a page has no numbers. -/
theorem anonymous_imageOfPage (comments blanks : Bool) (top : Place) :
    (imageOfPage comments blanks top).anonymous = imageOfPage comments blanks top := by
  have images (parent : Place) (depth : Nat) : ∀ slots : List Slot,
      anonymousAll (imagesAt comments blanks parent depth slots) =
        imagesAt comments blanks parent depth slots := by
    intro slots
    induction slots with
    | nil => rw [imagesAt, List.flatMap_nil, anonymousAll]
    | cons s rest ih =>
      rw [imagesAt] at ih ⊢
      rw [List.flatMap_cons, anonymousAll_append, anonymousAll_image, ih]
  have several : (Node.mk { id := "", kind := .fragment }
      (imagesAt comments blanks (shown top).1 1 (shown top).2)).anonymous =
        .mk { id := "", kind := .fragment }
          (imagesAt comments blanks (shown top).1 1 (shown top).2) := by
    rw [anonymous, images]
  have single := images (shown top).1 0 (shown top).2
  rw [imageOfPage]
  split
  next n only =>
    rw [only, anonymousAll, anonymousAll] at single
    split
    · exact List.head_eq_of_cons_eq single
    · exact several
  next => exact several

/-- The root that is read is the image of the page, pruned and numbered. -/
theorem isImage_readRoot? (reaches : o.reaches 0 = true) {root : Node}
    (found : readRoot? o top = some root) : IsImage o top root := by
  have whole : readRoot? { o with maxDepth := none } top = _ := readRoot?_eq rfl
  have all : ∀ depth, ({ o with maxDepth := none } : ReadOptions).reaches depth = true :=
    fun _ => rfl
  rw [prune_of_all all] at whole
  have made := found
  rw [readRoot?_eq reaches] at made
  have root_ := Option.some.inj made
  refine
    { image := ?_
      ids := ids_eq (d := ⟨root, {}, []⟩) (isNumbered_readRoot? found)
      arena := Arena.entries_ofPage found
      whole := ⟨_, whole, ?_, ?_⟩ }
  · rw [← root_, anonymous_renumber, ← prune_anonymous, anonymous_imageOfPage]
  · rw [anonymous_renumber, anonymous_imageOfPage]
  · rw [renumber_prune_renumber, root_]

/-- Reading a page gives the filtered image of its markup. What is asked of a tree before it waits
and what it is translated into never disagree; every page has a root, which is the image of the page
pruned at the limit and numbered in the order of the walk, so that the whole page with the same
filters, pruned and numbered anew, is the same; and this is the root of every text that is read. -/
theorem isImage_of_limit (o : ReadOptions) (limit : ∀ l ∈ o.maxDepth, 0 ≤ l) :
    (∀ (number : Nat) (p : Pending), p.translate? o number = p.label? o number ∧
      (p.translate? o number).isSome = o.keeps p.slot.tree) ∧
    (∀ top : Place, ∃ root, readRoot? o top = some root ∧ IsImage o top root) ∧
    ∀ (text : String) (d : Document), (read o (some text)).result = .ok d →
      (trim text = "" ∧ d.root = fragment []) ∨
      ∃ tree, Tree.parse (trim text) = .ok tree ∧
        IsImage o ((Place.ofTree tree).getD default) d.root ∧
        ∀ w, (read { o with maxDepth := none } (some text)).result = .ok w →
          d.root = (renumber 0 (w.root.prune o.reaches)).1 := by
  -- A limit of nought still lets the root through.
  have reaches := reaches_zero limit
  refine ⟨fun number p => ⟨p.translate?_eq_label? o number, p.isSome_translate? o number⟩,
    fun top => ?_, fun text d h => ?_⟩
  · obtain ⟨root, found⟩ := exists_readRoot? reaches top
    exact ⟨root, found, isImage_readRoot? reaches found⟩
  · obtain ⟨_, same, h⟩ := read_cases h
    cases same
    rcases h with ⟨empty, rfl⟩ | ⟨tree, root, sections, filled, parsed, found, rfl⟩
    · exact .inl ⟨empty, rfl⟩
    · have image := isImage_readRoot? reaches found
      refine .inr ⟨tree, parsed, image, fun w hw => ?_⟩
      obtain ⟨_, same, hw⟩ := read_cases hw
      cases same
      rcases hw with ⟨empty, _⟩ | ⟨tree', whole, _, _, parsed', found', rfl⟩
      · exact absurd empty filled
      · rw [parsed] at parsed'
        cases parsed'
        obtain ⟨whole', found'', _, pruned⟩ := image.whole
        rw [found'] at found''
        cases found''
        exact pruned

/-- A list of which the items are within the limit, with a comment that is kept and a blank text
that is not. -/
theorem isImage_of_limited_list : ∃ d : Document,
    (read { maxDepth := some 1, keepsComments := true }
      (some "<ul> <!--x--><li>a</li></ul>")).result = .ok d ∧
    d.root.children.map Node.kind = [.comment, .element] ∧
    (∀ l ∈ ({ maxDepth := some 1, keepsComments := true } : ReadOptions).maxDepth, 0 ≤ l) ∧
    ∃ tree, Tree.parse "<ul> <!--x--><li>a</li></ul>" = .ok tree ∧
      IsImage { maxDepth := some 1, keepsComments := true } ((Place.ofTree tree).getD default)
        d.root := by
  have known : (read { maxDepth := some 1, keepsComments := true }
      (some "<ul> <!--x--><li>a</li></ul>")).result.toOption.map
        (fun d => d.root.children.map Node.kind) = some [.comment, .element] := by decide +kernel
  have limit : ∀ l ∈ ({ maxDepth := some 1, keepsComments := true } : ReadOptions).maxDepth,
      0 ≤ l := by
    rintro l ⟨⟩
    decide
  cases h : (read { maxDepth := some 1, keepsComments := true }
      (some "<ul> <!--x--><li>a</li></ul>")).result with
  | error e =>
    rw [h] at known
    cases known
  | ok d =>
    rw [h] at known
    have trimmed : trim "<ul> <!--x--><li>a</li></ul>" = "<ul> <!--x--><li>a</li></ul>" := by
      decide +kernel
    have image := (isImage_of_limit { maxDepth := some 1, keepsComments := true } limit).2.2 _ d h
    rw [trimmed] at image
    rcases image with ⟨empty, _⟩ | ⟨tree, parsed, image, _⟩
    · exact absurd empty (by decide)
    · exact ⟨d, rfl, Option.some.inj known, limit, tree, parsed, image⟩

end Componentry.Document
