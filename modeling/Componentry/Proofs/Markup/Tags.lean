import Componentry.Markup.Tree.Printer
import Mathlib.Data.List.Forall2

/-!
# The elements of a tree that was built

A tree has an element for each start tag it was built from, with the name and the attributes of the
tag and in the order of the tags. Where elements end only says what is inside what, and strings are
no elements.
-/

set_option autoImplicit false

namespace Componentry.Markup

namespace Tree

/-- The tags of the elements in trees, in document order. -/
def tagsIn (trees : List Tree) : List Tag := (elementsIn trees).filterMap tag?

@[simp] theorem tagsIn_nil : tagsIn [] = [] := by
  rw [tagsIn, elementsIn]
  rfl

@[simp] theorem tagsIn_element (tag : Tag) (children rest : List Tree) :
    tagsIn (.element tag children :: rest) = tag :: (tagsIn children ++ tagsIn rest) := by
  rw [tagsIn, elementsIn, elements, List.cons_append, List.filterMap_cons, tag?,
    List.filterMap_append]
  rfl

@[simp] theorem tagsIn_string (kind : StringKind) (text : String) (rest : List Tree) :
    tagsIn (.string kind text :: rest) = tagsIn rest := by
  rw [tagsIn, elementsIn, elements, List.nil_append]
  rfl

/-- The tags of two forests in a row are those of the one, then those of the other. -/
theorem tagsIn_append (trees trees' : List Tree) :
    tagsIn (trees ++ trees') = tagsIn trees ++ tagsIn trees' := by
  induction trees with
  | nil => rfl
  | cons t rest ih => cases t <;> simp [ih]

end Tree

/-- Tags of one name whose attributes have the same values. -/
structure Tag.IsLike (tag other : Tag) : Prop where
  name : tag.name = other.name
  values : ∀ a, tag.value? a = other.value? a

/-- What is written of trees is read as markup with the same tags, in the same order. -/
def Tree.RereadsTags (trees : List Tree) : Prop :=
  ∃ tree, parse (writeAll false trees) = .ok tree ∧
    List.Forall₂ Tag.IsLike (tagsIn tree.children) (tagsIn trees)

/-- The names and the attributes of the elements in trees, as they stand. -/
def Tree.spelledTags (trees : List Tree) : List (String × List (String × String)) :=
  (tagsIn trees).map fun tag => (tag.name, tag.attributes.entries)

/-- What is written of trees is read as markup with the very same tags, decided. -/
def Tree.respells (trees : List Tree) : Bool :=
  (parse (writeAll false trees)).toOption.any fun tree =>
    spelledTags tree.children == spelledTags trees

/-- What the check decides is enough: the very same tags are read. -/
theorem Tree.rereadsTags_of_respells {trees : List Tree} (same : respells trees = true) :
    RereadsTags trees := by
  have injective : Function.Injective fun tag : Tag => (tag.name, tag.attributes.entries) := by
    rintro ⟨name, attributes⟩ ⟨name', attributes'⟩ equal
    obtain ⟨rfl, values⟩ := Prod.mk.inj equal
    exact congrArg (Tag.mk name) (Dict.ext_entries values)
  rw [respells, Option.any_eq_true] at same
  obtain ⟨tree, read, spelled⟩ := same
  refine ⟨tree, ?_, ?_⟩
  · cases parsed : parse (writeAll false trees) with
    | error f =>
      rw [parsed] at read
      cases read
    | ok tree' =>
      rw [parsed] at read
      cases read
      rfl
  · rw [List.map_injective_iff.2 injective (beq_iff_eq.1 spelled), List.forall₂_same]
    exact fun tag _ => ⟨rfl, fun _ => rfl⟩

/-- The element that a token starts. -/
def Token.tag? : Token → Option Tag
  | .start name attributes _ => some ⟨name, attributesOf name attributes⟩
  | .data _ | .finish _ | .comment _ | .cdata _ | .doctype _ | .instruction _ | .declaration _ =>
    none

/-! ## Open elements -/

namespace Frame

/-- The tags of an open element and of what is in it so far. -/
def tags (f : Frame) : List Tag := f.tag :: Tree.tagsIn f.children.reverse

/-- A frame that takes in a tree has the tags of the tree last. -/
theorem tags_adopt (f : Frame) (t : Tree) : (f.adopt t).tags = f.tags ++ Tree.tagsIn [t] := by
  rw [tags, adopt, List.reverse_cons, Tree.tagsIn_append]
  rfl

/-- A frame closes to a tree with its tags. -/
theorem tagsIn_toTree (f : Frame) : Tree.tagsIn [f.toTree] = f.tags := by
  rw [toTree, Tree.tagsIn_element, Tree.tagsIn_nil, List.append_nil, tags]

/-- The tags of an open element and of those around it, the outermost first. -/
def tagsWithin : Frame → List Frame → List Tag
  | f, [] => f.tags
  | f, g :: outer => tagsWithin g outer ++ f.tags

/-- A tree that is taken in adds its tags behind those around it. -/
theorem tagsWithin_adopt (f : Frame) (t : Tree) : ∀ outer : List Frame,
    tagsWithin (f.adopt t) outer = tagsWithin f outer ++ Tree.tagsIn [t]
  | [] => tags_adopt f t
  | g :: outer => by rw [tagsWithin, tagsWithin, tags_adopt, List.append_assoc]

/-- An element that closes keeps its place in the order. -/
theorem tagsWithin_close (f g : Frame) (outer : List Frame) :
    tagsWithin (g.adopt f.toTree) outer = tagsWithin f (g :: outer) := by
  rw [tagsWithin_adopt, tagsIn_toTree, tagsWithin]

/-- To close elements down to a name moves no tag. -/
theorem tagsWithin_closeTo (name : String) : ∀ (f : Frame) (outer : List Frame),
    tagsWithin (closeTo name f outer).1 (closeTo name f outer).2 = tagsWithin f outer
  | _, [] => rfl
  | f, g :: outer => by
    rw [closeTo]
    split
    · exact tagsWithin_close f g outer
    · rw [tagsWithin_closeTo name _ outer, tagsWithin_close]

/-- To close all elements moves no tag. -/
theorem tagsIn_closeAll : ∀ (f : Frame) (outer : List Frame),
    Tree.tagsIn [closeAll f outer] = tagsWithin f outer
  | f, [] => tagsIn_toTree f
  | f, g :: outer => by rw [closeAll, tagsIn_closeAll _ outer, tagsWithin_close]

end Frame

/-! ## Building -/

namespace Builder

/-- The tags of all elements that were started. -/
def tags (b : Builder) : List Tag := Frame.tagsWithin b.current b.outer

/-- Text adds no tag. -/
theorem tags_endString (b : Builder) (kind : Option StringKind) :
    (b.endString kind).tags = b.tags := by
  unfold endString
  split
  · rfl
  · rw [tags, Frame.tagsWithin_adopt, Tree.tagsIn_string, Tree.tagsIn_nil, List.append_nil, tags]

/-- A string of its own adds no tag. -/
theorem tags_addString (b : Builder) (kind : StringKind) (characters : List Char) :
    (b.addString kind characters).tags = b.tags := by
  rw [addString, tags_endString]
  exact tags_endString b none

/-- An element that is opened adds its tag behind the others. -/
theorem tags_push (b : Builder) (tag : Tag) : (b.push tag).tags = b.tags ++ [tag] := by
  rw [← tags_endString b none]
  rfl

/-- To close an element adds no tag. -/
theorem tags_close (b : Builder) (name : String) : (b.close name).tags = b.tags := by
  rw [← tags_endString b none, close]
  dsimp only
  split
  · exact Frame.tagsWithin_closeTo name _ _
  · rfl

/-- The end of an element adds no tag, whether it is open or not. -/
theorem tags_finish (b : Builder) (name : String) : (b.finish name).tags = b.tags := by
  rw [finish]
  split
  · rfl
  · exact tags_close b name

/-- A token adds the element that it starts. -/
theorem tags_step (b : Builder) (token : Token) :
    (b.step token).tags = b.tags ++ token.tag?.toList := by
  cases token with
  | start name attributes closed =>
    rw [Token.tag?, Option.toList_some, ← tags_push, step]
    dsimp only
    split
    · exact tags_close _ name
    · split
      · exact tags_close _ name
      · rfl
  | data characters =>
    rw [Token.tag?, Option.toList_none, List.append_nil, step]
    split <;> rfl
  | finish name => exact (tags_finish b name).trans (List.append_nil _).symm
  | comment characters
  | cdata characters
  | doctype characters
  | instruction characters
  | declaration characters => exact (tags_addString b _ characters).trans (List.append_nil _).symm

/-- A run of tokens adds the tags of its starts, in their order. -/
theorem tags_foldl : ∀ (tokens : List Token) (b : Builder),
    (tokens.foldl step b).tags = b.tags ++ tokens.filterMap Token.tag?
  | [], b => (List.append_nil _).symm
  | token :: rest, b => by
    rw [List.foldl_cons, tags_foldl rest, tags_step, List.append_assoc]
    cases started : token.tag? with
    | none => rw [List.filterMap_cons_none started, Option.toList_none, List.nil_append]
    | some tag => rw [List.filterMap_cons_some started, Option.toList_some, List.singleton_append]

/-- The tree that was built has the tags that were collected. -/
theorem tagsIn_done (b : Builder) : Tree.tagsIn [b.done] = b.tags := by
  rw [done, Frame.tagsIn_closeAll]
  exact tags_endString b none

end Builder

/-- The elements of a tree are those its tokens start. -/
theorem Tree.tagsIn_ofTokens (tokens : List Token) :
    tagsIn (ofTokens tokens).children = tokens.filterMap Token.tag? := by
  have whole : tagsIn [ofTokens tokens] =
      ⟨Builder.documentName, Dict.empty⟩ :: tokens.filterMap Token.tag? := by
    rw [ofTokens, Builder.tagsIn_done, Builder.tags_foldl]
    rfl
  cases built : ofTokens tokens with
  | string kind text =>
    rw [built, tagsIn_string, tagsIn_nil] at whole
    cases whole
  | element tag children =>
    rw [built, tagsIn_element, tagsIn_nil, List.append_nil] at whole
    exact (List.cons.inj whole).2

end Componentry.Markup
