import Componentry.Attributes
import Componentry.Proofs.Markup.Tidy

/-!
# Building trees from tokens that were written

What the tokens of an element add to the innermost open element is one tree, with what the tokens
between its tags add inside it. No end tag is passed over for one that was written: only elements
that are written without an end tag leave one due.
-/

set_option autoImplicit false

namespace Componentry.Markup
open Componentry.Text

namespace Builder

/-- From one state of building to another one, trees were taken in by the innermost open element. -/
structure Took (b : Builder) (trees : List Tree) (c : Builder) : Prop where
  tag : c.current.tag = b.current.tag
  outer : c.outer = b.outer
  children : (c.endString none).current.children =
    trees.reverse ++ (b.endString none).current.children
  passed : ∀ name ∈ c.passedOver, name ∈ b.passedOver ∨ name ∈ voidElements

/-- Only end tags of elements that are written without one are still passed over. -/
def IsOwed (b : Builder) : Prop := ∀ name ∈ b.passedOver, name ∈ voidElements

variable {b c d : Builder} {l m : List Tree}

/-- A builder that stays took nothing in. -/
theorem Took.refl (b : Builder) : Took b [] b := ⟨rfl, rfl, rfl, fun _ h => .inl h⟩

/-- What was taken in twice was taken in together. -/
theorem Took.trans (first : Took b l c) (second : Took c m d) : Took b (l ++ m) d where
  tag := second.tag.trans first.tag
  outer := second.outer.trans first.outer
  children := by
    rw [second.children, first.children, List.reverse_append, List.append_assoc]
  passed name h := (second.passed name h).elim (first.passed name) .inr

/-- To take trees in adds no other end tags to pass over. -/
theorem Took.isOwed (h : Took b l c) (owed : b.IsOwed) : c.IsOwed := fun name mem =>
  (h.passed name mem).elim (owed name) id

/-- The innermost element stays when text is taken in. -/
theorem tag_endString (b : Builder) (kind : Option StringKind) :
    (b.endString kind).current.tag = b.current.tag := by
  unfold endString
  split <;> rfl

/-- The elements around it stay when text is taken in. -/
theorem outer_endString (b : Builder) (kind : Option StringKind) :
    (b.endString kind).outer = b.outer := by
  unfold endString
  split <;> rfl

/-- The ends to pass over stay when text is taken in. -/
theorem passedOver_endString (b : Builder) (kind : Option StringKind) :
    (b.endString kind).passedOver = b.passedOver := by
  unfold endString
  split <;> rfl

/-- Taking in a tree at once. -/
theorem took_adopt {t : Tree} (tag : c.current.tag = b.current.tag) (outer : c.outer = b.outer)
    (idle : c.pending = none)
    (children : c.current.children = t :: (b.endString none).current.children)
    (passed : ∀ name ∈ c.passedOver, name ∈ b.passedOver ∨ name ∈ voidElements) : Took b [t] c where
  tag := tag
  outer := outer
  children := by
    rw [endString_of_pending_eq_none idle, children]
    rfl
  passed := passed

/-! ## Strings -/

/-- Data is put behind the text that is pending. -/
theorem step_data (b : Builder) (piece : List Char) : b.step (.data piece) =
    if piece.isEmpty then b else { b with pending := some (b.pending.getD [] ++ piece) } :=
  rfl

/-- Empty data changes nothing. -/
theorem foldl_step_data_of_nil : ∀ {pieces : List (List Char)} (b : Builder), pieces.flatten = [] →
    (pieces.map Token.data).foldl step b = b
  | [], _, _ => rfl
  | piece :: pieces, b, none_ => by
    rw [List.flatten_cons, List.append_eq_nil_iff] at none_
    rw [List.map_cons, List.foldl_cons, step_data, none_.1]
    exact foldl_step_data_of_nil b none_.2

/-- Pieces of data are one string in the end. -/
theorem foldl_step_data : ∀ {pieces : List (List Char)} (b : Builder), pieces.flatten ≠ [] →
    (pieces.map Token.data).foldl step b =
      { b with pending := some (b.pending.getD [] ++ pieces.flatten) }
  | [], b, some_ => absurd rfl some_
  | piece :: pieces, b, some_ => by
    rw [List.map_cons, List.foldl_cons, step_data]
    split
    next empty =>
      rw [List.isEmpty_iff] at empty
      rw [empty, List.flatten_cons, List.nil_append] at some_ ⊢
      exact foldl_step_data b some_
    next =>
      by_cases rest : pieces.flatten = []
      · rw [foldl_step_data_of_nil _ rest, List.flatten_cons, rest, List.append_nil]
      · rw [foldl_step_data _ rest, List.flatten_cons]
        simp only [Option.getD_some, List.append_assoc]

/-- A string that is not blank stays as it is. -/
theorem settle_of_filled {s : List Char} (filled : s.all isBlank = false) (b : Builder) :
    b.settle s = s := by
  have more : s.all isPlainBlank = false := by
    rw [List.all_eq_false] at filled ⊢
    obtain ⟨c, mem, other⟩ := filled
    exact ⟨c, mem, fun plain => other (isBlank_of_isPlainBlank plain)⟩
  rw [settle, more, Bool.false_and, if_neg Bool.false_ne_true]

/-- A text is taken in as one string. -/
theorem took_text {s : List Char} (filled : s.all isBlank = false) {pieces : List (List Char)}
    (whole : pieces.flatten = s) (idle : b.pending = none) :
    Took b [.string b.dataKind (String.ofList s)] ((pieces.map Token.data).foldl step b) := by
  have some_ : pieces.flatten ≠ [] := by
    rintro none_
    rw [← whole, none_] at filled
    cases filled
  rw [foldl_step_data b some_, whole, idle, Option.getD_none, List.nil_append]
  refine ⟨rfl, rfl, ?_, fun _ mem => .inl mem⟩
  rw [endString_of_pending_eq_none idle]
  show Tree.string b.dataKind (String.ofList (b.settle s)) :: b.current.children = _
  rw [settle_of_filled filled]
  rfl

/-- A comment is taken in as a string of its own. -/
theorem took_comment (b : Builder) (s : List Char) : (b.step (.comment s)).pending = none ∧
    ∃ text, Took b [.string .comment text] (b.step (.comment s)) := by
  have idle : (b.step (.comment s)).pending = none := pending_endString _ _
  refine ⟨idle, String.ofList ((b.endString none).settle s), ?_⟩
  refine took_adopt (tag_endString b none) (outer_endString b none) idle rfl fun name mem => .inl ?_
  exact passedOver_endString b none ▸ mem

/-! ## Elements -/

/-- The tag of an element with attributes as they are written. -/
def tagOf (name : String) (attributes : List (String × String)) : Tag :=
  ⟨name, attributesOf name attributes⟩

/-- Every element that is written without an end tag holds nothing. -/
theorem voidElements_subset : voidElements ⊆ voidNames := by decide

section
variable {name : String} {attributes : List (String × String)}

/-- An element that may hold something is opened. -/
theorem step_start (holds : voidNames.contains name = false) (b : Builder) :
    b.step (.start name attributes false) = b.push (tagOf name attributes) := by
  simp only [step, holds, Bool.false_eq_true, if_false, tagOf]

/-- To open an element adds no end tag to pass over. -/
theorem isOwed_step_start (holds : voidNames.contains name = false) (owed : b.IsOwed) :
    (b.step (.start name attributes false)).IsOwed := by
  rw [step_start holds]
  exact fun n mem => owed n (passedOver_endString b none ▸ mem)

/-- No text is pending in an element that was just opened. -/
theorem pending_step_start (holds : voidNames.contains name = false) (b : Builder) :
    (b.step (.start name attributes false)).pending = none := by
  rw [step_start holds]
  exact pending_endString b none

/-- An element that holds nothing is taken in at its start tag, and leaves an end tag due. -/
theorem step_start_of_void (void : voidNames.contains name = true) (b : Builder) :
    b.step (.start name attributes false) =
      { b.endString none with
        current := (b.endString none).current.adopt (.element (tagOf name attributes) [])
        passedOver := name :: (b.endString none).passedOver } := by
  have other : name ≠ documentName := by
    rintro rfl
    exact absurd void (by decide)
  have closed : (b.push (tagOf name attributes)).close name = _ := close_push b other
  rw [step]
  dsimp only
  rw [if_neg Bool.false_ne_true, if_pos void, ← tagOf, closed]

/-- An element that is written without an end tag is taken in at its start tag. -/
theorem took_void (void : name ∈ voidElements) (b : Builder) :
    (b.step (.start name attributes false)).pending = none ∧
      Took b [.element (tagOf name attributes) []]
        (b.step (.start name attributes false)) := by
  rw [step_start_of_void (List.contains_iff_mem.2 (voidElements_subset void))]
  refine ⟨pending_endString b none, took_adopt (tag_endString b none) (outer_endString b none)
    (pending_endString b none) rfl fun n mem => ?_⟩
  rw [passedOver_endString] at mem
  rcases List.mem_cons.1 mem with rfl | mem
  · exact .inr void
  · exact .inl mem

/-- The end tag that an element without content leaves due is passed over. -/
theorem took_closed (void : voidNames.contains name = true) (b : Builder) :
    ((b.step (.start name attributes false)).step (.finish name)).pending = none ∧
      Took b [.element (tagOf name attributes) []]
        ((b.step (.start name attributes false)).step (.finish name)) := by
  have passed : (b.step (.start name attributes false)).step (.finish name) =
      { b.endString none with
        current :=
          (b.endString none).current.adopt (.element (tagOf name attributes) []) } := by
    rw [step_start_of_void void, step, finish, if_pos (by simp)]
    simp
  rw [passed]
  exact ⟨pending_endString b none, took_adopt (tag_endString b none) (outer_endString b none)
    (pending_endString b none) rfl fun n mem => .inl (passedOver_endString b none ▸ mem)⟩

/-- What the tokens between the tags of an element give is inside it. -/
theorem took_element {trees : List Tree} {c : Builder} (holds : voidNames.contains name = false)
    (other : name ≠ documentName) (owed : b.IsOwed)
    (inside : Took (b.step (.start name attributes false)) trees c) :
    (c.step (.finish name)).pending = none ∧
      Took b [.element (tagOf name attributes) trees] (c.step (.finish name)) := by
  rw [step_start holds] at inside
  have isOpen : (c.endString none).current.tag = tagOf name attributes :=
    (tag_endString c none).trans inside.tag
  have around : (c.endString none).outer = (b.endString none).current :: (b.endString none).outer :=
    (outer_endString c none).trans inside.outer
  have children : (c.endString none).current.children = trees.reverse := by
    have pushed : ((b.push (tagOf name attributes)).endString none).current.children =
        [] := by
      have idle : (b.push (tagOf name attributes)).pending = none := pending_endString b none
      rw [endString_of_pending_eq_none idle]
      rfl
    rw [inside.children, pushed, List.append_nil]
  -- No void element is held, so its name is not among the ends to pass over.
  have due : c.passedOver.contains name = false := by
    rw [← Bool.not_eq_true, List.contains_iff_mem]
    intro mem
    have void : name ∈ voidElements := (inside.passed name mem).elim
      (fun before => owed name (passedOver_endString b none ▸ before)) id
    rw [List.contains_iff_mem.2 (voidElements_subset void)] at holds
    cases holds
  have innermost : ((c.endString none).openNames.contains name && name != documentName) = true := by
    rw [Bool.and_eq_true, List.contains_iff_mem, bne_iff_ne, openNames, isOpen]
    exact ⟨List.mem_cons_self, other⟩
  have closing : Frame.closeTo name (c.endString none).current (c.endString none).outer =
      ((b.endString none).current.adopt (.element (tagOf name attributes) trees),
        (b.endString none).outer) := by
    have named : ((tagOf name attributes).name == name) = true := beq_self_eq_true name
    rw [around, Frame.closeTo, isOpen, if_pos named, Frame.toTree, isOpen, children,
      List.reverse_reverse]
  have closed : c.step (.finish name) = { c.endString none with
      current := (b.endString none).current.adopt (.element (tagOf name attributes) trees)
      outer := (b.endString none).outer } := by
    rw [step, finish, due, if_neg Bool.false_ne_true, close]
    dsimp only
    rw [if_pos innermost, closing]
  rw [closed]
  refine ⟨pending_endString c none, took_adopt (tag_endString b none) (outer_endString b none)
    (pending_endString c none) rfl fun n mem => ?_⟩
  rw [passedOver_endString] at mem
  exact (inside.passed n mem).imp_left fun before => passedOver_endString b none ▸ before

end

/-- The whole tree holds what was taken in. -/
theorem done_of_took {trees : List Tree} (h : Took start trees c) :
    c.done = .element ⟨documentName, Dict.empty⟩ trees := by
  have outer : (c.endString none).outer = [] := (outer_endString c none).trans h.outer
  have tag : (c.endString none).current.tag = ⟨documentName, Dict.empty⟩ :=
    (tag_endString c none).trans h.tag
  have children : (c.endString none).current.children = trees.reverse :=
    h.children.trans (List.append_nil _)
  rw [done, outer, Frame.closeAll, Frame.toTree, tag, children, List.reverse_reverse]

end Builder
end Componentry.Markup
