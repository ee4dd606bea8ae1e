import Componentry.Proofs.Document.Tidy
import Componentry.Proofs.Jsx.Emission
import Componentry.Proofs.Text.Pieces

/-!
# Rendered texts

Every text of a page that is not blank stands on a line of the rendered page: an element that closes
where it opens has nothing inside but blank texts.
-/

set_option autoImplicit false

namespace Componentry.Node
open Componentry.Text Componentry.Jsx

/-- A text that is not blank. -/
def isShownText (n : Node) : Bool := n.kind == .text && !isBlankText n.textOrNone

/-- A line with a text. -/
def IsLineOf (t : Node) (line : Line) : Prop :=
  ∃ first last, line.content = .text (textLine first last t.textOrNone)

variable {attributes : Label → String} {level : Int} {t : Node}

/-- The line of a text holds the text, without the blanks around it and escaped. -/
theorem IsLineOf.infix_write {line : Line} (h : IsLineOf t line) :
    (escapeText (trim t.textOrNone)).toList <:+: line.write.toList := by
  obtain ⟨first, last, content⟩ := h
  rw [Line.write, content, LineContent.write, textLine, String.toList_append, String.toList_append,
    String.toList_append]
  exact (List.infix_append _ _ _).trans (List.suffix_append _ _).isInfix

/-- The lines of nodes have the lines of each that is rendered. -/
theorem exists_lines_subset (attributes : Label → String) (level : Int) {n : Node}
    (renderable : n.renders = true) : ∀ (first : Bool) {l : List Node}, n ∈ l →
    ∃ start stop, n.lines attributes level start stop ⊆ linesAll attributes level first l
  | first, m :: rest, h => by
    rw [linesAll]
    rcases List.mem_cons.1 h with rfl | h
    · rw [if_pos renderable]
      exact ⟨_, _, List.subset_append_left _ _⟩
    · split
      · obtain ⟨start, stop, sub⟩ := exists_lines_subset attributes level renderable false h
        exact ⟨start, stop, List.Subset.trans sub (List.subset_append_right _ _)⟩
      · exact exists_lines_subset attributes level renderable first h

section
variable (shown : t.isShownText = true)
include shown

/-- A node that a text is met from is rendered. -/
theorem renders_of_mem_preorder {n : Node} (plain : IsPlain n) (h : t ∈ n.preorder) :
    n.renders = true := by
  obtain ⟨_, filled⟩ := Bool.and_eq_true_iff.1 shown
  rw [renders, Bool.or_eq_true]
  by_cases text : n.kind = .text
  · cases plain with
    | @mk label children leaf _ =>
      have bare : children = [] := leaf fun element => by
        have both : label.kind = .text := text
        rw [element] at both
        cases both
      rw [preorder_mk, bare, preorderAll_nil, List.mem_singleton] at h
      rw [bare, ← h]
      exact .inr filled
  · exact .inl (bne_iff_ne.2 text)

/-- The lines of a node have one for every text met from it. -/
theorem exists_line {n : Node} (plain : IsPlain n) (tidy : IsTidy n) (h : t ∈ n.preorder)
    (level : Int) (first last : Bool) :
    ∃ line ∈ n.lines attributes level first last, IsLineOf t line := by
  induction plain generalizing level first last with
  | @mk label children leaf below ih =>
    rw [preorder_mk] at h
    rcases List.mem_cons.1 h with rfl | h
    · obtain ⟨text, filled⟩ := Bool.and_eq_true_iff.1 shown
      have kind : label.kind = .text := beq_iff_eq.1 text
      have content : isBlankText (label.text.getD "") = false := (Bool.not_eq_eq_eq_not.1 filled)
      refine ⟨⟨level, .text (textLine first last (label.text.getD ""))⟩, ?_, first, last, rfl⟩
      simp only [lines, kind, content, Bool.false_eq_true, if_false, List.mem_singleton]
    · obtain ⟨c, hc, h⟩ := mem_preorderAll.1 h
      have filled : children ≠ [] := List.ne_nil_of_mem hc
      have element : label.kind = .element := Decidable.byContradiction fun other =>
        filled (leaf other)
      have renderable := renders_of_mem_preorder shown (below c hc) h
      -- something is rendered inside, so the element does not close where it opens
      have opens : ¬ closesAtOnce label children = true := by
        rw [closesAtOnce, Bool.or_eq_true, not_or, Bool.not_eq_true', Bool.not_eq_false]
        exact ⟨fun closing => filled (children_of_selfClosing tidy closing),
          List.any_eq_true.2 ⟨c, hc, renderable⟩⟩
      cases tidy with
      | mk _ _ inner _ =>
        obtain ⟨start, stop, sub⟩ :=
          exists_lines_subset attributes (level + 1) renderable true hc
        obtain ⟨line, mem, eq⟩ := ih c hc (inner c hc) h (level + 1) start stop
        refine ⟨line, ?_, eq⟩
        simp only [lines, element, if_neg opens]
        exact List.mem_append_left _ (List.mem_cons_of_mem _ (sub mem))

/-- What stands for a root has a line for every text met from the root. -/
theorem exists_outermost_line {root : Node} (plain : ∀ c ∈ root.children, IsPlain c)
    (tidy : IsTidy root) (kind : root.kind = .element ∨ root.kind = .fragment)
    (h : t ∈ root.preorder) (level : Int) :
    ∃ n, root.outermost? = some n ∧
      ∃ line ∈ n.lines attributes level true true, IsLineOf t line := by
  obtain ⟨label, children⟩ := root
  rcases kind with element | fragment
  · have other : ¬ ((Node.mk label children).kind == .fragment) = true := by
      rw [element]
      exact Bool.false_ne_true
    have whole : IsPlain (.mk label children) := .mk (fun leaf => absurd element leaf) plain
    exact ⟨_, by rw [outermost?, if_neg other], exists_line shown whole tidy h level true true⟩
  · rw [preorder_mk] at h
    rcases List.mem_cons.1 h with rfl | h
    · obtain ⟨text, _⟩ := Bool.and_eq_true_iff.1 shown
      rw [fragment] at text
      cases text
    · obtain ⟨c, hc, h⟩ := mem_preorderAll.1 h
      have below : c.IsTidy := by
        cases tidy with
        | mk _ _ below _ => exact below c hc
      have renderable := renders_of_mem_preorder shown (plain c hc) h
      have kept : c ∈ (Node.mk label children).children.filter renders :=
        List.mem_filter.2 ⟨hc, renderable⟩
      rw [outermost?, if_pos (beq_iff_eq.2 fragment)]
      split
      next none =>
        rw [none] at kept
        cases kept
      next n only =>
        rw [only, List.mem_singleton] at kept
        subst kept
        exact ⟨c, rfl, exists_line shown (plain c hc) below h level true true⟩
      next =>
        obtain ⟨start, stop, sub⟩ :=
          exists_lines_subset attributes (level + 1) renderable true hc
        obtain ⟨line, mem, eq⟩ := exists_line shown (plain c hc) below h (level + 1) start stop
        have kind : label.kind = .fragment := fragment
        refine ⟨_, rfl, line, ?_, eq⟩
        simp only [lines, kind]
        exact List.mem_append_left _ (List.mem_cons_of_mem _ (sub mem))

/-- A rendered page has a line for every text of the page. -/
theorem exists_renderedLine {root : Node} (plain : ∀ c ∈ root.children, IsPlain c)
    (tidy : IsTidy root) (kind : root.kind = .element ∨ root.kind = .fragment)
    (h : t ∈ root.preorder) (level : Int) :
    ∃ line ∈ root.renderedLines attributes level, IsLineOf t line := by
  obtain ⟨n, outermost, line, mem, eq⟩ := exists_outermost_line shown plain tidy kind h level
  refine ⟨line, ?_, eq⟩
  rw [renderedLines, emitted_eq, outermost, Option.toList_some, List.flatMap_singleton]
  split
  next none =>
    rw [none] at mem
    cases mem
  next => exact mem

/-- A rendered page holds every text of the page, without the blanks around it and escaped. -/
theorem infix_rendered {root : Node} (plain : ∀ c ∈ root.children, IsPlain c) (tidy : IsTidy root)
    (kind : root.kind = .element ∨ root.kind = .fragment) (h : t ∈ root.preorder) :
    (escapeText (trim t.textOrNone)).toList <:+: (root.rendered attributes level).toList := by
  obtain ⟨line, mem, eq⟩ := exists_renderedLine shown plain tidy kind h level
  exact eq.infix_write.trans (infix_join (List.mem_map_of_mem mem))

end

end Componentry.Node
