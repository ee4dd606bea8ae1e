import Componentry.Jsx.Source
import Componentry.Proofs.Document.Tidy
import Componentry.Proofs.Outcome
import Componentry.Proofs.Jsx.Expression
import Componentry.Proofs.Jsx.Marks

/-!
# Words of rendered pages

Everything in a page that was read as it stands is rendered, so the texts that the rendered page
shows are those of the page. It says their words exactly when texts that meet are read apart where,
and only where, a blank stands between them: a blank at the start or the end of an element is not
kept.
-/

set_option autoImplicit false

namespace Componentry
open Componentry.Text Componentry.Jsx

namespace Node

/-- A filled node is rendered. -/
theorem IsFilled.renders {n : Node} (h : n.IsFilled) : n.renders = true := by
  cases h with
  | text kind filled => exact Bool.or_eq_true_iff.2 (.inr (congrArg not filled))
  | element kind _ =>
    refine Bool.or_eq_true_iff.2 (.inl (bne_iff_ne.2 fun text => ?_))
    rw [Node.kind, Node.label, kind] at text
    cases text

mutual
/-- The marks of a node say its texts. -/
theorem characters_marks (first last : Bool) : ∀ n : Node, n.IsFilled → n.IsTidy →
    (n.marks first last).flatMap Mark.characters = charactersOf n.preorder
  | .mk label children, filled, tidy => by
    cases filled with
    | text kind filled =>
      rw [marks, preorder_mk, preorderAll]
      simp [kind, filled, Mark.characters, charactersOf, Node.kind, Node.label, textOrNone]
    | element kind below =>
      have others : ∀ c ∈ children, c.IsTidy := by
        cases tidy with
        | mk _ _ others _ => exact others
      have inner := characters_marksAll true children below others
      rw [charactersOf_mk (by rw [kind]; decide), marks]
      simp only [kind]
      split
      next closes =>
        have bare : children = [] := by
          rcases Bool.or_eq_true_iff.1 closes with named | none
          · exact children_of_selfClosing tidy named
          · refine List.eq_nil_iff_forall_not_mem.2 fun c hc => ?_
            rw [Bool.not_eq_true', List.any_eq_false] at none
            exact none c hc (below c hc).renders
        rw [bare, preorderAll]
        rfl
      next =>
        rw [List.cons_append, List.flatMap_cons, List.flatMap_append, inner]
        simp [Mark.characters]

/-- The marks of nodes say their texts. -/
theorem characters_marksAll (first : Bool) : ∀ l : List Node, (∀ n ∈ l, n.IsFilled) →
    (∀ n ∈ l, n.IsTidy) → (marksAll first l).flatMap Mark.characters = charactersOf (preorderAll l)
  | [], _, _ => by
    rw [marksAll, preorderAll]
    rfl
  | n :: rest, filled, tidy => by
    obtain ⟨filledFirst, filled⟩ := List.forall_mem_cons.1 filled
    obtain ⟨tidyFirst, tidy⟩ := List.forall_mem_cons.1 tidy
    rw [marksAll, if_pos filledFirst.renders, preorderAll, List.flatMap_append,
      characters_marks first _ n filledFirst tidyFirst, characters_marksAll false rest filled tidy,
      charactersOf_append]
end

/-- The marks of a page say its texts. -/
theorem characters_rootMarks {root : Node} (tidy : root.IsTidy)
    (filled : root.IsFilled ∨ root.kind = .fragment ∧ ∀ c ∈ root.children, IsFilled c) :
    root.rootMarks.flatMap Mark.characters = root.textContent.toList := by
  have word : root.rootMarks.flatMap Mark.characters =
      (root.outermost?.toList.flatMap (marks true true)).flatMap Mark.characters := by
    rw [rootMarks]
    split
    · next none => rw [none]; rfl
    · rfl
  rw [word, toList_textContent]
  -- The root itself is shown, or a fragment: then its only child or all of them under it.
  rcases filled with filled | ⟨fragment, below⟩
  · have other : ¬ (root.kind == .fragment) = true := by
      intro same
      have same := beq_iff_eq.1 same
      cases filled with
      | text kind _ => cases kind.symm.trans same
      | element kind _ => cases kind.symm.trans same
    rw [outermost?, if_neg other, Option.toList_some, List.flatMap_singleton]
    exact characters_marks true true root filled tidy
  · obtain ⟨label, children⟩ := root
    have others : ∀ c ∈ children, c.IsTidy := by
      cases tidy with
      | mk _ _ others _ => exact others
    have kept : (mk label children).children.filter renders = children :=
      List.filter_eq_self.2 fun c hc => (below c hc).renders
    have kind : label.kind = .fragment := fragment
    have inner := characters_marksAll true children below others
    rw [charactersOf_mk (by rw [kind]; decide), outermost?, if_pos (beq_iff_eq.2 fragment), kept]
    split
    next => rfl
    next n =>
      have one := characters_marks true true n (below n List.mem_cons_self)
        (others n List.mem_cons_self)
      rw [Option.toList_some, List.flatMap_singleton, one, preorderAll, preorderAll,
        List.append_nil]
    next =>
      rw [Option.toList_some, List.flatMap_singleton, marks]
      simp only [kind]
      rw [List.cons_append, List.flatMap_cons, List.flatMap_append, inner]
      simp [Mark.characters]

/-- The pieces of a rendered page spell it, the line feed before it included. -/
theorem characters_rendered (o : SourceOptions) (rules : CustomRules) (level : Int) (root : Node) :
    (pieces (root.renderedLines (o.attributesOf rules) level)).flatMap Piece.characters =
      '\n' :: (o.render rules level root).text.toList := by
  rw [characters_pieces]
  exact (lineFeed_cons_join renderedLines_ne_nil).symm

end Node

namespace Document

/-- The words of a rendered page are those of its texts exactly when these are read apart where they
stand apart. -/
theorem words_read_iff {o : ReadOptions} (keeps : Node.KeepsFilled o) {markup : Option String}
    {d : Document} (h : (read o markup).result = .ok d) (attributes : Label → String)
    (level : Int) :
    words (Jsx.read (pieces (d.root.renderedLines attributes level))) = words d.root.textContent ↔
      ∀ m ∈ Mark.meetings d.root.rootMarks, m.isReadApart = m.standsApart := by
  have shows : List.Forall₂ Line.Shows (d.root.renderedLines attributes level) d.root.rootMarks :=
    Node.forall₂_shows_renderedLines level d.root
  have said := Node.characters_rootMarks (isTidy_of_read h) (isFilled_of_read keeps h)
  have spelled : (Jsx.read (pieces (d.root.renderedLines attributes level))).toList =
      readFrom {} (signsOf (d.root.renderedLines attributes level)) := String.toList_ofList
  rw [words, words, spelled, (List.map_injective_iff.2 fun _ _ => String.ofList_injective).eq_iff,
    ← said]
  exact Mark.wordsOf_read_eq_iff shows

end Document
end Componentry
