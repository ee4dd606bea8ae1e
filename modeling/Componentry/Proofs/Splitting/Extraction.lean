import Componentry.Splitting
import Componentry.Proofs.Document.Lineage

/-!
# Extracted elements

A visit carries along how many elements around it became components, and the nearest of these. The
limit cuts off only what has too many of them around it, and with an element all that is below it;
so all elements around an element that becomes a component, and for which there is a reason, have
become components as well.
-/

set_option autoImplicit false

namespace Componentry
open Componentry.Node

variable {α : Type}

namespace Node
variable {label : Label} {children : List Node}

/-- The test for another kind fails for an element. -/
theorem kind_of_isElement (element : (Node.mk label children).isElement = true) :
    (label.kind != .element) = false := by
  rw [bne, Bool.not_eq_false']
  exact element

/-- The test for another kind holds for all else. -/
theorem kind_of_not_isElement (other : ¬ (Node.mk label children).isElement = true) :
    (label.kind != .element) = true := by
  rw [bne, Bool.not_eq_true', ← Bool.not_eq_true]
  exact other

end Node

namespace Extraction

/-- There is a reason for an element to become a component. -/
def isReasoned (decide : Node → Option (Decision α)) (n : Node) : Bool := (decide n).isSome

/-- What becomes of an element with the elements around it, the nearest first. -/
def ofLineage? (decide : Node → Option (Decision α)) (deepest : Int) (p : Node × List Node) :
    Option (Extraction α) :=
  if (p.2.countP (isReasoned decide) : Int) ≤ deepest then
    (decide p.1).map fun decision =>
      ⟨p.1, p.2.countP (isReasoned decide), (p.2.find? (isReasoned decide)).map Node.id, decision⟩
  else none

section
variable {decide : Node → Option (Decision α)} {deepest : Int} {n : Node} {above : List Node}

/-- Where nothing is decided there is no reason to extract. -/
theorem isReasoned_of_none (reason : decide n = none) : isReasoned decide n = false := by
  rw [isReasoned, reason, Option.isSome_none]

/-- Where something is decided there is a reason to extract. -/
theorem isReasoned_of_some {decision : Decision α} (reason : decide n = some decision) :
    isReasoned decide n = true := by
  rw [isReasoned, reason, Option.isSome_some]

/-- An element without a reason is not extracted. -/
theorem ofLineage?_of_none (reason : decide n = none) :
    ofLineage? decide deepest (n, above) = none := by
  rw [ofLineage?, reason, Option.map_none, ite_self]

/-- An element with a reason is extracted below the elements around it, unless it is too deep.
-/
theorem ofLineage?_of_some {decision : Decision α} (reason : decide n = some decision)
    (shallow : (above.countP (isReasoned decide) : Int) ≤ deepest) :
    ofLineage? decide deepest (n, above) = some ⟨n, above.countP (isReasoned decide),
      (above.find? (isReasoned decide)).map Node.id, decision⟩ := by
  rw [ofLineage?, reason, if_pos shallow]
  rfl

end

end Extraction

namespace Visit
open Componentry.Extraction

variable {decide : Node → Option (Decision α)} {deepest : Int}

/-- Below too many components no element becomes one. -/
theorem filterMap_ofLineage?_of_lt {above : List Node} {l : List (Node × List Node)}
    (deep : deepest < (above.countP (isReasoned decide) : Int))
    (inside : ∀ p ∈ l, ∃ inner, p.2 = inner ++ above) :
    l.filterMap (ofLineage? decide deepest) = [] := by
  rw [List.filterMap_eq_nil_iff]
  intro p hp
  obtain ⟨inner, eq⟩ := inside p hp
  rw [ofLineage?, if_neg]
  rw [eq, List.countP_append]
  omega

mutual
/-- The visits below elements extract what the lineage says. -/
theorem extractions_below : ∀ (n : Node) (above : List Node),
    (below decide deepest (above.countP (isReasoned decide))
        ((above.find? (isReasoned decide)).map Node.id) n).filterMap extraction? =
      (lineage above n).filterMap (ofLineage? decide deepest)
  | .mk label children, above => by
    rw [below]
    -- Too deep the walk stops, and no lineage below is shallow enough; else it goes on inside.
    by_cases deep : deepest < (above.countP (isReasoned decide) : Int)
    · have cut : (label.kind != .element ||
          Decidable.decide (deepest < (above.countP (isReasoned decide) : Int))) = true := by
        rw [decide_eq_true deep, Bool.or_true]
      rw [if_pos cut, filterMap_ofLineage?_of_lt deep fun p hp => ?_]
      · rfl
      · obtain ⟨inner, eq, _⟩ := exists_of_mem_lineage _ hp
        exact ⟨inner, eq⟩
    · rw [decide_eq_false deep, Bool.or_false, lineage]
      by_cases element : (label.kind == .element) = true
      · rw [@kind_of_isElement label children element, if_neg Bool.false_ne_true, if_pos element]
        have inner := extractions_belowAll children (.mk label children :: above)
        dsimp only
        cases reason : decide (.mk label children) with
        | none =>
          have reasoned := isReasoned_of_none reason
          rw [List.countP_cons_of_neg (by rw [reasoned]; exact Bool.false_ne_true),
            List.find?_cons, reasoned] at inner
          have left : extraction? (α := α) ⟨.mk label children, above.countP (isReasoned decide),
              (above.find? (isReasoned decide)).map Node.id, none⟩ = none := rfl
          rw [List.filterMap_cons_none left,
            List.filterMap_cons_none (ofLineage?_of_none reason)]
          exact inner
        | some decision =>
          have reasoned := isReasoned_of_some reason
          rw [List.countP_cons_of_pos reasoned, List.find?_cons, reasoned] at inner
          have right := ofLineage?_of_some reason (Int.not_lt.1 deep)
          have left : extraction? (α := α) ⟨.mk label children, above.countP (isReasoned decide),
              (above.find? (isReasoned decide)).map Node.id, some decision⟩ =
              some ⟨.mk label children, above.countP (isReasoned decide),
                (above.find? (isReasoned decide)).map Node.id, decision⟩ := rfl
          dsimp only
          rw [List.filterMap_cons_some left, List.filterMap_cons_some right]
          exact congrArg (_ :: ·) inner
      · rw [if_pos (@kind_of_not_isElement label children element), if_neg element]
        rfl

/-- The visits below siblings extract what their lineages say. -/
theorem extractions_belowAll : ∀ (l : List Node) (above : List Node),
    (belowAll decide deepest (above.countP (isReasoned decide))
        ((above.find? (isReasoned decide)).map Node.id) l).filterMap extraction? =
      (lineageAll above l).filterMap (ofLineage? decide deepest)
  | [], above => by
    rw [belowAll, lineageAll]
    rfl
  | n :: rest, above => by
    rw [belowAll, lineageAll, List.filterMap_append, List.filterMap_append,
      extractions_below n above, extractions_belowAll rest above]
end

/-- Only elements have visits. -/
theorem belowAll_filter_isElement (depth : Nat) (owner : Option String) : ∀ l : List Node,
    belowAll decide deepest depth owner (l.filter isElement) = belowAll decide deepest depth owner l
  | [] => rfl
  | .mk label children :: rest => by
    rw [List.filter_cons]
    split
    next element => rw [belowAll, belowAll, belowAll_filter_isElement depth owner rest]
    next other =>
      rw [belowAll, below, if_pos (by rw [kind_of_not_isElement other, Bool.true_or]),
        List.nil_append,
        belowAll_filter_isElement depth owner rest]

mutual
/-- Only elements are visited. -/
theorem mem_elements_of_mem_below {depth : Nat} {owner : Option String} {v : Visit α} :
    ∀ {n : Node}, v ∈ below decide deepest depth owner n → v.node ∈ n.elements
  | .mk label children, h => by
    rw [below] at h
    split at h
    next => exact absurd h List.not_mem_nil
    next open_ =>
      have element : isElement (.mk label children) = true := by
        rw [Bool.or_eq_true, not_or, bne_iff_ne, not_not] at open_
        exact beq_iff_eq.2 open_.1
      rw [elements, preorder_mk, List.filter_cons, if_pos element]
      dsimp only at h
      split at h <;> rcases List.mem_cons.1 h with rfl | h
      · exact List.mem_cons_self
      · exact List.mem_cons_of_mem _ (mem_elements_of_mem_belowAll h)
      · exact List.mem_cons_self
      · exact List.mem_cons_of_mem _ (mem_elements_of_mem_belowAll h)

/-- Only elements are visited below siblings. -/
theorem mem_elements_of_mem_belowAll {depth : Nat} {owner : Option String} {v : Visit α} :
    ∀ {l : List Node}, v ∈ belowAll decide deepest depth owner l →
      v.node ∈ (preorderAll l).filter isElement
  | [], h => by
    rw [belowAll] at h
    exact absurd h List.not_mem_nil
  | n :: rest, h => by
    rw [belowAll] at h
    rw [preorderAll_cons, List.filter_append]
    rcases List.mem_append.1 h with h | h
    · exact List.mem_append_left _ (mem_elements_of_mem_below h)
    · exact List.mem_append_right _ (mem_elements_of_mem_belowAll h)
end

/-- Only elements of the page are visited. -/
theorem mem_elements_of_mem_ofRoot {root : Node} {v : Visit α}
    (h : v ∈ ofRoot decide deepest root) : v.node ∈ root.elements := by
  rw [ofRoot] at h
  split at h
  next => exact mem_elements_of_mem_below h
  next fragment =>
    rw [elementChildren, belowAll_filter_isElement] at h
    rw [elements_eq_of_not_isElement fragment]
    exact mem_elements_of_mem_belowAll h

/-- The visits of a page extract what its lineages say. -/
theorem extractions_ofRoot (root : Node) :
    (ofRoot decide deepest root).filterMap extraction? =
      root.lineages.filterMap (ofLineage? decide deepest) := by
  rw [ofRoot, lineages]
  split
  · exact extractions_below root []
  · rw [elementChildren, belowAll_filter_isElement]
    exact extractions_belowAll root.children []

end Visit
end Componentry
