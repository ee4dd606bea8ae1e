import Componentry.Proofs.Document.Tidy
import Componentry.Proofs.Markup.Reference

/-!
# Written nodes

The markup of a node holds the markup of every node met from it: only elements have something
inside, and a void one has nothing. All texts of a node are in its markup, no shorter than they are,
and an element has its start tag besides.
-/

set_option autoImplicit false

namespace Componentry.Node
open Componentry.Text Componentry.Markup

/-- The markup of the nodes of a list holds the markup of each. -/
theorem infix_writeAllIn {raw : Bool} {n : Node} : ∀ {l : List Node}, n ∈ l →
    (n.writeIn raw).toList <:+: (writeAllIn raw l).toList
  | m :: rest, h => by
    rw [writeAllIn, String.toList_append]
    rcases List.mem_cons.1 h with rfl | h
    · exact (List.prefix_append _ _).isInfix
    · exact (infix_writeAllIn h).trans (List.suffix_append _ _).isInfix

/-- The markup of a node holds the markup of every node met from it. -/
theorem infix_writeIn {n t : Node} (plain : IsPlain n) (tidy : IsTidy n) (h : t ∈ n.preorder)
    (raw : Bool) : ∃ within, (t.writeIn within).toList <:+: (n.writeIn raw).toList := by
  induction plain generalizing raw with
  | @mk label children leaf _ ih =>
    rw [preorder_mk] at h
    rcases List.mem_cons.1 h with rfl | h
    · exact ⟨raw, List.infix_rfl⟩
    · obtain ⟨c, hc, h⟩ := mem_preorderAll.1 h
      have filled : children ≠ [] := List.ne_nil_of_mem hc
      have element : label.kind = .element := Decidable.byContradiction fun other =>
        filled (leaf other)
      have notVoid : ¬ isVoid label = true := fun void => filled (children_of_isVoid tidy void)
      cases tidy with
      | mk _ _ below _ =>
        obtain ⟨within, inner⟩ := ih c hc (below c hc) h (isRaw label)
        refine ⟨within, inner.trans ?_⟩
        simp only [writeIn, element, if_neg notVoid, String.toList_append]
        exact (infix_writeAllIn hc).trans (List.infix_append _ _ _)

/-! ## Texts and markup -/

/-- Escaping makes no text shorter. -/
theorem size_le_escape (s : String) : size s ≤ size (escape s) := by
  rw [size, size, escape, String.toList_ofList]
  induction s.toList with
  | nil => exact Nat.le_refl 0
  | cons c rest ih =>
    have here := length_escapeChar_pos c
    rw [List.flatMap_cons, List.length_cons, List.length_append]
    omega

/-- A start tag has at least a character. -/
theorem size_startTag_pos (label : Label) : 0 < size (startTag label) := by
  rw [size, startTag]
  split <;> simp [String.toList_append]

/-- Texts are no longer than the markup of the nodes of a list when they are not for any of them. -/
theorem length_charactersOf_le_writeAllIn {raw : Bool} : ∀ {l : List Node},
    (∀ n ∈ l, (charactersOf n.preorder).length ≤ size (n.writeIn raw)) →
      (charactersOf (preorderAll l)).length ≤ size (writeAllIn raw l)
  | [], _ => Nat.zero_le _
  | n :: rest, each => by
    have here := each n List.mem_cons_self
    have others := length_charactersOf_le_writeAllIn fun m hm => each m (List.mem_cons_of_mem n hm)
    rw [size] at here others
    rw [preorderAll_cons, charactersOf_append, List.length_append, writeAllIn, size,
      String.toList_append, List.length_append]
    exact Nat.add_le_add here others

/-- The tags of an element come on top of its texts. -/
theorem length_charactersOf_lt_writeIn {label : Label} {children : List Node}
    (element : label.kind = .element) (tidy : IsTidy (.mk label children))
    (inside : (charactersOf (preorderAll children)).length ≤
      size (writeAllIn (isRaw label) children)) (raw : Bool) :
    (charactersOf (preorder (.mk label children))).length < size (writeIn raw (.mk label children))
    := by
  have tag := size_startTag_pos label
  rw [charactersOf_mk (by rw [element]; decide), writeIn]
  simp only [element]
  by_cases void : isVoid label = true
  · rw [if_pos void, children_of_isVoid tidy void, preorderAll_nil]
    exact tag
  · rw [size] at tag inside
    rw [if_neg void, size, String.toList_append, String.toList_append, List.length_append,
      List.length_append]
    omega

/-- The texts of a node are no longer than its markup. -/
theorem length_charactersOf_le_writeIn {n : Node} (plain : IsPlain n) (tidy : IsTidy n)
    (raw : Bool) : (charactersOf n.preorder).length ≤ size (n.writeIn raw) := by
  induction plain generalizing raw with
  | @mk label children leaf _ ih =>
    have below : ∀ c ∈ children, IsTidy c := by
      cases tidy with
      | mk _ _ below _ => exact below
    have inside (raw : Bool) : (charactersOf (preorderAll children)).length ≤
        size (writeAllIn raw children) :=
      length_charactersOf_le_writeAllIn fun c hc => ih c hc (below c hc) raw
    cases kind : label.kind with
    | element => exact (length_charactersOf_lt_writeIn kind tidy (inside _) raw).le
    | fragment =>
      rw [charactersOf_mk (by rw [kind]; decide), writeIn]
      simp only [kind]
      exact inside false
    | comment =>
      rw [charactersOf_mk (by rw [kind]; decide), leaf (by rw [kind]; decide), preorderAll_nil]
      exact Nat.zero_le _
    | text =>
      have bare : children = [] := leaf (by rw [kind]; decide)
      have own : charactersOf (preorder (.mk label [])) = (label.text.getD "").toList := by
        simp [charactersOf, preorder_mk, Node.kind, Node.label, kind, textOrNone]
      rw [bare, own, writeIn]
      simp only [kind]
      split
      · exact Nat.le_refl _
      · exact size_le_escape _

/-- The texts of an element are shorter than its markup. -/
theorem size_textContent_lt_write {n : Node} (plain : IsPlain n) (tidy : IsTidy n)
    (element : n.isElement = true) : size n.textContent < size n.write := by
  rw [size, toList_textContent, write]
  cases plain with
  | @mk label children _ below =>
    refine length_charactersOf_lt_writeIn (beq_iff_eq.1 element) tidy ?_ false
    refine length_charactersOf_le_writeAllIn fun c hc => ?_
    cases tidy with
    | mk _ _ tidyBelow _ => exact length_charactersOf_le_writeIn (below c hc) (tidyBelow c hc) _

end Componentry.Node

namespace Componentry.Document
open Componentry.Text Componentry.Node

/-- The texts of an element of a page that was read are shorter than its markup. -/
theorem size_textContent_lt_write_of_read {o : ReadOptions} {markup : Option String} {d : Document}
    (h : (read o markup).result = .ok d) {n : Node} (hn : n ∈ d.root.elements) :
    size n.textContent < size n.write := by
  obtain ⟨met, element⟩ := List.mem_filter.1 hn
  exact size_textContent_lt_write (isPlain_of_mem_elements (isPlain_of_read h) hn)
    ((isTidy_of_read h).of_mem_preorder met) element

end Componentry.Document
