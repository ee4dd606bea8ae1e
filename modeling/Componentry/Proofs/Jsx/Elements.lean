import Componentry.Proofs.Document.Tidy
import Componentry.Proofs.Jsx.Expression
import Componentry.Proofs.Jsx.Names

/-!
# Attributes on lines

The attributes of every element that is met stand on the line that the element is put out on, and
of a page that was read every element is met. Without rules of the user these attributes are what
the bag of the element holds, less what is left out.
-/

set_option autoImplicit false

namespace Componentry.Jsx
open Componentry.Text

/-- The attributes that stand on a line. -/
def LineContent.attributes? : LineContent → Option String
  | .opening _ attributes => some attributes
  | .closed _ attributes => some attributes
  | _ => none

/-- What a bag holds that is not left out, by the names of markup. -/
def printedEntries (a : Attributes) : List (String × AttributeValue) :=
  a.toMarkup.entries.filter fun e => !isLeftOut e.1

/-- The texts that the attributes of a bag are printed as. -/
def printedTexts (renamesClass : Bool) (a : Attributes) : List String :=
  ((printedEntries a).map fun e => printedText renamesClass e.1 e.2).filter fun s => s != ""

/-- What is printed of a bag is what is written for it and not left out. -/
theorem mem_printedEntries {a : Attributes} {e : String × AttributeValue} :
    e ∈ printedEntries a ↔ e ∈ a.toMarkup.entries ∧ isLeftOut e.1 = false := by
  rw [printedEntries, List.mem_filter, Bool.not_eq_true']

/-- What is not left out and not printed as the empty text is among the texts. -/
theorem mem_printedTexts {renamesClass : Bool} {a : Attributes} {name : String}
    {value : AttributeValue} (held : (name, value) ∈ a.toMarkup.entries)
    (kept : isLeftOut name = false) (shown : printedText renamesClass name value ≠ "") :
    printedText renamesClass name value ∈ printedTexts renamesClass a := by
  have entry : (name, value) ∈ printedEntries a := mem_printedEntries.2 ⟨held, kept⟩
  exact List.mem_filter.2 ⟨List.mem_map.2 ⟨(name, value), entry, rfl⟩, bne_iff_ne.2 shown⟩

/-- The attributes of an element are printed with spaces between. -/
theorem attributesOf_eq (o : SourceOptions) {label : Label} (element : label.kind = .element) :
    o.attributesOf Dict.empty label = join " " (printedTexts o.renamesClass label.attributes) := by
  have isElement : (Node.mk label []).isElement = true := beq_iff_eq.2 element
  rw [SourceOptions.attributesOf, SourceOptions.propertiesOf, if_pos isElement,
    keptProperties_empty, List.filter_map, List.map_map]
  show writeProperties _ _ = _
  rw [writeProperties, List.map_map]
  rfl

end Componentry.Jsx

namespace Componentry.Node
open Componentry.Jsx
variable {attributes : Label → String} {level : Int} {n t : Node}

/-- The attributes on lines are a view of them. -/
theorem isView_attributes? : IsView attributes LineContent.attributes? fun label =>
    if label.kind = .element then some (attributes label) else none where
  text _ := rfl
  ofText label kind := by simp [kind]
  comment label kind := by simp [kind, LineContent.attributes?]
  fragment label kind := by simp [kind, LineContent.attributes?]
  opening label kind := by simp [kind, LineContent.attributes?]
  closed label kind := by simp [kind, LineContent.attributes?]
  closing _ := rfl
  fragmentEnd := rfl
  nothing := rfl

/-- The attributes on the lines of a root are those of the elements that are met from it. -/
theorem attributes?_renderedLines (attributes : Label → String) (level : Int) (root : Node) :
    (root.renderedLines attributes level).filterMap (fun line => line.content.attributes?) =
      (root.metFromRoot.filter isElement).map fun n => attributes n.label := by
  rw [isView_attributes?.filterMap_renderedLines, ← List.filterMap_eq_map, List.filterMap_filter]
  refine List.filterMap_congr fun n _ => ?_
  simp only [isElement, beq_iff_eq]
  rfl

/-! ## Elements that are met -/

/-- A node is met from itself. -/
theorem self_mem_met (n : Node) : n ∈ n.met := by
  obtain ⟨label, children⟩ := n
  rw [met]
  split <;> (try split) <;> simp

/-- What is met from a rendered node is met from the list with it. -/
theorem mem_metAll {c : Node} (rendered : c.renders = true) (h : t ∈ c.met) :
    ∀ {l : List Node}, c ∈ l → t ∈ metAll l
  | m :: rest, mem => by
    rw [metAll]
    rcases List.mem_cons.1 mem with rfl | mem
    · rw [if_pos rendered]
      exact List.mem_append_left _ h
    · have below := mem_metAll rendered h mem
      split
      · exact List.mem_append_right _ below
      · exact below

section
variable (element : t.isElement = true)
include element

/-- A node that an element stands in is rendered. -/
theorem renders_of_element_mem (plain : IsPlain n) (h : t ∈ n.preorder) : n.renders = true := by
  cases plain with
  | @mk label children leaf _ =>
    by_cases kind : label.kind = .element
    · have other : (Node.mk label children).kind = .element := kind
      rw [renders, other]
      rfl
    · rw [preorder_mk, leaf kind, preorderAll_nil, List.mem_singleton] at h
      rw [h, isElement] at element
      exact absurd (beq_iff_eq.1 element) kind

/-- Every element in a tidy node is met in it. -/
theorem element_mem_met (plain : IsPlain n) (tidy : IsTidy n) (h : t ∈ n.preorder) :
    t ∈ n.met := by
  induction plain with
  | @mk label children leaf below ih =>
    rw [preorder_mk] at h
    rcases List.mem_cons.1 h with rfl | h
    · exact self_mem_met _
    · obtain ⟨c, hc, h⟩ := mem_preorderAll.1 h
      have filled : children ≠ [] := List.ne_nil_of_mem hc
      have kind : label.kind = .element := Decidable.byContradiction fun other =>
        filled (leaf other)
      have rendered := renders_of_element_mem element (below c hc) h
      have opens : ¬ closesAtOnce label children = true := by
        rw [closesAtOnce, Bool.or_eq_true, not_or, Bool.not_eq_true', Bool.not_eq_false]
        exact ⟨fun closing => filled (children_of_selfClosing tidy closing),
          List.any_eq_true.2 ⟨c, hc, rendered⟩⟩
      cases tidy with
      | mk _ _ inner _ =>
        simp only [met, kind, if_neg opens]
        exact List.mem_cons_of_mem _ (mem_metAll rendered (ih c hc (inner c hc) h) hc)

/-- Every element in a tidy root is met from it. -/
theorem element_mem_metFromRoot {root : Node} (plain : ∀ c ∈ root.children, IsPlain c)
    (tidy : IsTidy root) (kind : root.kind = .element ∨ root.kind = .fragment)
    (h : t ∈ root.preorder) : t ∈ root.metFromRoot := by
  obtain ⟨label, children⟩ := root
  rcases kind with kind | kind
  · have other : ¬ ((Node.mk label children).kind == .fragment) = true := by
      rw [kind]
      exact Bool.false_ne_true
    rw [metFromRoot, outermost?, if_neg other]
    exact element_mem_met element (.mk (fun leaf => absurd kind leaf) plain) tidy h
  · rw [preorder_mk] at h
    rcases List.mem_cons.1 h with rfl | h
    · rw [isElement, kind] at element
      cases element
    · obtain ⟨c, hc, h⟩ := mem_preorderAll.1 h
      have below : c.IsTidy := by
        cases tidy with
        | mk _ _ below _ => exact below c hc
      have rendered := renders_of_element_mem element (plain c hc) h
      have inside := element_mem_met element (plain c hc) below h
      have kept : c ∈ (Node.mk label children).children.filter renders :=
        List.mem_filter.2 ⟨hc, rendered⟩
      -- The child is rendered, so the fragment has something to show: itself, or the child alone.
      rcases outermost?_cases (.mk label children) with ⟨none_, -⟩ | ⟨whole, -⟩ | ⟨m, only, -, eq⟩
      · rw [outermost?, if_pos (beq_iff_eq.2 kind)] at none_
        split at none_
        next empty =>
          rw [empty] at kept
          cases kept
        next => cases none_
        next => cases none_
      · have fragment : label.kind = .fragment := kind
        rw [metFromRoot, whole]
        simp only [met, fragment]
        exact List.mem_cons_of_mem _ (mem_metAll rendered inside hc)
      · rw [eq, List.mem_singleton] at kept
        rw [metFromRoot, only, ← kept]
        exact inside

end

/-- Every element of a page that was read has its attributes on a line. -/
theorem exists_line_of_element {o : ReadOptions} {markup : Option String} {d : Document}
    (read : (Document.read o markup).result = .ok d) (hn : n ∈ d.root.elements)
    (attributes : Label → String) (level : Int) :
    ∃ line ∈ d.root.renderedLines attributes level,
      line.content.attributes? = some (attributes n.label) := by
  obtain ⟨inside, element⟩ := List.mem_filter.1 hn
  have met := element_mem_metFromRoot element (Document.isPlain_of_read read)
    (Document.isTidy_of_read read) (Document.kind_of_read read) inside
  have listed := List.mem_map_of_mem (f := fun n : Node => attributes n.label)
    (List.mem_filter.2 ⟨met, element⟩)
  rw [← attributes?_renderedLines attributes level, List.mem_filterMap] at listed
  exact listed

end Componentry.Node
