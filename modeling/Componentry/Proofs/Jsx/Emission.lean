import Componentry.Jsx.Rendering
import Mathlib.Data.List.Basic

/-!
# Lines by recursion

The loop that puts out the lines of a node holds what is due on a stack, where the closing line of a
node lies below what is rendered in it. By recursion the lines of a node are an opening line, the
lines of what is rendered in it one level deeper, and a closing line. What is due puts out its lines
one after the other, whatever lies below it on the stack, so the two ways give the same lines.
-/

set_option autoImplicit false

namespace Componentry.Node
open Componentry.Text Componentry.Jsx

mutual
/-- The lines of a node that is the first or the last one rendered beside its siblings. The
attributes of an element are given as text. -/
def lines (attributes : Label → String) (level : Int) (first last : Bool) : Node → List Line
  | .mk label children =>
    match label.kind with
    | .text =>
      let s := label.text.getD ""
      if isBlankText s then [] else [⟨level, .text (textLine first last s)⟩]
    | .comment => [⟨level, .comment (trim (label.text.getD ""))⟩]
    | .fragment =>
      ⟨level, .fragmentStart⟩ :: linesAll attributes (level + 1) true children
        ++ [⟨level, .fragmentEnd⟩]
    | .element =>
      let tag := openingTag label
      if closesAtOnce label children then [⟨level, .closed tag (attributes label)⟩]
      else
        ⟨level, .opening tag (attributes label)⟩ :: linesAll attributes (level + 1) true children
          ++ [⟨level, .closing (label.tag.getD "None")⟩]

/-- The lines of the nodes of a list; the first one that is rendered may be the first of all. -/
def linesAll (attributes : Label → String) (level : Int) (first : Bool) : List Node → List Line
  | [] => []
  | n :: rest =>
    if renders n then
      lines attributes level first (!rest.any renders) n ++ linesAll attributes level false rest
    else linesAll attributes level first rest
end

/-- The lines of something that is due. -/
def linesOfDue (attributes : Label → String) : Due → List Line
  | .node level first last n => n.lines attributes level first last
  | .closing level label => [⟨level, closingContent label⟩]

variable {attributes : Label → String}

/-- The lines of the rendered nodes of a list, all of them due. -/
theorem flatMap_dueAmong (level : Int) : ∀ (first : Bool) (l : List Node),
    (dueAmong level first (l.filter renders)).flatMap (linesOfDue attributes) =
      linesAll attributes level first l
  | _, [] => by
    rw [linesAll]
    rfl
  | first, n :: rest => by
    rw [linesAll, List.filter_cons]
    split
    · have last : (rest.filter renders).isEmpty = !rest.any renders := by
        rw [Bool.eq_iff_iff, List.isEmpty_iff, List.filter_eq_nil_iff, Bool.not_eq_true',
          List.any_eq_false]
      rw [dueAmong, List.flatMap_cons, flatMap_dueAmong level false rest, last]
      rfl
    · exact flatMap_dueAmong level first rest

/-- The lines of what is due inside a node. -/
theorem flatMap_dueInside (level : Int) (label : Label) (children : List Node) :
    (dueInside level label children).flatMap (linesOfDue attributes) =
      linesAll attributes (level + 1) true children ++ [⟨level, closingContent label⟩] := by
  rw [dueInside, List.flatMap_append, flatMap_dueAmong, List.flatMap_singleton]
  rfl

/-- What is due puts out its lines one after the other. -/
theorem emit_eq_flatMap (due : List Due) :
    emit attributes due = due.flatMap (linesOfDue attributes) := by
  fun_induction emit attributes due with
  | case1 => rfl
  | case2 level label rest ih =>
    rw [ih]
    rfl
  | case3 level first last label children rest kind s blank ih =>
    have none_ : lines attributes level first last (.mk label children) = [] := by
      simp only [lines, kind]
      exact if_pos blank
    rw [List.flatMap_cons, linesOfDue, none_, ih, List.nil_append]
  | case4 level first last label children rest kind s filled ih =>
    have one : lines attributes level first last (.mk label children) =
        [⟨level, .text (textLine first last s)⟩] := by
      simp only [lines, kind]
      exact if_neg filled
    rw [List.flatMap_cons, linesOfDue, one, ih, List.singleton_append]
  | case5 level first last label children rest kind ih =>
    rw [List.flatMap_cons, linesOfDue, ih]
    simp only [lines, kind, List.singleton_append]
  | case6 level first last label children rest kind ih =>
    have closing : closingContent label = .fragmentEnd := if_pos (beq_iff_eq.2 kind)
    rw [List.flatMap_cons, linesOfDue, ih, List.flatMap_append, flatMap_dueInside, closing]
    simp only [lines, kind, List.cons_append]
  | case7 level first last label children rest kind tag closes ih =>
    rw [List.flatMap_cons, linesOfDue, ih]
    simp only [lines, kind, if_pos closes, List.singleton_append]
    rfl
  | case8 level first last label children rest kind tag opens ih =>
    have closing : closingContent label = .closing (label.tag.getD "None") := by
      rw [closingContent, kind]
      rfl
    rw [List.flatMap_cons, linesOfDue, ih, List.flatMap_append, flatMap_dueInside, closing]
    simp only [lines, kind, if_neg opens, List.cons_append]
    rfl

/-- The lines of a root are those of the node that stands for it. -/
theorem emitted_eq (attributes : Label → String) (level : Int) (root : Node) :
    root.emitted attributes level =
      root.outermost?.toList.flatMap (lines attributes level true true) := by
  rw [emitted]
  cases root.outermost? with
  | none => rfl
  | some n => exact emit_eq_flatMap [.node level true true n]

/-! ## Views of lines -/

/-- A view of lines that shows of an element, a fragment or a comment what there is to show of its
label, on the line that it is put out on, and nothing of other lines or of texts. -/
structure IsView {α : Type} (attributes : Label → String) (view : LineContent → Option α)
    (own : Label → Option α) : Prop where
  text : ∀ s, view (.text s) = none
  ofText : ∀ label, label.kind = .text → own label = none
  comment : ∀ label, label.kind = .comment →
    view (.comment (trim (label.text.getD ""))) = own label
  fragment : ∀ label, label.kind = .fragment → view .fragmentStart = own label
  opening : ∀ label, label.kind = .element →
    view (.opening (openingTag label) (attributes label)) = own label
  closed : ∀ label, label.kind = .element →
    view (.closed (openingTag label) (attributes label)) = own label
  closing : ∀ tag, view (.closing tag) = none
  fragmentEnd : view .fragmentEnd = none
  nothing : view .nothing = none

section
variable {α : Type} {view : LineContent → Option α} {own : Label → Option α}

mutual
/-- What a view shows of the lines of a node is what there is to show of the nodes met in it. -/
theorem IsView.filterMap_lines (isView : IsView attributes view own) (level : Int)
    (first last : Bool) : ∀ n : Node,
    (n.lines attributes level first last).filterMap (fun line => view line.content) =
      n.met.filterMap fun n => own n.label
  | .mk label children => by
    have inner := isView.filterMap_linesAll (level + 1) true children
    cases kind : label.kind with
    | text =>
      have none_ := isView.ofText label kind
      simp only [lines, met, kind]
      split <;> simp [isView.text, Node.label, none_]
    | comment =>
      simp [lines, met, kind, isView.comment label kind, Node.label, List.filterMap_cons]
    | fragment =>
      simp [lines, met, kind, inner, isView.fragment label kind, isView.fragmentEnd, Node.label,
        List.filterMap_cons]
    | element =>
      simp only [lines, met, kind]
      split
      · simp [isView.closed label kind, Node.label, List.filterMap_cons]
      · simp [inner, isView.opening label kind, isView.closing, Node.label, List.filterMap_cons]

/-- What a view shows of the lines of nodes that stand side by side. -/
theorem IsView.filterMap_linesAll (isView : IsView attributes view own) (level : Int)
    (first : Bool) : ∀ l : List Node,
    (linesAll attributes level first l).filterMap (fun line => view line.content) =
      (metAll l).filterMap fun n => own n.label
  | [] => by
    rw [linesAll, metAll]
    rfl
  | n :: rest => by
    rw [linesAll, metAll]
    split
    · rw [List.filterMap_append, List.filterMap_append, isView.filterMap_lines level first _ n,
        isView.filterMap_linesAll level false rest]
    · exact isView.filterMap_linesAll level first rest
end

/-- What a view shows of the lines of a root is what there is to show of the nodes met from it. -/
theorem IsView.filterMap_renderedLines (isView : IsView attributes view own) (level : Int)
    (root : Node) :
    (root.renderedLines attributes level).filterMap (fun line => view line.content) =
      root.metFromRoot.filterMap fun n => own n.label := by
  have lines : (root.emitted attributes level).filterMap (fun line => view line.content) =
      root.metFromRoot.filterMap fun n => own n.label := by
    rw [emitted_eq, metFromRoot]
    cases root.outermost? with
    | none => rfl
    | some n =>
      rw [Option.toList_some, List.flatMap_singleton]
      exact isView.filterMap_lines level true true n
  rw [← lines, renderedLines]
  split
  next none_ => simp [none_, isView.nothing]
  next => rfl

end

end Componentry.Node

namespace Componentry.Jsx
open Componentry.Text

/-- The columns of a line that is put out. -/
theorem toList_write (line : Line) :
    line.write.toList = List.replicate (2 * line.level.toNat) ' ' ++ line.content.write.toList := by
  have spaces (k : Nat) :
      (List.replicate k indent).flatMap String.toList = List.replicate (2 * k) ' ' := by
    induction k with
    | zero => rfl
    | succ k ih =>
      rw [List.replicate_succ, List.flatMap_cons, ih, Nat.mul_succ, Nat.add_comm,
        List.replicate_add]
      rfl
  rw [Line.write, String.toList_append, concat, String.toList_ofList, spaces]

end Componentry.Jsx
