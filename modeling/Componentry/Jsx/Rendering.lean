import Componentry.Document.Node
import Componentry.Attributes.Printer
import Componentry.Jsx.Attribute
import Componentry.Sum

/-!
# Rendering nodes

A node is rendered line by line: an element opens on a line, what is in it follows one level
deeper, and it closes on a line of its own; one without rendered content, or that never has any,
closes where it opens. Blank texts are left out. A blank at the edge of a text that stands beside
something else is kept as an expression. A fragment with one rendered node is that node. The lines
are put out by a loop over what is due: nodes, and the lines that close those that were opened.
-/

set_option autoImplicit false

namespace Componentry.Jsx
open Componentry.Text

/-- What stands on a line. -/
inductive LineContent where
  | nothing
  | opening (tag attributes : String)
  | closing (tag : String)
  | closed (tag attributes : String)
  | fragmentStart
  | fragmentEnd
  | text (s : String)
  | comment (s : String)
deriving Repr, DecidableEq

/-- A line with its level. -/
structure Line where
  level : Int
  content : LineContent
deriving Repr, DecidableEq

/-- The columns of one level. -/
def indent : String := "  "

/-- The name and the attributes of an element. -/
def tagText (tag attributes : String) : String :=
  if attributes == "" then tag else tag ++ " " ++ attributes

/-- What stands on a line, as text. -/
def LineContent.write : LineContent → String
  | .nothing => "null"
  | .opening tag attributes => "<" ++ tagText tag attributes ++ ">"
  | .closing tag => "</" ++ tag ++ ">"
  | .closed tag attributes => "<" ++ tagText tag attributes ++ " />"
  | .fragmentStart => "<>"
  | .fragmentEnd => "</>"
  | .text s => s
  | .comment s => "\x7b/* " ++ s ++ " */\x7d"

/-- A line as text. -/
def Line.write (l : Line) : String :=
  concat (List.replicate l.level.toNat indent) ++ l.content.write

/-- Elements that are closed where they open. -/
def selfClosing : List String := "keygen" :: voidElements

/-- The expression for a blank. -/
def blankExpression : String := "\x7b' '\x7d"

/-- A text, with the blanks at its edges where something stands beside them. -/
def textLine (first last : Bool) (s : String) : String :=
  let characters := s.toList
  let before := !first && isBlank (characters.headD 'x')
  let after := !last && isBlank (characters.getLastD 'x')
  (if before then blankExpression else "") ++ escapeText (trim s)
    ++ (if after then blankExpression else "")

/-- What is due to be put out: a node at a level, the first or the last one rendered beside its
siblings, or the line that closes a node. -/
inductive Due where
  | node (level : Int) (first last : Bool) (n : Node)
  | closing (level : Int) (label : Label)

namespace Due

/-- A node weighs two for itself, which it may leave a closing line for, and two for each below. -/
def weight : Due → Nat
  | .node _ _ _ n => 2 * n.preorder.length
  | .closing _ _ => 1

/-- The weight of all that is due. -/
def size (due : List Due) : Nat := sumOf (due.map weight)

/-- The work due on a stack is that of its top and that of the rest. -/
theorem size_cons (d : Due) (rest : List Due) : size (d :: rest) = d.weight + size rest := by
  rw [size, List.map_cons, sumOf_cons, size]

/-- The work due on two stacks in a row adds up. -/
theorem size_append (l m : List Due) : size (l ++ m) = size l + size m := by
  rw [size, List.map_append, sumOf_append, size, size]

end Due

end Componentry.Jsx

namespace Componentry.Node
open Componentry.Text Componentry.Jsx

/-- A node is rendered: it is no blank text. -/
def renders (n : Node) : Bool := n.kind != .text || !isBlankText n.textOrNone

/-- An element that closes where it opens. -/
def closesAtOnce (label : Label) (children : List Node) : Bool :=
  selfClosing.contains (label.tag.getD "") || !children.any renders

/-- The name that an element opens with. -/
def openingTag (label : Label) : String :=
  let tag := label.tag.getD ""
  if tag == "" then "div" else tag

/-- Nodes that stand side by side at a level and are due; the first one may be the first of all. -/
def dueAmong (level : Int) : Bool → List Node → List Due
  | _, [] => []
  | first, n :: rest => .node level first rest.isEmpty n :: dueAmong level false rest

/-- What is due once a node is opened: what is rendered in it, and the line that closes it. -/
def dueInside (level : Int) (label : Label) (children : List Node) : List Due :=
  dueAmong (level + 1) true (children.filter renders) ++ [.closing level label]

/-- Leaving some trees out of a forest does not add nodes. -/
theorem length_preorderAll_filter_le (p : Node → Bool) (l : List Node) :
    (preorderAll (l.filter p)).length ≤ (preorderAll l).length := by
  induction l with
  | nil => exact Nat.le_refl _
  | cons n rest others =>
    rw [List.filter_cons]
    split
    · rw [preorderAll, preorderAll, List.length_append, List.length_append]
      exact Nat.add_le_add_left others _
    · rw [preorderAll, List.length_append]
      exact Nat.le_trans others (Nat.le_add_left _ _)

/-- The nodes due at one level weigh two for each node below. -/
theorem size_dueAmong (level : Int) : ∀ (first : Bool) (l : List Node),
    Due.size (dueAmong level first l) = 2 * (preorderAll l).length
  | _, [] => rfl
  | first, n :: rest => by
    rw [dueAmong, Due.size_cons, size_dueAmong level false rest, preorderAll, List.length_append,
      Nat.mul_add]
    rfl

/-- What is due inside a node is less than the node. -/
theorem size_dueInside_lt (level : Int) (label : Label) (children : List Node) :
    Due.size (dueInside level label children) < 2 * (preorder (.mk label children)).length := by
  have fewer := length_preorderAll_filter_le renders children
  rw [dueInside, Due.size_append, size_dueAmong, preorder_mk, List.length_cons, Due.size_cons]
  show _ + (1 + 0) < _
  omega

/-- The line that closes a node. -/
def closingContent (label : Label) : LineContent :=
  if label.kind == .fragment then .fragmentEnd else .closing (label.tag.getD "None")

/-- The lines of all that is due, the last thing put on the stack first. The attributes of an
element are given as text. -/
def emit (attributes : Label → String) : List Due → List Line
  | [] => []
  | .closing level label :: rest => ⟨level, closingContent label⟩ :: emit attributes rest
  | .node level first last (.mk label children) :: rest =>
    match label.kind with
    | .text =>
      let s := label.text.getD ""
      if isBlankText s then emit attributes rest
      else ⟨level, .text (textLine first last s)⟩ :: emit attributes rest
    | .comment => ⟨level, .comment (trim (label.text.getD ""))⟩ :: emit attributes rest
    | .fragment =>
      ⟨level, .fragmentStart⟩ :: emit attributes (dueInside level label children ++ rest)
    | .element =>
      let tag := openingTag label
      if closesAtOnce label children then
        ⟨level, .closed tag (attributes label)⟩ :: emit attributes rest
      else
        ⟨level, .opening tag (attributes label)⟩
          :: emit attributes (dueInside level label children ++ rest)
termination_by due => Due.size due
decreasing_by
  · rw [Due.size_cons, Due.weight]
    omega
  all_goals
    have inside := size_dueInside_lt level label children
    simp only [Due.size_cons, Due.size_append, Due.weight]
    omega

mutual
/-- The nodes that are met when a node is rendered, in order. -/
def met : Node → List Node
  | .mk label children =>
    match label.kind with
    | .text | .comment => [.mk label children]
    | .fragment => .mk label children :: metAll children
    | .element =>
      if closesAtOnce label children then [.mk label children]
      else .mk label children :: metAll children

/-- The nodes that are met when the nodes of a list are rendered. -/
def metAll : List Node → List Node
  | [] => []
  | n :: rest => if renders n then met n ++ metAll rest else metAll rest
end

/-- The node that stands for a root: in place of a fragment the only node rendered in it, if there
is one; none in place of a fragment without any. -/
def outermost? (root : Node) : Option Node :=
  if root.kind == .fragment then
    match root.children.filter renders with
    | [] => none
    | [n] => some n
    | _ => some root
  else some root

/-- The lines of a root. -/
def emitted (attributes : Label → String) (level : Int) (root : Node) : List Line :=
  match root.outermost? with
  | none => []
  | some n => emit attributes [.node level true true n]

/-- The lines of a root; without any there is nothing. -/
def renderedLines (attributes : Label → String) (level : Int) (root : Node) : List Line :=
  match root.emitted attributes level with
  | [] => [⟨level, .nothing⟩]
  | lines => lines

/-- The nodes that are met when a root is rendered. -/
def metFromRoot (root : Node) : List Node :=
  match root.outermost? with
  | none => []
  | some n => n.met

/-- The text of a root. -/
def rendered (attributes : Label → String) (level : Int) (root : Node) : String :=
  join "\n" ((root.renderedLines attributes level).map Line.write)

end Componentry.Node
