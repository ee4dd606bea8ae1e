import Componentry.Document.Printer
import Componentry.Selector.Parser
import Componentry.Selector.Matcher
import Componentry.Outcome

/-!
# Selecting nodes

An element read from markup is matched at its place there. One built by hand is written out first
and matched at the first element of its own markup.
-/

set_option autoImplicit false

namespace Componentry.Node
open Componentry.Markup

/-- The place where an element is matched; markup of its own may be refused. -/
def matchingPlace? (n : Node) : Except Fault (Option Place) :=
  match n.label.place with
  | some p => .ok (some p)
  | none =>
    (Tree.parse n.write).map fun tree => (Place.ofTree tree).bind fun top => top.descendants.head?

/-- A selector means a node, which has to be an element. -/
def meets (n : Node) (s : Selector) : Except Fault Bool := do
  if !n.isElement then return false
  match ← n.matchingPlace? with
  | some p => s.means p
  | none => return false

/-- A selector, given as text, means a node; its text is read for every kind of node. -/
def isSelectedBy (n : Node) (selector : String) : Except Fault Bool :=
  (Selector.parse selector).bind n.meets

end Componentry.Node
