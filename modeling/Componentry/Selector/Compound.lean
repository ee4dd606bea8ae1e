import Componentry.Selector
import Componentry.Sum

/-!
# Tests of one element

The tests that stand together for one element are tried in turns by their kinds, whatever their
order in the text: what the element is called, where it stands, what it carries, then the lists
nested in the selector, the element asked for in a relation, and the text last.

The size of a selector is the number of its lists and of the groups of tests in them, those that
pseudo-classes stand for included. Siblings that are counted and an element in a relation are asked
for by lists of their own.
-/

set_option autoImplicit false

namespace Componentry.Selector

/-- The turns in which the tests of one element are tried; the relation comes after the nested
lists. -/
inductive Turn where
  | name
  | defined
  | root
  | scope
  | position
  | empty
  | id
  | className
  | value
  | language
  | nested
  | direction
deriving Repr, DecidableEq

/-- The size of a list of groups of tests, from the sizes of what is nested in each. -/
def listSize (nested : List Nat) : Nat := 1 + sumOf (nested.map fun n => 1 + n)

/-- A selector with its size. -/
structure Sized where
  selector : Selector
  size : Nat

/-- The tests of one element, those of its text apart, and the size of the lists nested in them; an
element that cannot be is meant by no tests. -/
structure Compound where
  tests : List (Turn × Selector) := []
  texts : List TextTest := []
  impossible : Bool := false
  nested : Nat := 0

namespace Compound

/-- Adds a test with lists of a size nested in it. -/
def add (c : Compound) (turn : Turn) (s : Sized) : Compound :=
  { c with tests := c.tests ++ [(turn, s.selector)], nested := c.nested + s.size }

/-- The tests of a turn, as written. -/
def inTurn (c : Compound) (turn : Turn) : List Selector :=
  (c.tests.filter fun t => t.1 == turn).map Prod.snd

/-- The turns before the nested lists. -/
def earlyTurns : List Turn :=
  [.name, .defined, .root, .scope, .position, .empty, .id, .className, .value, .language]

/-- A list of selectors as the only one of a list, unless it is empty. -/
def grouped {α : Type} (make : List α → Selector) (l : List α) : List Selector :=
  if l.isEmpty then [] else [make l]

/-- The size of what is nested, and of the list for what is asked for in a relation. What cannot be
has nothing nested. -/
def size (c : Compound) (relation : Option Sized) : Nat :=
  if c.impossible then 0
  else c.nested + (relation.map fun s => listSize [s.size]).getD 0

/-- All tests in their turns, with what is asked for in a relation. -/
def toSelector (c : Compound) (relation : Option Selector) : Selector :=
  if c.impossible then .never
  else allOf (earlyTurns.flatMap c.inTurn ++ grouped allTogether (c.inTurn .nested)
    ++ relation.toList ++ c.inTurn .direction
    ++ grouped (fun texts => .feature (.texts texts)) c.texts)

end Compound
end Componentry.Selector
