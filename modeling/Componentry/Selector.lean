/-!
# Selectors

A selector says which elements it means. It is built from single tests by "both", "either" and
"not", by the position among siblings, and by asking for an element in some relation to the one at
hand: one around it, before it, inside it or after it.
-/

set_option autoImplicit false

namespace Componentry

/-- How another element stands to the one at hand. -/
inductive Relation where
  | ancestor
  | parent
  | earlier
  | previous
  | descendant
  | child
  | later
  | next
deriving Repr, DecidableEq

/-- How the value of an attribute is compared. -/
inductive Comparison where
  | equal
  | starts
  | ends
  | contains
  | word
  | language
deriving Repr, DecidableEq

/-- A test of an attribute's value, with or without regard to case. -/
structure ValueTest where
  comparison : Comparison
  value : String
  foldsCase : Bool
deriving Repr, DecidableEq

/-- A position among siblings: the numbers `step * n + offset` for a natural `n`, counted over the
siblings of the same name or over all, from the start or from the end. -/
structure Position where
  step : Int
  offset : Int
  ofType : Bool
  fromEnd : Bool
deriving Repr, DecidableEq

/-- Reading directions. -/
inductive Direction where
  | leftToRight
  | rightToLeft
deriving Repr, DecidableEq

/-- A test of what an element says: some value occurs in its text, or in one of the strings
directly in it. -/
structure TextTest where
  own : Bool
  values : List String
deriving Repr, DecidableEq

/-- A test of an element on its own, apart from a further selector. -/
inductive Feature where
  | name (s : String)
  | id (s : String)
  | className (s : String)
  | value (name : String) (test : Option ValueTest)
  | empty
  | root
  | scope
  | defined
  | unfilled
  | inRange (within : Bool)
  | firstSubmit
  | unsetChoice
  | direction (d : Direction)
  | texts (tests : List TextTest)
deriving Repr, DecidableEq

/-- A selector. Its parts are tried from left to right, and none more than needed. -/
inductive Selector where
  /-- Every element. -/
  | any
  /-- No element. -/
  | never
  | feature (f : Feature)
  /-- The language of the element is in one of some ranges. -/
  | language (ranges : List String)
  | both (a b : Selector)
  /-- Both as well, but the second is tried even where the first fails. -/
  | together (a b : Selector)
  | either (a b : Selector)
  | unless (a : Selector)
  /-- The element stands at a position among its siblings that a selector means; only where that is
  every element may the position be one of those of its name. -/
  | nth (position : Position) (among : Selector)
  /-- Some element in a relation to this one is meant. -/
  | related (relation : Relation) (other : Selector)
  /-- A selector whose relations do not leave the page in a frame or enter it. -/
  | framed (a : Selector)
  /-- The question is asked by a selector that keeps to one page. -/
  | whereFramed
deriving Repr, DecidableEq

namespace Selector

/-- The alternatives of a list. -/
def oneOf : List Selector → Selector
  | [] => .never
  | [s] => s
  | s :: rest => .either s (oneOf rest)

/-- All selectors of a list. -/
def allOf : List Selector → Selector
  | [] => .any
  | [s] => s
  | s :: rest => .both s (allOf rest)

/-- All selectors of a list, each of which is tried. -/
def allTogether : List Selector → Selector
  | [] => .any
  | [s] => s
  | s :: rest => .together s (allTogether rest)

end Selector
end Componentry
