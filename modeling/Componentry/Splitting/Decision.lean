import Componentry.Component.Description
import Componentry.Naming
import Componentry.Pattern
import Componentry.Document.Selection

/-!
# Deciding what becomes a component

One decision per element, by the first reason that holds: a meaningful element, a selector of the
user, a repeating pattern, a class name, a complex structure. A selector that cannot be read selects
nothing.
-/

set_option autoImplicit false

namespace Componentry
open Componentry.Text

/-- How a page is split. -/
structure SplitOptions (α : Type) where
  leastChildren : Int := 3
  deepest : Int := 5
  findsPatterns : Bool := true
  convention : NamingConvention := .pascal
  selectors : List String := []
  leastOccurrences : Int := 2
  threshold : α

/-- A selector of the user, read once. -/
structure CustomSelector where
  text : String
  meaning : Except Fault Selector

namespace CustomSelector

/-- Reads a selector. -/
def ofText (s : String) : CustomSelector := ⟨s, Selector.parse s⟩

/-- Whether a selector means an element. -/
def answer (s : CustomSelector) (n : Node) : Except Fault Bool := s.meaning.bind n.meets

/-- A selector means an element; one that gives no answer means none. -/
def means (s : CustomSelector) (n : Node) : Bool := (s.answer n).toOption.getD false

/-- The selectors that are asked about an element: all up to the first that means it. -/
def asked (n : Node) : List CustomSelector → List CustomSelector
  | [] => []
  | s :: rest => if s.means n then [s] else s :: asked n rest

end CustomSelector

/-- Why an element becomes a component, and what this gives its name. -/
structure Decision (α : Type) where
  confidence : α
  reason : ExtractReason
  type : Option String := none
  pattern : Option (Pattern α) := none
  hints : Option ContentHints := none

namespace Decision
variable {α : Type} [Score α]

/-- The first pattern that lists an element the way this one would be listed. -/
def patternOf? (patterns : List (Pattern α)) (n : Node) : Option (Pattern α) :=
  patterns.find? fun p => p.elements.contains n.keyWithTag

/-- An element has enough elements in it, and its markup is mostly not text. -/
def isSignificant (leastChildren : Int) (n : Node) : Bool :=
  leastChildren ≤ n.elementChildren.length &&
    Score.atMost (Score.ratio (size n.textContent) (size n.write) : α) (Score.ratio 4 5)

/-- An element has several elements in it and at least two levels of them. -/
def isComplex (n : Node) : Bool := 2 ≤ n.elementChildren.length && 2 ≤ n.nesting

/-- Some class name is a block by itself. -/
def hasBlock (n : Node) : Bool :=
  n.attributes.classes.any fun c => !contains c "__" && !contains c "--"

/-- The decision on an element. -/
def of? (o : SplitOptions α) (selectors : List CustomSelector) (patterns : List (Pattern α))
    (n : Node) : Option (Decision α) :=
  if Node.semanticTags.contains n.tagOrNone then
    some { confidence := Score.ratio 95 100, reason := .semanticTag, type := some n.tagOrNone }
  else if selectors.any fun s => s.means n then
    some { confidence := Score.ratio 9 10, reason := .customSelector }
  else match patternOf? patterns n with
    | some p =>
      some { confidence := p.confidence, reason := .repeatingPattern, type := some p.name,
             pattern := some p }
    | none =>
      if hasBlock n && isSignificant (α := α) o.leastChildren n then
        some { confidence := Score.ratio 7 10, reason := .classPattern }
      else if n.hasClassPart Node.containerParts then
        some { confidence := Score.ratio 65 100, reason := .classPattern }
      else if isComplex n then
        some { confidence := Score.ratio 6 10, reason := .complexStructure,
               hints := some { hasChildren := true, childCount := n.elementChildren.length } }
      else none

/-- The selectors that give no answer for the decision on an element, in the order in which they are
asked, with the faults. -/
def troubles (selectors : List CustomSelector) (n : Node) : List (CustomSelector × Fault) :=
  if Node.semanticTags.contains n.tagOrNone then []
  else (CustomSelector.asked n selectors).filterMap fun s =>
    match s.answer n with
    | .ok _ => none
    | .error fault => some (s, fault)

end Decision
end Componentry
