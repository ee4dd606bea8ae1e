import Componentry.Splitting
import Componentry.Sum

/-!
# Figures of a split

How many components there are of each type, role and depth, how large they are, and how sure the
patterns are. Counts are listed in the order in which what they count first comes.
-/

set_option autoImplicit false

namespace Componentry.Split
open Componentry.Text

variable {α : Type} [Score α]

/-- How often each text occurs in a list, in the order of first occurrences. -/
def tally (l : List String) : Dict Nat :=
  l.foldl (fun counts s => counts.alter s fun n => n.getD 0 + 1) Dict.empty

/-- The number of components of each type. -/
def byType (s : Split α) : Dict Nat := tally (s.components.map (·.type))

/-- The number of components of each role. -/
def byRole (s : Split α) : Dict Nat := tally (s.components.map fun c => c.role.name)

/-- The number of components of each depth. -/
def byDepth (s : Split α) : Dict Nat := tally (s.components.map fun c => natText c.depth)

/-- The number of components. -/
def total (s : Split α) : Nat := s.components.length

/-- The largest depth of a component. -/
def maxDepth (s : Split α) : Nat := s.components.foldl (fun d c => max d c.depth) 0

/-- The number of members of all patterns. -/
def patternItems (s : Split α) : Nat := sumOf (s.patterns.map Pattern.count)

/-- The average confidence of the patterns. -/
def averageConfidence (s : Split α) : α :=
  if s.patterns.isEmpty then Score.zero
  else Score.total (s.patterns.map (·.confidence)) / Score.ofNat s.patterns.length

/-- The number of elements inside components, one inside several counted for each. -/
def elementTotal (s : Split α) : Nat := sumOf (s.components.map fun c => c.content.elementCount)

/-- How much of the components' markup is text. -/
def textRatio (s : Split α) : α :=
  Score.ratio (sumOf (s.components.map fun c => c.content.textLength))
    (max (sumOf (s.components.map fun c => size c.markup)) 1)

end Componentry.Split
