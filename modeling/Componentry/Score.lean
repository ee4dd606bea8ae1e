/-!
# Scores

Confidences and similarities are computed in any arithmetic that has the four operations below and
a comparison. They run on doubles, where sums are taken from left to right, and can be reasoned
about over the rationals, where the same definitions are exact.
-/

set_option autoImplicit false

namespace Componentry

/-- An arithmetic for scores. -/
class Score (α : Type) extends Add α, Sub α, Mul α, Div α where
  /-- A whole number as a score. -/
  ofNat : Nat → α
  /-- The first score is at most the second. -/
  atMost : α → α → Bool

namespace Score
variable {α : Type} [Score α]

/-- A quotient of whole numbers. -/
def ratio (num den : Nat) : α := (ofNat num : α) / ofNat den

/-- The score nothing. -/
def zero : α := ofNat 0

/-- The full score. -/
def one : α := ofNat 1

/-- The smaller of two scores, the first one when they are equal. -/
def least (a b : α) : α := if atMost a b then a else b

/-- The larger of two scores, the first one when they are equal. -/
def greatest (a b : α) : α := if atMost b a then a else b

/-- A score cut to the range from nothing to the full score. -/
def clamp (a : α) : α := greatest zero (least a one)

/-- A score within the range from nothing to the full score. -/
def inRange (a : α) : Bool := atMost (zero : α) a && atMost a one

/-- The sum of scores, taken from left to right. -/
def total (l : List α) : α := l.foldl (· + ·) zero

end Score

instance : Score Float where
  ofNat := Float.ofNat
  atMost a b := a ≤ b

instance : Score Rat where
  ofNat n := (n : Rat)
  atMost a b := decide (a ≤ b)

end Componentry
