import Componentry.Document.Node
import Componentry.Score
import Componentry.Sum

/-!
# Similarity of structures

The structure of a page, or of a text of markup, is the sequence of its element names. Two
structures are as similar as the names they share, counted with their repetitions, weigh against
all names of both; the order of names does not count.
-/

set_option autoImplicit false

namespace Componentry
open Componentry.Text

/-- The names in the start tags of a text, taken without regard to anything else in it. -/
def startTagNames : List Char → List (List Char)
  | [] => []
  | c :: rest =>
    match rest with
    | d :: _ =>
      if c == '<' && isAsciiLetter d then
        rest.takeWhile (fun e => isWordChar e || e == '-') :: startTagNames rest
      else startTagNames rest
    | [] => []

/-- The structure of a text of markup. -/
def structureOfText (s : String) : List String :=
  (startTagNames s.toList).map fun name => lower (String.ofList name)

/-- The structure of a node. -/
def Node.shape (n : Node) : List String :=
  n.elements.filterMap fun m => m.tag.filter fun t => t != ""

namespace Similarity
variable {α : Type} [Score α]

/-- How many names two structures share, each as often as both have it. -/
def shared (a b : List String) : Nat :=
  sumOf ((a ++ b).eraseDups.map fun t => min (a.count t) (b.count t))

/-- How many names two structures have together, each as often as one of them has it. -/
def combined (a b : List String) : Nat :=
  sumOf ((a ++ b).eraseDups.map fun t => max (a.count t) (b.count t))

/-- The similarity of two structures. -/
def of (a b : List String) : α :=
  if a.isEmpty && b.isEmpty then Score.one
  else if a.isEmpty || b.isEmpty then Score.zero
  else if a == b then Score.one
  else Score.ratio (shared a b) (combined a b)

/-- All pairs of members of a list, the earlier one first. -/
def pairs {β : Type} : List β → List (β × β)
  | [] => []
  | a :: rest => rest.map (fun b => (a, b)) ++ pairs rest

/-- The average similarity over all pairs, none where there is no pair. -/
def average (structures : List (List String)) : Option α :=
  let scores : List α := (pairs structures).map fun (a, b) => of a b
  if scores.isEmpty then none else some (Score.total scores / Score.ofNat scores.length)

/-- How surely structures repeat one another. Their number counts for three tenths, five being
enough, and their similarity for seven; structures nearly alike gain two tenths more. -/
def confidence (structures : List (List String)) : α :=
  let number : α := Score.least (Score.ratio structures.length 5) Score.one
  match (average structures : Option α) with
  | none => Score.least (number * Score.ratio 3 10 + Score.ratio 7 10) Score.one
  | some similarity =>
    let weighed := number * Score.ratio 3 10 + similarity * Score.ratio 7 10
    Score.clamp
      (if Score.atMost (Score.ratio 95 100) similarity then weighed + Score.ratio 1 5 else weighed)

/-- Structures repeat: there are enough of them, and on average they are similar enough. -/
def repeats (leastCount : Int) (threshold : α) (structures : List (List String)) : Bool :=
  leastCount ≤ structures.length &&
    match (average structures : Option α) with
    | none => false
    | some similarity => Score.atMost threshold similarity

end Similarity
end Componentry
