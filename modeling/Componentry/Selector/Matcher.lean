import Componentry.Decimal
import Componentry.Fault
import Componentry.Selector
import Componentry.Selector.Direction
import Componentry.Selector.Language
import Componentry.Selector.Form
import Componentry.Selector.Surroundings
import Componentry.Text.Case
import Componentry.Text.Slice

/-!
# Matching selectors

A selector is matched at the place of an element in the whole tree it comes from, so it sees what
stands around the element. Names of elements and attributes are compared without regard to case,
ids, classes and values as written. Tests are tried from left to right, and the first one that
cannot be answered ends the search.

Whether an element comes after one that is meant is asked by the number of the first that is, and
whether it comes before one by the number of the last. Where the last was found for another element
before, what follows this element stands in for it.
-/

set_option autoImplicit false

/-! ## Positions among siblings

A number is in a progression if its distance from the offset, divided by the step, is a whole
number and not negative. The quotient is taken as a double, so a step that is out of all proportion
leaves nothing of the distance, and a quotient beyond all doubles cannot be taken.
-/

namespace Componentry.Position

/-- A position is one of those meant. -/
def holds (p : Position) (n : Nat) : Except Fault Bool :=
  let distance := (n : Int) - p.offset
  if p.step == 0 then .ok (distance == 0)
  else
    let num := distance.natAbs
    let den := p.step.natAbs
    if Decimal.exceedsDoubles num den then .error (.number .quotientBeyondDoubles)
    else if Decimal.roundsToZero num den then .ok true
    else .ok ((decide (distance < 0) == decide (p.step < 0)) && Decimal.roundsToWhole num den)

end Componentry.Position

/-! ## Comparing values

A value is compared as written or without regard to case. A line feed at the end of a value does
not keep it from being equal or from ending in a text. Nothing starts with, ends in or contains an
empty text here, and no word is empty.
-/

namespace Componentry
open Componentry.Text

/-- A value and, where it ends with a line feed, the value without it. -/
def endings (s : List Char) : List (List Char) :=
  match s.getLast? with
  | some '\n' => [s, s.dropLast]
  | _ => [s]

/-- A comparison holds of a value. -/
def Comparison.holds (c : Comparison) (wanted value : List Char) : Bool :=
  match c with
  | .equal => (endings value).contains wanted
  | .starts => !wanted.isEmpty && wanted.isPrefixOf value
  | .ends => !wanted.isEmpty && (endings value).any fun v => wanted.isSuffixOf v
  | .contains => !wanted.isEmpty && occursIn wanted value
  | .word =>
    !wanted.isEmpty && !(wanted.any isPlainBlank) && (splitWhere isPlainBlank value).contains wanted
  | .language => (endings value).contains wanted || (wanted ++ ['-']).isPrefixOf value

/-- A test holds of a value. -/
def ValueTest.holds (t : ValueTest) (value : String) : Bool :=
  if t.foldsCase then t.comparison.holds (foldCase t.value.toList) (foldCase value.toList)
  else t.comparison.holds t.value.toList value.toList

end Componentry

/-! ## Compounds, chains and lists -/

namespace Componentry.Selector
open Componentry.Text Componentry.Markup

/-- A feature of an element; the place that the search started from is given. -/
def hasFeature (scope : Place) (f : Feature) (p : Place) : Except Fault Bool :=
  match f with
  | .name s => .ok (asciiLower s == nameOf p)
  | .id s => .ok (valueOrNone p "id" == s)
  | .className s => .ok ((words (valueOrNone p "class")).contains s)
  | .value name none => .ok (valueOf? p name).isSome
  | .value name (some test) => .ok ((valueOf? p name).map test.holds |>.getD false)
  | .empty => .ok (isEmpty p)
  | .root => .ok (isRoot p)
  | .scope => .ok (scope.same p)
  | .defined => .ok (isDefined p)
  | .unfilled => .ok (isUnfilled p)
  | .inRange within => hasRange within p
  | .firstSubmit => .ok (isFirstSubmit p)
  | .unsetChoice => .ok (isOpenChoice p)
  | .direction d => .ok (directionOf? p == some d)
  | .texts tests => .ok (passesTexts tests p)

/-- The tags of the elements on the side of an element that its position is counted from. -/
def tagsBeside (fromEnd : Bool) (p : Place) : List Tag :=
  (if fromEnd then p.after else p.before).filterMap Tree.tag?

/-- The position of an element among its siblings, all of them or those of its name. -/
def positionOf (position : Position) (p : Place) : Nat :=
  1 + (tagsBeside position.fromEnd p).countP fun t =>
    !position.ofType || asciiLower t.name == nameOf p

/-- The elements from the side that a position is counted from up to an element. -/
def lineTo (position : Position) (p : Place) : List Place :=
  (p :: (if position.fromEnd then p.next else p.previous)).reverse

/-- The position of an element among those that count, none where it does not count itself. It is
the last of so many elements of a line; what was found of that line and maybe of what follows in it
is given, the last one first. From the end, the element counts as the last one found does, which is
itself unless the search has gone farther before. -/
def countedPosition? (fromEnd : Bool) (found : List Bool) (n : Nat) : Option Nat :=
  match found.drop (found.length - n) with
  | true :: nearer =>
    let counts := if fromEnd then found.head?.getD true else true
    some (nearer.count true + if counts then 1 else 0)
  | _ => none

/-- The number of an element among all that is in its parent. -/
def numberOf (p : Place) : Nat := p.before.length

/-- The number of what follows an element in its parent; the first one follows the last. -/
def numberAfter (p : Place) : Nat := (numberOf p + 1) % (numberOf p + 1 + p.after.length)

/-- The elements in the parent of an element. -/
def fellows (p : Place) : List Place := (p.parent?.map Place.inside).getD [p]

/-- A question about the fellows of an element. -/
def questionAt (p : Place) (s : Selector) : Question := (p.parent?.map Place.path, s)

/-- A selector means an element; the place that the search started from is given, and whether the
selector that asks keeps to one page. -/
def matchesAt (scope : Place) (framed : Bool) : Selector → Place → Search Bool
  | .any, _ => return true
  | .never, _ => return false
  | .feature f, p => hasFeature scope f p
  | .language ranges, p => speaks ranges p
  | .both a b, p => do
    if ← matchesAt scope framed a p then matchesAt scope framed b p else return false
  | .together a b, p => do
    let first ← matchesAt scope framed a p
    let second ← matchesAt scope framed b p
    return first && second
  | .either a b, p => do
    if ← matchesAt scope framed a p then return true else matchesAt scope framed b p
  | .unless a, p => return !(← matchesAt scope framed a p)
  | .nth position .any, p => position.holds (positionOf position p)
  | .nth position among, p => do
    let asked := questionAt p (.nth position among)
    let line := lineTo position p
    let known ← Search.judged asked
    let fresh ← (line.drop known.length).mapM fun q => matchesAt scope framed among q
    let found := fresh.reverse ++ known
    Search.keepJudged asked found
    match countedPosition? position.fromEnd found line.length with
    | some n => position.holds n
    | none => return false
  | .related .earlier other, p => do
    let (_, first) ← Search.settle (questionAt p (.related .earlier other)) do
      return (← (fellows p).findM? fun q => matchesAt scope framed other q).map numberOf
    return first.any fun n => n < numberOf p
  | .related .later other, p => do
    let (known, last) ← Search.settle (questionAt p (.related .later other)) do
      return (← (fellows p).reverse.findM? fun q => matchesAt scope framed other q).map numberOf
    return last.any fun n => (if known then numberAfter p else numberOf p) < n
  | .related r other, p => (relatives framed r p).anyM fun q => matchesAt scope framed other q
  | .framed a, p => matchesAt scope true a p
  | .whereFramed, _ => return framed

/-- A selector means an element. -/
def means (s : Selector) (p : Place) : Except Fault Bool := (matchesAt p false s p).answer

end Componentry.Selector
