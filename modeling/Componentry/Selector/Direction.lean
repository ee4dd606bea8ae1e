import Componentry.Selector.Frame
import Componentry.Text.DirectionTable

/-!
# Directions

An element is read in the direction it names, else in that of the element around it on its page; the
first element of a page is read from left to right. An element may ask for the direction of its own
text, which is that of the first character with a direction of its own.
-/

set_option autoImplicit false

namespace Componentry
open Componentry.Text Componentry.Markup

namespace Direction

/-- The direction that a character sets. -/
def ofChar? (c : Char) : Option Direction :=
  let inRun := fun ((first, last) : Nat × Nat) => first ≤ c.toNat && c.toNat ≤ last
  if leftwardRuns.any inRun then some .rightToLeft
  else if rightwardRuns.any inRun then some .leftToRight
  else none

/-- The direction of a text: that of the first character which sets one. -/
def ofText? (s : String) : Option Direction := s.toList.findSome? ofChar?

end Direction

namespace Selector

/-- What an element says of its direction. -/
inductive DirectionWish where
  | fixed (d : Direction)
  /-- The direction of its own text. -/
  | auto
deriving Repr, DecidableEq

/-- What a tag says of the direction of its element. -/
def directionWish? (t : Tag) : Option DirectionWish :=
  match asciiLower ((valueIn? t "dir").getD "") with
  | "ltr" => some (.fixed .leftToRight)
  | "rtl" => some (.fixed .rightToLeft)
  | "auto" => some .auto
  | _ => none

/-- Elements whose text sets no direction for the elements around them. -/
def isIsolated (t : Tag) : Bool :=
  ["bdi", "script", "style", "textarea", "iframe"].contains (asciiLower t.name)
    || (directionWish? t).isSome

mutual
/-- The direction that a tree inside an element sets for it. -/
def innerDirection? : Tree → Option Direction
  | .string kind text => if kind.isText then Direction.ofText? text else none
  | .element tag children => if isIsolated tag then none else innerDirectionAmong? children

/-- The direction that the first of some trees sets which sets one. -/
def innerDirectionAmong? : List Tree → Option Direction
  | [] => none
  | t :: rest => (innerDirection? t).or (innerDirectionAmong? rest)
end

/-- The entry of a control for text, none for other elements. -/
def entryOf? (p : Place) : Option String :=
  match nameOf p with
  | "textarea" => some (concat (ownTexts p))
  | "input" =>
    if ["text", "search", "tel", "url", "email"].contains (asciiLower (valueOrNone p "type")) then
      some (valueOrNone p "value")
    else none
  | _ => none

/-- The direction of an element's own text. An entry that sets none is read from left to right
unless it is empty. -/
def ownDirection? (p : Place) : Option Direction :=
  match entryOf? p with
  | some entry =>
    if entry == "" then none else some ((Direction.ofText? entry).getD .leftToRight)
  | none => innerDirectionAmong? p.children

/-- The direction of an element, given with those around it from the inside out. -/
def directionAmong? : List Place → Option Direction
  | [] => none
  | p :: around =>
    let settled := if isTopmost p then some Direction.leftToRight else directionAmong? around
    match directionWish? p.tag with
    | some (.fixed d) => some d
    | some .auto => (ownDirection? p).or settled
    | none =>
      if isTopmost p then some .leftToRight
      else if nameOf p == "input" && asciiLower (valueOrNone p "type") == "tel" then
        some .leftToRight
      else if nameOf p == "bdi" then (ownDirection? p).or settled
      else settled

/-- The direction that an element is read in. -/
def directionOf? (p : Place) : Option Direction := directionAmong? (p :: pageAncestors p)

end Selector
end Componentry
