import Componentry.Text.Slice

/-!
# Block classes

Class names that follow the block convention: a block, an element of it after two underscores, or a
modifier after two dashes. Any other class name is a block by itself.
-/

set_option autoImplicit false

namespace Componentry
open Componentry.Text

/-- A class name by its parts. -/
structure BlockClass where
  block : String
  element : Option String := none
  modifier : Option String := none
  whole : String
deriving Repr, DecidableEq

namespace BlockClass

/-- The block and the element: the last two underscores stand between them, and neither is empty. -/
def element? (s : List Char) : Option (List Char × List Char) :=
  let reversed := s.reverse
  let element := (reversed.takeWhile (· != '_')).reverse
  match reversed.dropWhile (· != '_') with
  | '_' :: '_' :: before =>
    let block := before.reverse
    if block.isEmpty || element.isEmpty || block.contains '\n' then none else some (block, element)
  | _ => none

/-- A modifier: one line that is not empty, its end apart. -/
def line? (s : List Char) : Option (List Char) :=
  let line := s.takeWhile (· != '\n')
  let rest := s.dropWhile (· != '\n')
  if !line.isEmpty && (rest == [] || rest == ['\n']) then some line else none

/-- The modifier that follows two dashes here. -/
def dashed? (s : List Char) : Option (List Char) :=
  (restAfter? ['-', '-'] s).bind line?

/-- The modifier after the last two dashes with at least one character and no underscore before
them. -/
def modifierWithin? : List Char → Option (List Char)
  | [] => none
  | c :: rest =>
    if c == '_' then none
    else match modifierWithin? rest with
      | some m => some m
      | none => dashed? rest

/-- The modifier that ends a class name here, the name of an element being passed over. -/
def modifierHere? (s : List Char) : Option (List Char) :=
  match (restAfter? ['_', '_'] s).bind modifierWithin? with
  | some m => some m
  | none => dashed? s

/-- The shortest block with a modifier; the characters of the block so far come with the nearest
first. -/
def modifier? : List Char → List Char → Option (List Char × List Char)
  | _, [] => none
  | block, c :: rest =>
    match if block.isEmpty then none else modifierHere? (c :: rest) with
    | some m => some (block.reverse, m)
    | none => if c == '\n' then none else modifier? (c :: block) rest

/-- Reads a class name. -/
def parse (s : String) : BlockClass :=
  match element? s.toList with
  | some (block, element) =>
    { block := String.ofList block, element := some (String.ofList element), whole := s }
  | none =>
    match modifier? [] s.toList with
    | some (block, modifier) =>
      { block := String.ofList block, modifier := some (String.ofList modifier), whole := s }
    | none => { block := s, whole := s }

end BlockClass
end Componentry
