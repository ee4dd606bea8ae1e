import Componentry.Text.Quoted
import Componentry.Text.Slice

/-!
# Mistakes in selectors

What makes a text no selector, and how it is reported: in words, with the lines of the text and a
mark below the place of the mistake.
-/

set_option autoImplicit false

namespace Componentry.Selector
open Componentry.Text

/-- What is wrong with a text that is no selector. -/
inductive Mistake where
  | strayCharacter (c : Char)
  | attribute
  | className
  | id
  | pseudoClass
  /-- A name does not come first among the tests of an element. -/
  | lateName
  /-- A selector is missing. -/
  | missing
  /-- A closing bracket closes nothing. -/
  | strayClose
  /-- A list is not closed. -/
  | unclosed
  /-- A combinator has nothing before it. -/
  | lonelyCombinator (sign : Char)
  /-- A combinator follows another one. -/
  | severalCombinators
  /-- A pseudo-class of the user's own is not known. -/
  | undefined (name : String)
  /-- A known pseudo-class has arguments that do not fit, or lacks them. -/
  | misused (name : String)
  | unknown (name : String)
deriving Repr, DecidableEq

namespace Mistake

/-- The mistake in words. -/
def words (place : Nat) : Mistake → String
  | .strayCharacter c =>
    "Invalid character " ++ literal (String.ofList [c]) ++ " position " ++ natText place
  | .attribute => "Malformed attribute selector at position " ++ natText place
  | .className => "Malformed class selector at position " ++ natText place
  | .id => "Malformed id selector at position " ++ natText place
  | .pseudoClass => "Malformed pseudo-class selector at position " ++ natText place
  | .lateName => "Tag name found at position " ++ natText place ++ " instead of at the start"
  | .missing => "Expected a selector at position " ++ natText place
  | .strayClose => "Unmatched pseudo-class close at position " ++ natText place
  | .unclosed => "Unclosed pseudo-class at position " ++ natText place
  | .lonelyCombinator sign =>
    "The combinator '" ++ String.ofList [sign] ++ "' at position " ++ natText place
      ++ ", must have a selector before it"
  | .severalCombinators => "The multiple combinators at position " ++ natText place
  | .undefined name =>
    "Undefined custom selector '" ++ name ++ "' found at position " ++ natText place
  | .misused name => "Invalid syntax for pseudo class '" ++ name ++ "'"
  | .unknown name =>
    "'" ++ name ++ "' was detected as a pseudo-class and is either unsupported or invalid. "
      ++ "If the syntax was not intended to be recognized as a pseudo-class, please escape the "
      ++ "colon."

/-- A line of a text: its characters, where it starts, where it ends, and where the next starts. -/
structure Line where
  characters : List Char
  start : Nat
  stop : Nat
  next : Nat

/-- The lines of a text from a place on; the characters of the line at hand come the last first. -/
def linesFrom (start place : Nat) (read : List Char) : List Char → List Line
  | [] => [⟨read.reverse, start, place, place⟩]
  | '\r' :: '\n' :: rest =>
    ⟨read.reverse, start, place, place + 2⟩ :: linesFrom (place + 2) (place + 2) [] rest
  | c :: rest =>
    if c == '\n' || c == '\r' then
      ⟨read.reverse, start, place, place + 1⟩ :: linesFrom (place + 1) (place + 1) [] rest
    else linesFrom start (place + 1) (c :: read) rest

/-- A mark so many columns in. -/
def markAt (column : Nat) : String := "\n" ++ String.ofList (List.replicate column ' ') ++ "^"

/-- A line of several, with a mark where the place of the mistake is in it. -/
def showLine (place : Nat) (l : Line) : String :=
  let text := String.ofList l.characters
  if l.start ≤ place && place < l.next then
    "--> " ++ text ++ markAt (place - l.start + (if l.stop < place then 3 else 4))
  else "    " ++ text

/-- The lines of a text with the mark, and the number of the line with the mark. -/
def context (text : List Char) (place : Nat) : String × Nat :=
  match linesFrom 0 0 [] text with
  | [l] => (String.ofList l.characters ++ markAt place, 1)
  | lines =>
    (join "\n" (lines.map (showLine place)),
      ((lines.findIdx? fun l => l.start ≤ place && place < l.next).getD 0) + 1)

/-- The report of a mistake at a place in a text. -/
def report (text : List Char) (place : Nat) (m : Mistake) : String :=
  let (shown, line) := context text place
  m.words place ++ "\n  line " ++ natText line ++ ":\n" ++ shown

end Mistake
end Componentry.Selector
