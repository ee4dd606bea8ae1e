import Componentry.Text.Case
import Componentry.Text.Slice

/-!
# Words of a selector

Identifiers and quoted texts as they are written, and what they stand for: a backslash takes away
the meaning of the next character or gives a character by its number. Where a word ends is settled
before its escapes are.
-/

set_option autoImplicit false

namespace Componentry.Selector
open Componentry.Text

/-- A line end of a selector. -/
def isLineEnd (c : Char) : Bool := c == '\n' || c == '\r' || c == '\x0c'

/-- A blank of a selector. -/
def isSpace (c : Char) : Bool := c == ' ' || c == '\t' || isLineEnd c

/-- Passes one blank, a carriage return and line feed counting as one. -/
def dropSpace : List Char → List Char
  | '\r' :: '\n' :: rest => rest
  | c :: rest => if isSpace c then rest else c :: rest
  | [] => []

/-- What follows a comment's opening, after its end. -/
def afterComment : List Char → Option (List Char)
  | [] => none
  | '*' :: '/' :: rest => some rest
  | _ :: rest => afterComment rest

/-- What follows the opening of a comment that no other one seems to open in, after its end. -/
def afterPlainComment : List Char → Option (List Char)
  | [] => none
  | '*' :: '/' :: rest => some rest
  -- this star belongs to the end
  | '/' :: '*' :: '/' :: rest => some rest
  | '/' :: '*' :: _ => none
  | _ :: rest => afterPlainComment rest

/-- Passes blanks and comments; the fuel is the number of characters left. -/
def skipSpaceFrom : Nat → Bool → List Char → Bool × List Char
  | 0, blank, s => (blank, s)
  | fuel + 1, blank, s =>
    match s with
    | '/' :: '*' :: rest =>
      match afterComment rest with
      | some after => skipSpaceFrom fuel blank after
      | none => (blank, s)
    | c :: rest => if isSpace c then skipSpaceFrom fuel true rest else (blank, s)
    | [] => (blank, s)

/-- Whether a blank was among the blanks and comments passed, and what follows them. -/
def skipSpace (s : List Char) : Bool × List Char := skipSpaceFrom s.length false s

/-- What follows blanks and comments. -/
def afterSpace (s : List Char) : List Char := (skipSpace s).2

/-- A character that starts an identifier. -/
def startsIdentifier (c : Char) : Bool := isAsciiLetter c || c == '_' || 0xA0 ≤ c.toNat

/-- A character that goes on with an identifier. -/
def continuesIdentifier (c : Char) : Bool := startsIdentifier c || isAsciiDigit c || c == '-'

/-- The value of a hexadecimal digit. -/
def hexDigit? (c : Char) : Option Nat :=
  if c.isDigit then some (c.toNat - 48)
  else if 'a' ≤ c && c ≤ 'f' then some (c.toNat - 87)
  else if 'A' ≤ c && c ≤ 'F' then some (c.toNat - 55)
  else none

/-- The hexadecimal digits at the start that an escape takes, six at most; with `small`, no
capitals are among them. -/
def escapeDigits (small : Bool) (s : List Char) : List Char :=
  (s.take 6).takeWhile fun c => (hexDigit? c).isSome && !(small && c.isUpper)

/-- What follows an escape whose backslash has been passed. A backslash may end the text. -/
def escapeEnd? (small : Bool) (s : List Char) : Option (List Char) :=
  let digits := escapeDigits small s
  if !digits.isEmpty then some (dropSpace (s.drop digits.length))
  else match s with
    | [] => some []
    | ['\n'] => some s
    | c :: rest => if isLineEnd c then none else some rest

/-- What follows the characters that go on with an identifier; the fuel is their number at most. -/
def identifierEnd (small : Bool) : Nat → List Char → List Char
  | 0, s => s
  | fuel + 1, s =>
    match s with
    | [] => []
    | '\\' :: rest =>
      match escapeEnd? small rest with
      | some after => identifierEnd small fuel after
      | none => s
    | c :: rest => if continuesIdentifier c then identifierEnd small fuel rest else s

/-- An identifier starts here, after an optional dash. -/
def identifierStarts (small : Bool) : List Char → Bool
  | '\\' :: rest => (escapeEnd? small rest).isSome
  | c :: _ => startsIdentifier c
  | [] => false

/-- The part of a text in front of a rest of it. -/
def before (s rest : List Char) : List Char := s.take (s.length - rest.length)

/-- An identifier as written, and what follows it. -/
def rawIdentifier? (small : Bool) (s : List Char) : Option (List Char × List Char) :=
  let starts := match s with
    | '-' :: '-' :: _ => true
    | '-' :: rest => identifierStarts small rest
    | s => identifierStarts small s
  if starts then
    let rest := identifierEnd small s.length s
    some (before s rest, rest)
  else none

/-- What follows a quoted text's closing quote; the fuel is the number of characters left. -/
def quotedEnd? (quote : Char) : Nat → List Char → Option (List Char)
  | 0, _ => none
  | fuel + 1, s =>
    match s with
    | [] => none
    | '\\' :: '\r' :: '\n' :: rest => quotedEnd? quote fuel rest
    | '\\' :: _ :: rest => quotedEnd? quote fuel rest
    | c :: rest =>
      if c == quote then some rest
      else if c == '\\' || isLineEnd c then none
      else quotedEnd? quote fuel rest

/-- A value as written, without its quotes. -/
structure RawValue where
  quoted : Bool
  characters : List Char

/-- A value at the start, quoted or an identifier, and what follows it. -/
def rawValue? (small : Bool) (s : List Char) : Option (RawValue × List Char) :=
  match s with
  | c :: rest =>
    if c == '"' || c == '\'' then
      (quotedEnd? c (rest.length + 1) rest).map fun after =>
        (⟨true, (before rest after).dropLast⟩, after)
    else (rawIdentifier? small s).map fun (word, after) => (⟨false, word⟩, after)
  | [] => none

/-! ## What words stand for -/

/-- The numbers of the characters that a written word stands for. In a quoted text, an escaped line
end is nothing. -/
def codesFrom (quoted : Bool) : Nat → List Char → List Nat
  | 0, _ => []
  | fuel + 1, s =>
    match s with
    | [] => []
    | '\\' :: rest =>
      let digits := escapeDigits false rest
      if !digits.isEmpty then
        let n := digits.foldl (fun n c => 16 * n + (hexDigit? c).getD 0) 0
        (if n == 0 then 0xFFFD else n)
          :: codesFrom quoted fuel (dropSpace (rest.drop digits.length))
      else match rest with
        | [] => [0xFFFD]
        | ['\n'] => [0xFFFD, 10]
        | c :: more =>
          if !isLineEnd c then c.toNat :: codesFrom quoted fuel more
          else if quoted then codesFrom quoted fuel (dropSpace rest)
          else '\\'.toNat :: codesFrom quoted fuel rest
    | c :: rest => c.toNat :: codesFrom quoted fuel rest

/-- The character of a number. Half of a surrogate pair is none; the last number, which no page
uses either, stands for it, so that the word is found nowhere. -/
def characterOf (n : Nat) : Char :=
  if 0xD800 ≤ n && n ≤ 0xDFFF then Char.ofNat 0x10FFFF else Char.ofNat n

/-- What a written word stands for; none where an escape gives a number beyond all characters. -/
def resolve? (quoted : Bool) (s : List Char) : Option String :=
  let codes := codesFrom quoted s.length s
  if codes.all (· ≤ 0x10FFFF) then some (String.ofList (codes.map characterOf)) else none

/-- What a value stands for. -/
def RawValue.resolve? (v : RawValue) : Option String := Selector.resolve? v.quoted v.characters

/-! ## Lists of values -/

/-- Passes values separated by commas up to a closing bracket: what follows the last value, and
what follows the bracket. -/
def valuesEnd? : Nat → List Char → Option (List Char × List Char)
  | 0, _ => none
  | fuel + 1, s => do
    let (_, rest) ← rawValue? false s
    match afterSpace rest with
    | ')' :: after => some (rest, after)
    | ',' :: after => valuesEnd? fuel (afterSpace after)
    | _ => none

/-- The values in a list as written; what is neither a value nor a comma is passed over. -/
def valuesIn : Nat → List Char → List RawValue
  | 0, _ => []
  | fuel + 1, s =>
    match rawValue? true s with
    | some (v, rest) => v :: valuesIn fuel rest
    | none =>
      match afterSpace s, s with
      | ',' :: rest, _ => valuesIn fuel rest
      | _, _ :: rest => valuesIn fuel rest
      | _, [] => []

/-- What the values of a list stand for. -/
def resolveAll? (s : List Char) : Option (List String) :=
  (valuesIn s.length s).mapM RawValue.resolve?

end Componentry.Selector
