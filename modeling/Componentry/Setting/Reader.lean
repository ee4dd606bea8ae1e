import Componentry.Dict
import Componentry.Setting

/-!
# Reading settings

The text of a settings file, read strictly: one value with blanks around it. Of two entries with the
same key the last value counts, in the place of the first. A whole number of too many digits cannot
be read, which is no fault of the text.
-/

set_option autoImplicit false

namespace Componentry.Setting
open Componentry.Text

/-- Why a text gives no value. -/
inductive Unreadable where
  | malformed
  /-- A whole number has too many digits. -/
  | number (digits : Nat)
deriving Repr, DecidableEq

/-- A part of a text, which is malformed where it is missing. -/
def orMalformed {α : Type} : Option α → Except Unreadable α
  | some a => .ok a
  | none => .error .malformed

/-- A blank between the parts of a settings file. -/
def isGap (c : Char) : Bool := c == ' ' || c == '\t' || c == '\n' || c == '\r'

/-- What follows the blanks. -/
def afterGap (s : List Char) : List Char := s.dropWhile isGap

/-- The value of a hexadecimal digit. -/
def hexValue? (c : Char) : Option Nat :=
  let n := c.toNat
  if c.isDigit then some (n - 48)
  else if 97 ≤ n && n ≤ 102 then some (n - 87)
  else if 65 ≤ n && n ≤ 70 then some (n - 55)
  else none

/-- A unit of sixteen bits, given by four hexadecimal digits. -/
def unit? : List Char → Option (Nat × List Char)
  | a :: b :: c :: d :: rest => do
    let a ← hexValue? a
    let b ← hexValue? b
    let c ← hexValue? c
    let d ← hexValue? d
    some (((a * 16 + b) * 16 + c) * 16 + d, rest)
  | _ => none

/-- The character of a unit, and of the one after it where the two belong together. -/
def unitChar? (s : List Char) : Option (Char × List Char) := do
  let (high, rest) ← unit? s
  if 0xD800 ≤ high && high < 0xDC00 then
    match rest with
    | '\\' :: 'u' :: more =>
      match unit? more with
      | some (low, after) =>
        if 0xDC00 ≤ low && low < 0xE000 then
          some (Char.ofNat (0x10000 + (high - 0xD800) * 1024 + (low - 0xDC00)), after)
        else some (Char.ofNat 0xFFFD, rest)
      | none => some (Char.ofNat 0xFFFD, rest)
    | _ => some (Char.ofNat 0xFFFD, rest)
  else if 0xDC00 ≤ high && high < 0xE000 then some (Char.ofNat 0xFFFD, rest)
  else some (Char.ofNat high, rest)

/-- The character that a backslash and what follows it stand for. -/
def escaped? : List Char → Option (Char × List Char)
  | '"' :: rest => some ('"', rest)
  | '\\' :: rest => some ('\\', rest)
  | '/' :: rest => some ('/', rest)
  | 'b' :: rest => some ('\x08', rest)
  | 'f' :: rest => some ('\x0c', rest)
  | 'n' :: rest => some ('\n', rest)
  | 'r' :: rest => some ('\r', rest)
  | 't' :: rest => some ('\t', rest)
  | 'u' :: rest => unitChar? rest
  | _ => none

/-- A text up to its closing quote; the characters before come the last first. The fuel is the
number of characters left. -/
def textFrom? : Nat → List Char → List Char → Option (String × List Char)
  | 0, _, _ => none
  | fuel + 1, before, s =>
    match s with
    | [] => none
    | '"' :: rest => some (String.ofList before.reverse, rest)
    | '\\' :: rest =>
      match escaped? rest with
      | some (c, rest) => textFrom? fuel (c :: before) rest
      | none => none
    | c :: rest => if c.toNat < 32 then none else textFrom? fuel (c :: before) rest

/-- The digits at the start, at least one. -/
def digits? (s : List Char) : Option (List Char × List Char) :=
  let ds := s.takeWhile Char.isDigit
  if ds.isEmpty then none else some (ds, s.dropWhile Char.isDigit)

/-- The digits before a point: a zero alone, or digits that do not start with one. -/
def leadingDigits? : List Char → Option (List Char × List Char)
  | '0' :: rest => some (['0'], rest)
  | s => digits? s

/-- The digits behind a point, if there are any. -/
def fraction (s : List Char) : List Char × List Char :=
  match s with
  | '.' :: rest =>
    match digits? rest with
    | some (ds, after) => ('.' :: ds, after)
    | none => ([], s)
  | _ => ([], s)

/-- The sign that an exponent may have. -/
def exponentSign : List Char → List Char × List Char
  | '+' :: rest => (['+'], rest)
  | '-' :: rest => (['-'], rest)
  | s => ([], s)

/-- An exponent, if there is one. -/
def exponent (s : List Char) : List Char × List Char :=
  match s with
  | e :: rest =>
    if e == 'e' || e == 'E' then
      let (sign, rest) := exponentSign rest
      match digits? rest with
      | some (ds, after) => ('e' :: sign ++ ds, after)
      | none => ([], s)
    else ([], s)
  | [] => ([], s)

/-- A number without its sign. A point or an exponent makes it a decimal one. -/
def number (negative : Bool) (s : List Char) : Except Unreadable (Setting × List Char) := do
  let (front, rest) ← orMalformed (leadingDigits? s)
  let (places, rest) := fraction rest
  let (power, rest) := exponent rest
  if places.isEmpty && power.isEmpty then
    match wholeOfDigits? front with
    | some n => return (.whole (if negative then -(n : Int) else n), rest)
    | none => throw (.number front.length)
  else
    let x ← orMalformed (Decimal.readFloat? (String.ofList (front ++ places ++ power)))
    return (.decimal (if negative then -x else x), rest)

/-- The words for values, with what they stand for. -/
def valueWords : List (String × Setting) := [
  ("null", .null), ("true", .switch true), ("false", .switch false), ("NaN", .decimal (0.0 / 0.0)),
  ("Infinity", .decimal (1.0 / 0.0)), ("-Infinity", .decimal (-1.0 / 0.0))]

/-- A word or a number. -/
def scalar (s : List Char) : Except Unreadable (Setting × List Char) :=
  match valueWords.findSome? fun (word, value) =>
      (restAfter? word.toList s).map fun rest => (value, rest) with
  | some found => .ok found
  | none =>
    match s with
    | '-' :: rest => number true rest
    | _ => number false s

mutual
/-- A value at the start, and what follows it. The fuel is twice the number of characters left. -/
def value : Nat → List Char → Except Unreadable (Setting × List Char)
  | 0, _ => .error .malformed
  | fuel + 1, s =>
    match s with
    | '"' :: rest =>
      orMalformed ((textFrom? (rest.length + 1) [] rest).map fun (t, rest) => (.text t, rest))
    | '[' :: rest =>
      match afterGap rest with
      | ']' :: after => .ok (.list [], after)
      | rest => items fuel [] rest
    | '\x7b' :: rest =>
      match afterGap rest with
      | '\x7d' :: after => .ok (.group [], after)
      | rest => entries fuel Dict.empty rest
    | s => scalar s

/-- The items of a list up to its end; those before come the last first. -/
def items : Nat → List Setting → List Char → Except Unreadable (Setting × List Char)
  | 0, _, _ => .error .malformed
  | fuel + 1, before, s => do
    let (item, rest) ← value fuel s
    match afterGap rest with
    | ',' :: rest => items fuel (item :: before) (afterGap rest)
    | ']' :: rest => return (.list (item :: before).reverse, rest)
    | _ => throw .malformed

/-- The entries of a section up to its end, after those before. -/
def entries : Nat → Dict Setting → List Char → Except Unreadable (Setting × List Char)
  | 0, _, _ => .error .malformed
  | fuel + 1, before, s =>
    match s with
    | '"' :: rest => do
      let (key, rest) ← orMalformed (textFrom? (rest.length + 1) [] rest)
      match afterGap rest with
      | ':' :: rest =>
        let (item, rest) ← value fuel (afterGap rest)
        match afterGap rest with
        | ',' :: rest => entries fuel (before.put key item) (afterGap rest)
        | '\x7d' :: rest => return (.group (before.put key item).entries, rest)
        | _ => throw .malformed
      | _ => throw .malformed
    | _ => .error .malformed
end

/-- Reads the text of a settings file. -/
def read (text : String) : Except Unreadable Setting := do
  let s := text.toList
  let (found, rest) ← value (2 * s.length + 1) (afterGap s)
  if (afterGap rest).isEmpty then return found else throw .malformed

end Componentry.Setting
