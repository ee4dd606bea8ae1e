import Componentry.Markup.ReferenceTable
import Componentry.Fault

/-!
# Character references

A reference names a character by number or by name. Text and attribute values read references
differently: in text the scanner finds where a reference ends and an unknown name stays as written;
in a value the longest older name counts, whatever follows it. A decimal number of too many digits
cannot be read.
-/

set_option autoImplicit false

namespace Componentry.Markup
open Componentry.Text

/-- The stand-in for a code that is no character. -/
def replacement : Char := Char.ofNat 0xFFFD

/-- A code that no character has. -/
def isNoCharacter (n : Nat) : Bool := (0xD800 ≤ n && n ≤ 0xDFFF) || 0x10FFFF < n

/-- The character of a number in text; nought and a code that no character has give the stand-in. -/
def characterOf (n : Nat) : Char :=
  if n == 0 || isNoCharacter n then replacement
  else if 128 ≤ n && n ≤ 159 then Char.ofNat (westernCodes.getD (n - 128) n)
  else Char.ofNat n

/-- A code whose reference leaves nothing in a value: controls and codes reserved as no
characters. -/
def isDroppedCode (n : Nat) : Bool :=
  (1 ≤ n && n ≤ 8) || n == 11 || (14 ≤ n && n ≤ 31) || n == 127
    || (0xFDD0 ≤ n && n ≤ 0xFDEF) || 0xFFFE ≤ n % 0x10000

/-- The characters of a number in a value. -/
def valueCharacters (n : Nat) : List Char :=
  if n == 0 || isNoCharacter n then [replacement]
  else if 128 ≤ n && n ≤ 159 then [Char.ofNat (westernCodes.getD (n - 128) n)]
  else if isDroppedCode n then []
  else [Char.ofNat n]

/-- The code of a name of the newer standard. -/
def newer? (name : String) : Option Nat :=
  match name.toList with
  | initial :: _ => (newerNames initial).lookup name
  | [] => none

/-- The characters of a name, one or two. -/
def named? (name : String) : Option (List Char) :=
  match ((legacyNames.lookup name).or (closedNames.lookup name)).or (newer? name) with
  | some code => some [Char.ofNat code]
  | none => (pairNames.lookup name).map fun (first, second) => [Char.ofNat first, Char.ofNat second]

/-- The character of an older name. -/
def legacy? (name : List Char) : Option Char :=
  (legacyNames.lookup (String.ofList name)).map Char.ofNat

/-- A hexadecimal digit. -/
def isHexDigit (c : Char) : Bool :=
  c.isDigit || ('a' ≤ c && c ≤ 'f') || ('A' ≤ c && c ≤ 'F')

/-- The value of a hexadecimal digit. -/
def hexValue (c : Char) : Nat :=
  if c.isDigit then c.toNat - 48 else if 'a' ≤ c then c.toNat - 87 else c.toNat - 55

/-- The number that digits write in a base. -/
def numberIn (base : Nat) (digits : List Char) : Nat :=
  digits.foldl (fun n c => base * n + hexValue c) 0

/-- A character that may stand in a name within a value. -/
def isValueNameChar (c : Char) : Bool :=
  !(c == '\t' || c == '\n' || c == '\x0c' || c == ' ' || c == '<' || c == '&' || c == '#'
    || c == ';')

/-- The longest start of a name, of at most so many and at least two characters, that is an older
name: its character and what follows. -/
def longestLegacy (name : List Char) : Nat → Option (Char × List Char)
  | 0 | 1 => none
  | n + 2 =>
    match legacy? (name.take (n + 2)) with
    | some c => some (c, name.drop (n + 2))
    | none => longestLegacy name (n + 1)

/-- The characters of a name in a value, with or without its semicolon. -/
def valueOfName (name : List Char) (closed : Bool) : List Char :=
  let written := if closed then name ++ [';'] else name
  let whole := if closed then named? (String.ofList name) else (legacy? name).map fun c => [c]
  match whole with
  | some characters => characters
  | none =>
    match longestLegacy written (written.length - 1) with
    | some (c, rest) => c :: rest
    | none => '&' :: written

/-- The number that decimal digits write, if there are not too many. -/
def decimalNumber (digits : List Char) : Except Fault Nat :=
  if mostDigits < digits.length then .error (.number (.long digits.length))
  else .ok (numberIn 10 digits)

/-- What a reference in a value stands for, and how many characters it takes. -/
abbrev ValueReference : Type := List Char × Nat

/-- A numbered reference in a value: the semicolon after it belongs to it. -/
def numbered (code length : Nat) (s : List Char) : ValueReference :=
  (valueCharacters code, if (s.drop length).head? == some ';' then length + 1 else length)

/-- The reference after an ampersand in a value, if there is one. -/
def valueReference? (s : List Char) : Except Fault (Option ValueReference) :=
  match s with
  | '#' :: r =>
    let decimal := r.takeWhile Char.isDigit
    if !decimal.isEmpty then
      (decimalNumber decimal).map fun code => some (numbered code (1 + decimal.length) s)
    else match r with
      | x :: r' =>
        let hex := r'.takeWhile isHexDigit
        if (x == 'x' || x == 'X') && !hex.isEmpty then
          .ok (some (numbered (numberIn 16 hex) (2 + hex.length) s))
        else .ok none
      | [] => .ok none
  | _ =>
    let name := (s.takeWhile isValueNameChar).take 32
    if name.isEmpty then .ok none
    else
      let closed := (s.drop name.length).head? == some ';'
      .ok (some (valueOfName name closed, if closed then name.length + 1 else name.length))

/-- Decodes the references of a value; the count says how many characters the last one still
covers. -/
def decodeFrom : Nat → List Char → Except Fault (List Char)
  | _, [] => .ok []
  | skip + 1, _ :: rest => decodeFrom skip rest
  | 0, c :: rest =>
    if c == '&' then
      match valueReference? rest with
      | .ok (some (characters, length)) =>
        (decodeFrom length rest).map fun decoded => characters ++ decoded
      | .ok none => (decodeFrom 0 rest).map fun decoded => c :: decoded
      | .error f => .error f
    else (decodeFrom 0 rest).map fun decoded => c :: decoded

/-- A value with its references decoded. -/
def decodeValue (s : List Char) : Except Fault (List Char) := decodeFrom 0 s

/-- A value without an ampersand is itself. -/
theorem decodeValue_of_plain : ∀ {s : List Char}, '&' ∉ s → decodeValue s = .ok s
  | [], _ => rfl
  | c :: rest, h => by
    have hc : (c == '&') = false := by
      rw [beq_eq_false_iff_ne]
      intro e
      exact h (e ▸ List.mem_cons_self)
    have hr : '&' ∉ rest := fun hm => h (List.mem_cons_of_mem _ hm)
    have ih := decodeValue_of_plain hr
    simp only [decodeValue] at ih ⊢
    rw [decodeFrom, hc, ih]
    rfl

end Componentry.Markup
