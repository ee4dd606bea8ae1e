import Componentry.Text.HiddenTable
import Componentry.Text.Letters

/-!
# Quoted text

A literal is a text as reports show it: between single quotes, or between double ones where it holds
only single ones. Backslashes and the chosen quote stand behind a backslash; a character without a
mark of its own is shown by its number in hexadecimal, with two, four or eight digits.

A text in double quotes holds ASCII characters only: quotes and backslashes stand behind a
backslash, some control characters have a letter, and every other character outside the printable
ones is written as one or two units of sixteen bits in hexadecimal.
-/

set_option autoImplicit false

namespace Componentry.Text

/-! ## Literals -/

/-- A character leaves a mark of its own; the space counts as one. -/
def isVisible (c : Char) : Bool :=
  if c.toNat < 128 then 32 ≤ c.toNat && c.toNat < 127 else !onRun hiddenRuns c

/-- A number in hexadecimal with at least so many digits. -/
def hexadecimal (width n : Nat) : List Char :=
  let digits := Nat.toDigits 16 n
  List.replicate (width - digits.length) '0' ++ digits

/-- The quotes that go around a text. -/
def literalQuote (s : List Char) : Char := if s.contains '\'' && !s.contains '"' then '"' else '\''

/-- A character within quotes. -/
def literalChar (quote c : Char) : List Char :=
  if c == quote || c == '\\' then ['\\', c]
  else if c == '\t' then ['\\', 't']
  else if c == '\n' then ['\\', 'n']
  else if c == '\r' then ['\\', 'r']
  else if isVisible c then [c]
  else if c.toNat < 0x100 then '\\' :: 'x' :: hexadecimal 2 c.toNat
  else if c.toNat < 0x10000 then '\\' :: 'u' :: hexadecimal 4 c.toNat
  else '\\' :: 'U' :: hexadecimal 8 c.toNat

/-- A text as a literal. -/
def literal (s : String) : String :=
  let quote := literalQuote s.toList
  String.ofList (quote :: s.toList.flatMap (literalChar quote) ++ [quote])

/-! ## In double quotes -/

/-- A unit of sixteen bits as four digits behind `\u`. -/
def unitEscape (n : Nat) : List Char :=
  '\\' :: 'u' :: [n / 4096 % 16, n / 256 % 16, n / 16 % 16, n % 16].map Nat.digitChar

/-- A character within quotes. -/
def quotedChar (c : Char) : List Char :=
  if c == '"' then ['\\', '"']
  else if c == '\\' then ['\\', '\\']
  else if c == '\n' then ['\\', 'n']
  else if c == '\r' then ['\\', 'r']
  else if c == '\t' then ['\\', 't']
  else if c == '\x0c' then ['\\', 'f']
  else if c == '\x08' then ['\\', 'b']
  else
    let n := c.toNat
    if 32 ≤ n && n < 127 then [c]
    else if n < 0x10000 then unitEscape n
    else unitEscape (0xD800 + (n - 0x10000) / 1024) ++ unitEscape (0xDC00 + (n - 0x10000) % 1024)

/-- A text in quotes. -/
def quoted (s : String) : String := String.ofList ('"' :: s.toList.flatMap quotedChar ++ ['"'])

end Componentry.Text
