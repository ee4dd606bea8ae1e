import Componentry.Text.Blank
import Componentry.Text.Case
import Componentry.Text.Letters
import Componentry.Text.Slice

/-!
# Words in names

A text is cut into words at dashes, underscores and blanks, before every ASCII capital, and between
a digit and an ASCII letter. A word keeps its ASCII letters and digits from the first letter on, so
capitalized words put together make an identifier.

The identifier that stands for a name in source text is made of the words of the name, cut at
hyphens, underscores and blanks, each with a capital, without anything but ASCII letters and digits,
from the first letter on.
-/

set_option autoImplicit false

/-! ## Naming conventions

A name is written in one of four ways. Two of them part the words with a dash or an underscore,
which stands before every ASCII capital but the first.
-/

namespace Componentry
open Componentry.Text

/-- How names are written. -/
inductive NamingConvention where
  | pascal
  | camel
  | kebab
  | shouting
deriving Repr, DecidableEq

namespace NamingConvention

/-- The name of a convention, written by its own rule. -/
def name : NamingConvention → String
  | .pascal => "PascalCase"
  | .camel => "camelCase"
  | .kebab => "kebab-case"
  | .shouting => "UPPER_CASE"

/-- The convention of a name. -/
def ofName? : String → Option NamingConvention
  | "PascalCase" => some .pascal
  | "camelCase" => some .camel
  | "kebab-case" => some .kebab
  | "UPPER_CASE" => some .shouting
  | _ => none

/-- A mark before every ASCII capital. -/
def markCapitals (mark : Char) (s : List Char) : List Char :=
  s.flatMap fun c => if c.isUpper then [mark, c] else [c]

/-- Writes the characters of a name. -/
def applyTo (convention : NamingConvention) (s : List Char) : List Char :=
  match convention with
  | .pascal => upperFirst s
  | .camel =>
    match s with
    | [] => []
    | c :: rest => lowerChar c ++ rest
  | .kebab => (lowerChars (markCapitals '-' s)).dropWhile (· == '-')
  | .shouting => (upperChars (markCapitals '_' s)).dropWhile (· == '_')

/-- Writes a name. -/
def apply (convention : NamingConvention) (s : String) : String :=
  String.ofList (convention.applyTo s.toList)

end NamingConvention
end Componentry

/-! ## Words and identifiers -/

namespace Componentry.Naming
open Componentry.Text

/-- A character between words. -/
def isSeparator (c : Char) : Bool := c == '-' || c == '_' || isBlank c

/-- A word starts at a character: at a capital, or where letters and digits meet. -/
def startsWord (before : Option Char) (c : Char) : Bool :=
  c.isUpper ||
    match before with
    | none => false
    | some b => (isDecimal b && isAsciiLetter c) || (isAsciiLetter b && isDecimal c)

/-- The pieces of a text between separators and starts of words; the character before is given. -/
def pieces (before : Option Char) : List Char → List (List Char)
  | [] => [[]]
  | c :: rest =>
    let after := pieces (some c) rest
    if isSeparator c then [] :: after
    else match after with
      | [] => [[c]]
      | piece :: more =>
        if startsWord before c then [] :: (c :: piece) :: more else (c :: piece) :: more

/-- The ASCII letters and digits of a piece from its first letter on. -/
def plainWord (piece : List Char) : List Char :=
  (piece.filter isAsciiAlnum).dropWhile isAsciiDigit

/-- A word with a capital and small letters after it. -/
def capitalized : List Char → List Char
  | [] => []
  | c :: rest => c.toUpper :: rest.map Char.toLower

/-- The words of a text, capitalized and put together. -/
def pascalCase (s : String) : String :=
  String.ofList ((pieces none s.toList).flatMap fun piece => capitalized (plainWord piece))

/-! ### Identifiers -/

/-- The letters and digits of a name, each word with a capital. -/
def identifierChars (name : List Char) : List Char :=
  ((splitWhere isSeparator name).flatMap upperFirst).filter isAsciiAlnum

/-- The identifier of a name. -/
def identifier (name : String) : String :=
  match upperFirst ((identifierChars name.toList).dropWhile fun c => !isAsciiLetter c) with
  | [] => "Component"
  | cs => String.ofList cs

end Componentry.Naming
