import Componentry.Text.LetterTable
import Componentry.Text.Blank

/-!
# Letters, digits and numbers in text

Word characters are letters, numbers and the underscore. A decimal digit has a value from zero to
nine, in any script; an integer is read after trimming, with an optional sign and single
underscores between digits, and written in ASCII.
-/

set_option autoImplicit false

namespace Componentry.Text

/-- A character lies on one of the runs. -/
def onRun (runs : List (Nat × Nat × Nat)) (c : Char) : Bool :=
  runs.any fun (first, last, stride) =>
    first ≤ c.toNat && c.toNat ≤ last && (c.toNat - first) % stride == 0

/-- An ASCII letter. -/
def isAsciiLetter (c : Char) : Bool := c.isAlpha

/-- An ASCII digit. -/
def isAsciiDigit (c : Char) : Bool := c.isDigit

/-- An ASCII letter or digit. -/
def isAsciiAlnum (c : Char) : Bool := c.isAlphanum

/-- A letter or number of any script. -/
def isAlnum (c : Char) : Bool :=
  if c.toNat < 128 then c.isAlphanum else onRun letterRuns c

/-- A letter, a number or the underscore. -/
def isWordChar (c : Char) : Bool := isAlnum c || c == '_'

/-- The value of a decimal digit of any script. -/
def digitValue? (c : Char) : Option Nat :=
  if c.toNat < 128 then
    if c.isDigit then some (c.toNat - 48) else none
  else
    (decimalBlocks.find? fun (first, last) => first ≤ c.toNat && c.toNat ≤ last).map
      fun (first, _) => (c.toNat - first) % 10

/-- A decimal digit of any script. -/
def isDecimal (c : Char) : Bool := (digitValue? c).isSome

/-- A digit of any kind, superscripts and circled digits among them. -/
def isDigit (c : Char) : Bool :=
  isDecimal c || otherDigitBlocks.any fun (first, last) => first ≤ c.toNat && c.toNat ≤ last

/-- A non-empty text of digits of any kind. -/
def isDigitText (s : String) : Bool := !s.isEmpty && s.toList.all isDigit

/-- The number that decimal digits write, after those already read. -/
def readDigits : Nat → List Char → Option Nat
  | n, [] => some n
  | n, c :: rest => (digitValue? c).bind fun d => readDigits (10 * n + d) rest

/-- The number that a non-empty run of decimal digits writes. -/
def natOfDigits? (s : List Char) : Option Nat :=
  if s.isEmpty then none else readDigits 0 s

/-- The most digits that are read as a whole number. -/
def mostDigits : Nat := 4300

/-- The number that digits write, if there are not too many to read. -/
def wholeOfDigits? (s : List Char) : Option Nat :=
  if mostDigits < s.length then none else natOfDigits? s

/-- Removes single underscores that stand between two digits; any other underscore refuses. -/
def dropUnderscores : List Char → Option (List Char)
  | [] => some []
  | '_' :: _ => none
  | c :: '_' :: d :: rest =>
    if isDecimal c && isDecimal d then (dropUnderscores (d :: rest)).map (c :: ·) else none
  | c :: rest => (dropUnderscores rest).map (c :: ·)

/-- An integer in a text: blanks around it, a sign and underscores between digits are allowed. One
with too many digits is not read. -/
def readInt? (s : String) : Option Int :=
  let body := trimChars s.toList
  match body with
  | '-' :: digits => ((dropUnderscores digits).bind wholeOfDigits?).map fun n => -(n : Int)
  | '+' :: digits => ((dropUnderscores digits).bind wholeOfDigits?).map fun n => (n : Int)
  | digits => ((dropUnderscores digits).bind wholeOfDigits?).map fun n => (n : Int)

/-- The decimal text of a number. -/
def natText (n : Nat) : String := String.ofList (Nat.toDigits 10 n)

/-- The decimal text of an integer. -/
def intText : Int → String
  | .ofNat n => natText n
  | .negSucc n => "-" ++ natText (n + 1)

/-- ASCII letters and digits come before the first character that is not ASCII. -/
theorem toNat_lt_of_isAsciiAlnum {c : Char} (h : isAsciiAlnum c = true) : c.toNat < 128 := by
  delta isAsciiAlnum Char.isAlphanum Char.isAlpha Char.isUpper Char.isLower Char.isDigit at h
  simp only [Bool.or_eq_true, Bool.and_eq_true, decide_eq_true_eq, UInt32.le_iff_toNat_le,
    ge_iff_le] at h
  have : c.toNat = c.val.toNat := rfl
  have : 'Z'.val.toNat = 90 := rfl
  have : 'z'.val.toNat = 122 := rfl
  have : '9'.val.toNat = 57 := rfl
  omega

/-- ASCII letters and digits are letters and numbers. -/
theorem isAlnum_of_isAsciiAlnum {c : Char} (h : isAsciiAlnum c = true) : isAlnum c = true := by
  rw [isAlnum, if_pos (toNat_lt_of_isAsciiAlnum h)]
  exact h

end Componentry.Text
