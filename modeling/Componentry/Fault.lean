import Componentry.Text.Quoted
import Componentry.Text.Slice

/-!
# Faults

Everything that makes an operation refuse, by cause, with the words that report it.
-/

set_option autoImplicit false

namespace Componentry
open Componentry.Text

/-- Why a file could not be read or written. -/
inductive FileFault where
  | missing (path : String)
  | isDirectory (path : String)
  | notDirectory (path : String)
  | occupied (path : String)
  | nameTooLong (path : String)
  /-- The path holds a character that no path has. -/
  | impossible
deriving Repr, DecidableEq

namespace FileFault

/-- The report of a file system. -/
def message : FileFault → String
  | .missing path => "[Errno 2] No such file or directory: " ++ literal path
  | .isDirectory path => "[Errno 21] Is a directory: " ++ literal path
  | .notDirectory path => "[Errno 20] Not a directory: " ++ literal path
  | .occupied path => "[Errno 17] File exists: " ++ literal path
  | .nameTooLong path => "[Errno 36] File name too long: " ++ literal path
  | .impossible => "embedded null byte"

/-- A fault of the files themselves, which is reported where they were asked for; a path that cannot
be is a fault of whoever asks. -/
def isReported : FileFault → Bool
  | .impossible => false
  | _ => true

end FileFault

/-- Why markup could not be read. -/
inductive MarkupFault where
  /-- A marked section does not start with a word; the text there is given. -/
  | unnamedSection (start : String)
  /-- A marked section starts with a word that no section has. -/
  | unknownSection (word : String)
deriving Repr, DecidableEq

namespace MarkupFault

/-- The report of a reader of markup. -/
def message (f : MarkupFault) : String :=
  "The markup you provided was rejected by the parser. Trying a different parser or a different "
    ++ "encoding may help.\n\nOriginal error(s) from parser:\n AssertionError: "
    ++ match f with
      | .unnamedSection start => "expected name token at " ++ literal start
      | .unknownSection word => "unknown status keyword " ++ literal word ++ " in marked section"

end MarkupFault

/-- Why a number cannot be used. -/
inductive NumberFault where
  /-- It has too many digits to be read as a whole number. -/
  | long (digits : Nat)
  /-- It has too many digits to be written as a whole number. -/
  | longToWrite
  /-- It is infinite where a whole number is wanted. -/
  | infinite
  /-- It is a whole number beyond all doubles. -/
  | beyondDoubles
  /-- It is a quotient beyond all doubles. -/
  | quotientBeyondDoubles
  /-- It counts more characters than a text can have. -/
  | beyondCounts
deriving Repr, DecidableEq

namespace NumberFault

/-- The report of a number with too many digits; what is known of it is said as well. -/
def limitReport (known : String) : String :=
  "Exceeds the limit (" ++ natText mostDigits ++ " digits) for integer string conversion" ++ known
    ++ "; use sys.set_int_max_str_digits() to increase the limit"

/-- The report of a number that cannot be used. -/
def message : NumberFault → String
  | .long digits => limitReport (": value has " ++ natText digits ++ " digits")
  | .longToWrite => limitReport ""
  | .infinite => "cannot convert float infinity to integer"
  | .beyondDoubles => "int too large to convert to float"
  | .quotientBeyondDoubles => "integer division result too large for a float"
  | .beyondCounts => "cannot fit 'int' into an index-sized integer"

end NumberFault

/-- Why a value is no section and none can be made of it. -/
inductive SectionFault where
  /-- A value of a kind has no items. -/
  | noItems (kind : String)
  /-- The item at a place is no sequence. -/
  | noSequence (place : Nat)
  /-- The item at a place is a sequence of a length that no pair has. -/
  | noPair (place length : Nat)
  /-- A value of a kind is given as a key and can be none. -/
  | noKey (kind : String)
  /-- A key is no text. -/
  | noTextKey
deriving Repr, DecidableEq

namespace SectionFault

/-- The report of a value that no section can be made of. -/
def message : SectionFault → String
  | .noItems kind => "'" ++ kind ++ "' object is not iterable"
  | .noSequence place =>
    "cannot convert dictionary update sequence element #" ++ natText place ++ " to a sequence"
  | .noPair place length =>
    "dictionary update sequence element #" ++ natText place ++ " has length " ++ natText length
      ++ "; 2 is required"
  | .noKey kind => "unhashable type: '" ++ kind ++ "'"
  | .noTextKey => "keywords must be strings"

end SectionFault

/-- Why an operation refuses. -/
inductive Fault where
  /-- There is no markup at all. -/
  | noMarkup
  | markup (f : MarkupFault)
  /-- A text is no selector; what is wrong with it is said as well. -/
  | invalidSelector (selector mistake : String)
  /-- A selector asks, at a place in it, for a part of an element. -/
  | partOfElement (place : Nat)
  /-- A selector has a rule at a place in it. -/
  | holdsRule (place : Nat)
  /-- A selector is larger than a limit. -/
  | oversizedSelector (limit : Nat)
  /-- The depth limit leaves a page without its root. -/
  | noRoot
  /-- The options of a kind do not fit. -/
  | invalidOptions (kind : String)
  /-- A section is wanted. -/
  | noSection (f : SectionFault)
  | unknownStrategy (name : String) (known : List String)
  /-- A strategy writes no rules. -/
  | noRules
  /-- A strategy knows no utility classes. -/
  | noUtilities
  /-- Components contain one another in a circle, given by its links. -/
  | circularContainment (links : List (String × String))
  | parentAlreadySet (id : String)
  /-- Nothing is known under a name. -/
  | unknownEntry (name : String)
  /-- A value cannot be used where it stands. -/
  | unusableValue
  /-- A value does not know what is asked of it. -/
  | unsuitedValue
  /-- Nodes contain one another in a circle, so that a comparison has no end. -/
  | endlessNesting
  /-- No records have a level of that name. -/
  | unknownLevel (name : String)
  /-- No home directory is known for a path. -/
  | noHome
  | number (f : NumberFault)
  /-- An escape gives a number that no character has. -/
  | noCharacter
  /-- A control without a type is asked for its limits. -/
  | typelessControl
  /-- The weeks of a year cannot be counted. -/
  | uncountedYear (year : Nat)
  | file (f : FileFault)
deriving Repr, DecidableEq

namespace Fault

/-- A link of two components. -/
def linkText (l : String × String) : String := "(" ++ literal l.1 ++ ", " ++ literal l.2 ++ ")"

/-- The report of a fault, empty where it has no words of its own. Of the report of options only the
first line is given: those below it, on the fields, are in the words of whatever checks them. -/
def message : Fault → String
  | .noMarkup => "HTML input cannot be None."
  | .markup f => f.message
  | .invalidSelector s mistake => "Unsupported selector: '" ++ s ++ "' (" ++ mistake ++ ")"
  | .invalidOptions kind => "1 validation error for " ++ kind
  | .noSection f => f.message
  | .unknownStrategy name known =>
    "Unknown CSS strategy '" ++ name ++ "' (available: " ++ join ", " known ++ ")"
  | .circularContainment links =>
    "Component containment contains a cycle: [" ++ join ", " (links.map linkText) ++ "]"
  | .parentAlreadySet id => "Parent of " ++ id ++ " is already set."
  | .file f => f.message
  | .partOfElement place => "Pseudo-element found at position " ++ natText place
  | .holdsRule place => "At-rules found at position " ++ natText place
  | .oversizedSelector limit => "Selector exceeds pseudo-class nesting limit of " ++ natText limit
  | .noRoot => "'NoneType' object has no attribute 'kind'"
  | .unknownLevel name => "Unknown level: " ++ literal name
  | .noHome => "Could not determine home directory."
  | .number f => f.message
  | .typelessControl => "'NoneType' object is not iterable"
  | .noCharacter => "chr() arg not in range(0x110000)"
  | .uncountedYear year => "year " ++ natText year ++ " is out of range"
  | .noRules | .noUtilities | .unknownEntry _ | .unusableValue | .unsuitedValue
  | .endlessNesting => ""

end Fault
end Componentry
