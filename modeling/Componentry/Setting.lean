import Componentry.Decimal
import Componentry.Dict
import Componentry.Fault
import Componentry.Text.Quoted
import Componentry.Text.Slice

/-!
# Settings

A setting is a value of the kinds that a settings file holds. Where a value of one kind is wanted,
some values of other kinds stand in for it: a whole number may be written as a text, a switch as a
word. What cannot stand in is refused.
-/

set_option autoImplicit false

namespace Componentry
open Componentry.Text

/-- A value of a settings file; the entries of a section keep their order. -/
inductive Setting where
  | null
  | switch (on : Bool)
  | whole (n : Int)
  | decimal (x : Float)
  | text (s : String)
  | list (items : List Setting)
  | group (entries : List (String × Setting))

namespace Setting

instance : Inhabited Setting := ⟨.null⟩

/-- The value under a key of a section. -/
def get? (s : Setting) (key : String) : Option Setting :=
  match s with
  | .group entries => entries.lookup key
  | _ => none

/-- A setting that is a section. -/
def isSection : Setting → Bool
  | .group _ => true
  | _ => false

/-- A setting that has to be a section. -/
def toSection? (s : Setting) : Option Setting := if s.isSection then some s else none

def isNull : Setting → Bool
  | .null => true
  | _ => false

/-- A value that counts for something: it is neither nothing, nor zero, nor empty. -/
def counts : Setting → Bool
  | .null => false
  | .switch on => on
  | .whole n => n != 0
  | .decimal x => x != 0.0
  | .text s => s != ""
  | .list items => !items.isEmpty
  | .group entries => !entries.isEmpty

/-- The name of the kind of a value. -/
def kindName : Setting → String
  | .null => "NoneType"
  | .switch _ => "bool"
  | .whole _ => "int"
  | .decimal _ => "float"
  | .text _ => "str"
  | .list _ => "list"
  | .group _ => "dict"

/-- A whole number written as a text, a zero fraction allowed. -/
def wholeOfText? (s : String) : Option Int :=
  match cutAt ['.'] (trimChars s.toList) with
  | some (front, fraction) =>
    if fraction.all (· == '0') then readInt? (String.ofList front) else none
  | none => readInt? s

/-- The whole number that a value stands for. -/
def toInt? : Setting → Option Int
  | .whole n => some n
  | .switch on => some (if on then 1 else 0)
  | .decimal x =>
    match Decimal.truncate? x with
    | some n => if Float.ofInt n == x then some n else none
    | none => none
  | .text s => wholeOfText? s
  | _ => none

/-- The decimal number that a value stands for. -/
def toFloat? : Setting → Option Float
  | .decimal x => some x
  | .whole n => some (Float.ofInt n)
  | .switch on => some (if on then 1.0 else 0.0)
  | .text s => Decimal.readFloat? s
  | _ => none

/-- The words for a switch that is on. -/
def onWords : List String := ["1", "on", "t", "true", "y", "yes"]

/-- The words for a switch that is off. -/
def offWords : List String := ["0", "off", "f", "false", "n", "no"]

/-- The switch that a value stands for. -/
def toBool? : Setting → Option Bool
  | .switch on => some on
  | .whole n => if n == 0 then some false else if n == 1 then some true else none
  | .decimal x => if x == 0.0 then some false else if x == 1.0 then some true else none
  | .text s =>
    let word := lower s
    if onWords.contains word then some true
    else if offWords.contains word then some false
    else none
  | _ => none

/-- The text of a value. -/
def toText? : Setting → Option String
  | .text s => some s
  | _ => none

/-- The items of a list, each read. -/
def toList? {α : Type} (read : Setting → Option α) : Setting → Option (List α)
  | .list items => items.mapM read
  | _ => none

/-- A value, or nothing where there is null. -/
def orNull {α : Type} (read : Setting → Option α) : Setting → Option (Option α)
  | .null => some none
  | s => (read s).map some

/-- A pair of values, given as a list of two. -/
def toPair? {α β : Type} (first : Setting → Option α) (second : Setting → Option β) :
    Setting → Option (α × β)
  | .list [a, b] => do some (← first a, ← second b)
  | _ => none

/-- What a value holds one by one: the items of a list, the characters of a text, the keys of a
section. -/
def items? : Setting → Option (List Setting)
  | .list items => some items
  | .text s => some (s.toList.map fun c => .text (String.ofList [c]))
  | .group entries => some (entries.map fun e => .text e.1)
  | _ => none

/-- A value that can be a key. -/
def isKey : Setting → Bool
  | .list _ | .group _ => false
  | _ => true

/-- The key and the value that the item at a place gives. -/
def entryAt (place : Nat) (s : Setting) : Except SectionFault (Setting × Setting) :=
  match s.items? with
  | none => .error (.noSequence place)
  | some [key, value] => if key.isKey then .ok (key, value) else .error (.noKey key.kindName)
  | some items => .error (.noPair place items.length)

/-- The keys and values that items from a place on give. -/
def entriesFrom : Nat → List Setting → Except SectionFault (List (Setting × Setting))
  | _, [] => .ok []
  | place, s :: rest => do
    let e ← s.entryAt place
    let more ← entriesFrom (place + 1) rest
    .ok (e :: more)

/-- The entries of a section, or those that the items of another value give. -/
def toEntries : Setting → Except SectionFault (List (String × Setting))
  | .group entries => .ok entries
  | s => do
    let some items := s.items? | .error (.noItems s.kindName)
    let entries ← entriesFrom 0 items
    match entries.mapM fun e => e.1.toText?.map fun key => (key, e.2) with
    | some entries => .ok (Dict.ofList entries).entries
    | none => .error .noTextKey

/-- One of some words. -/
def toWord? {α : Type} (read : String → Option α) (s : Setting) : Option α := s.toText?.bind read

/-- The value under a key, read; a default where the key is missing. -/
def field {α : Type} (s : Setting) (key : String) (read : Setting → Option α) (default : α) :
    Option α :=
  match s.get? key with
  | none => some default
  | some v => read v

/-- The value under a key that has to be there, read. -/
def required {α : Type} (s : Setting) (key : String) (read : Setting → Option α) : Option α :=
  (s.get? key).bind read

end Setting
end Componentry

/-! ## Writing settings

A value as the text of a settings file, in which every item and entry has a line of its own, two
columns further in than what holds it. In a report a text stands for itself; within a list or a
section it is a literal.
-/

namespace Componentry.Setting
open Componentry.Text

/-! ### In reports -/

mutual
/-- A value within another one. -/
def inner : Setting → String
  | .null => "None"
  | .switch on => if on then "True" else "False"
  | .whole n => intText n
  | .decimal x => Decimal.shortest x
  | .text s => literal s
  | .list items => "[" ++ join ", " (innerItems items) ++ "]"
  | .group entries => "\x7b" ++ join ", " (innerEntries entries) ++ "\x7d"

/-- The items of a list. -/
def innerItems : List Setting → List String
  | [] => []
  | s :: rest => inner s :: innerItems rest

/-- The entries of a section. -/
def innerEntries : List (String × Setting) → List String
  | [] => []
  | (key, s) :: rest => (literal key ++ ": " ++ inner s) :: innerEntries rest
end

/-- A value in a report. -/
def shown : Setting → String
  | .text s => s
  | s => s.inner

/-! ### In files -/

/-- The start of a line at a level. -/
def lineStart (level : Nat) : String := "\n" ++ String.ofList (List.replicate (2 * level) ' ')

/-- Written parts between brackets, each on a line of its own. -/
def bracketed (opening closing : String) (level : Nat) (parts : List String) : String :=
  if parts.isEmpty then opening ++ closing
  else opening ++ lineStart (level + 1) ++ join ("," ++ lineStart (level + 1)) parts
    ++ lineStart level ++ closing

/-- A decimal number in a settings file. -/
def decimalText (x : Float) : String :=
  if x != x then "NaN" else if x == 1.0 / 0.0 then "Infinity"
  else if x == -1.0 / 0.0 then "-Infinity" else Decimal.shortest x

mutual
/-- A value at a level. -/
def writeAt (level : Nat) : Setting → String
  | .null => "null"
  | .switch on => if on then "true" else "false"
  | .whole n => intText n
  | .decimal x => decimalText x
  | .text s => quoted s
  | .list items => bracketed "[" "]" level (writeItems (level + 1) items)
  | .group entries => bracketed "\x7b" "\x7d" level (writeEntries (level + 1) entries)

/-- The items of a list. -/
def writeItems (level : Nat) : List Setting → List String
  | [] => []
  | s :: rest => writeAt level s :: writeItems level rest

/-- The entries of a section. -/
def writeEntries (level : Nat) : List (String × Setting) → List String
  | [] => []
  | (key, s) :: rest => (quoted key ++ ": " ++ writeAt level s) :: writeEntries level rest
end

/-- A value as the text of a settings file. -/
def write (s : Setting) : String := writeAt 0 s

end Componentry.Setting
