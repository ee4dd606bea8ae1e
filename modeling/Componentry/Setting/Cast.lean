import Componentry.Setting
import Componentry.Decimal
import Componentry.Fault

/-!
# Casting settings

A new value takes the kind of the value it replaces, where it can: words become switches, texts
become numbers or lists, and anything without a number that is too long becomes a text. A number
that has no counterpart of the other kind is refused.
-/

set_option autoImplicit false

namespace Componentry.Setting
open Componentry.Text

/-- The words that turn a switch on. -/
def switchOnWords : List String := ["1", "true", "yes", "on"]

/-- The words that turn a switch off. -/
def switchOffWords : List String := ["0", "false", "no", "off"]

/-- The switch for a value: a text has to be a word for one, other values count or do not. -/
def castSwitch? : Setting → Option Bool
  | .text s =>
    let word := lower (trim s)
    if switchOnWords.contains word then some true
    else if switchOffWords.contains word then some false
    else none
  | s => some s.counts

/-- The whole number for a value; a decimal one is cut, and must not be infinite. -/
def castWhole? : Setting → Except Fault (Option Int)
  | .whole n => .ok (some n)
  | .switch on => .ok (some (if on then 1 else 0))
  | .decimal x =>
    match Decimal.truncate? x with
    | some n => .ok (some n)
    | none => if x != x then .ok none else .error (.number .infinite)
  | .text s => .ok (readInt? s)
  | _ => .ok none

/-- The decimal number for a value; a whole one must not be beyond all doubles. -/
def castDecimal? (s : Setting) : Except Fault (Option Float) :=
  match s with
  | .whole n =>
    if Decimal.exceedsDoubles n.natAbs 1 then .error (.number .beyondDoubles) else .ok s.toFloat?
  | s => .ok s.toFloat?

/-- The items in a text, between commas; empty ones do not count. -/
def itemsOfText (s : String) : List Setting :=
  ((splitWhere (· == ',') s.toList).map fun item => trim (String.ofList item)).filterMap fun item =>
    if item == "" then none else some (.text item)

/-- The items for a value: those in a text, those of a list, or the keys of a section. -/
def castItems? : Setting → Option (List Setting)
  | .text s => some (itemsOfText s)
  | .list items => some items
  | .group entries => some (entries.map fun (key, _) => .text key)
  | _ => none

mutual
/-- A whole number in a value has more digits than a text is given. -/
def holdsLongNumber : Setting → Bool
  | .whole n => decide (Nat.pow 10 mostDigits ≤ n.natAbs)
  | .list items => anyHoldsLongNumber items
  | .group entries => anyEntryHoldsLongNumber entries
  | .null | .switch _ | .decimal _ | .text _ => false

/-- A whole number in an item has too many digits. -/
def anyHoldsLongNumber : List Setting → Bool
  | [] => false
  | s :: rest => holdsLongNumber s || anyHoldsLongNumber rest

/-- A whole number in an entry has too many digits. -/
def anyEntryHoldsLongNumber : List (String × Setting) → Bool
  | [] => false
  | (_, s) :: rest => holdsLongNumber s || anyEntryHoldsLongNumber rest
end

/-- The text for a value, if it has one. -/
def castText? : Setting → Option String
  | .text s => some s
  | s => if s.holdsLongNumber then none else some s.shown

/-- A new value as one of the kind of an old one, if it can be made one; nothing and sections ask
for no kind. -/
def castLike? (old new : Setting) : Except Fault (Option Setting) :=
  match old with
  | .null | .group _ => .ok (some new)
  | .switch _ => .ok ((castSwitch? new).map .switch)
  | .whole _ => (castWhole? new).map fun n? => n?.map .whole
  | .decimal _ => (castDecimal? new).map fun x? => x?.map .decimal
  | .text _ => .ok ((castText? new).map .text)
  | .list _ => .ok ((castItems? new).map .list)

end Componentry.Setting
