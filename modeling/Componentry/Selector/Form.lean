import Componentry.Decimal
import Componentry.Selector.Frame

/-!
# Controls

Selectors ask of controls which form they belong to, and whether their values lie within limits.
-/

set_option autoImplicit false

/-! ## Controls in forms

A control belongs to the nearest form around it on its page, else to the outermost element of the
page. The first button of a form that sends it does so by default, and a choice is open while no
choice of its name in the form is taken.
-/

namespace Componentry.Selector
open Componentry.Text Componentry.Markup

/-- The type of a control, with its ASCII capitals put in lower case. -/
def typeOf (p : Place) : String := asciiLower (valueOrNone p "type")

/-- An element is a form. -/
def isForm (p : Place) : Bool := nameOf p == "form"

/-- The form around a control, or the outermost element around it where there is none; nothing
around it on its page leaves it without. -/
def formOf? (p : Place) : Option Place :=
  ((pageAncestors p).find? isForm).or (pageAncestors p).getLast?

/-- An element is the first button of its form that sends it. -/
def isFirstSubmit (p : Place) : Bool :=
  match (pageAncestors p).find? isForm with
  | none => false
  | some form =>
    let buttons := ((pageDescendants form).takeWhile fun q => !isForm q).filter fun q =>
      (nameOf q == "input" || nameOf q == "button") && typeOf q == "submit"
    (buttons.head?.map p.same).getD false

/-- A choice of a name that is taken. -/
def isTaken (name : Option String) (p : Place) : Bool :=
  nameOf p == "input" && typeOf p == "radio" && valueOf? p "name" == name
    && (valueOf? p "checked").isSome

/-- No other choice of the same name is taken in the form of a choice. A choice that stands in a
frame alone has no form to look in, and is not an open one. -/
def isOpenChoice (p : Place) : Bool :=
  match formOf? p with
  | none => false
  | some form =>
    !((pageDescendants form).any fun q =>
      !q.same p && isTaken (valueOf? p "name") q && ((formOf? q).map form.same).getD false)

end Componentry.Selector

/-! ## Controls with limits

A control for dates, times or numbers may have a least and a greatest value. What is written is
compared only where it is a value of the control's kind: a date of the calendar, a week of its year,
a time of the day, a number. Times go around, so a least time after the greatest one means the night
between them.
-/

namespace Componentry.Selector
open Componentry.Text Componentry.Markup

/-- The kinds of values with limits. -/
inductive Scale where
  | date
  | month
  | week
  | time
  | dateTime
  | number
deriving Repr, DecidableEq

/-- The kind of the values of a control, by its type. -/
def Scale.ofType? : String → Option Scale
  | "date" => some .date
  | "month" => some .month
  | "week" => some .week
  | "time" => some .time
  | "datetime-local" => some .dateTime
  | "number" | "range" => some .number
  | _ => none

/-- A value: the parts of a date or a time from the greatest on, or a number. -/
inductive Measure where
  | moment (parts : List Nat)
  | number (x : Float)

/-- The first value comes before the second. -/
def Measure.before : Measure → Measure → Bool
  | .moment a, .moment b => decide (a < b)
  | .number a, .number b => a < b
  | _, _ => false

/-! ### The calendar -/

/-- A year with a day more. -/
def isLeap (year : Nat) : Bool := (year % 4 == 0 && year % 100 != 0) || year % 400 == 0

/-- The number of days of a month. -/
def daysOf (year month : Nat) : Nat :=
  if month == 2 then (if isLeap year then 29 else 28)
  else if [4, 6, 9, 11].contains month then 30
  else 31

/-- A day of the calendar. -/
def isDate (year month day : Nat) : Bool :=
  1 ≤ year && 1 ≤ month && month ≤ 12 && 1 ≤ day && day ≤ daysOf year month

/-- A time of the day. -/
def isTime (hour minute : Nat) : Bool := hour ≤ 23 && minute ≤ 59

/-- The day of the week a year ends with, a Sunday being zero. -/
def lastWeekday (year : Nat) : Nat := (year + year / 4 - year / 100 + year / 400) % 7

/-- The number of weeks of a year, which are counted by their Thursdays. The calendar goes up to the
last year of four digits. -/
def weeksOf (year : Nat) : Except Fault Nat :=
  if 9999 < year then .error (.uncountedYear year)
  else
    let last := lastWeekday year
    .ok (if last == 4 || (last == 5 && isLeap year) then 53 else 52)

/-! ### Reading values -/

/-- A value that was read: the number of the year's digits, and the parts after it. -/
structure Written where
  year : List Char := []
  parts : List Nat := []

/-- The four or more digits of a year, and what follows. -/
def year? (s : List Char) : Option (List Char × List Char) :=
  let digits := s.takeWhile isAsciiDigit
  if digits.length < 4 then none else some (digits, s.drop digits.length)

/-- The number of two digits after a mark, and what follows. -/
def two? (mark : Char) : List Char → Option (Nat × List Char)
  | c :: a :: b :: rest =>
    if c == mark && isAsciiDigit a && isAsciiDigit b then
      (natOfDigits? [a, b]).map fun n => (n, rest)
    else none
  | _ => none

/-- Numbers of two digits, each after its mark, up to the end or a last line feed. -/
def twos? : List Char → List Char → Option (List Nat)
  | [], s => if s == [] || s == ['\n'] then some [] else none
  | mark :: marks, s => (two? mark s).bind fun (n, rest) => (twos? marks rest).map (n :: ·)

/-- A year and numbers of two digits after their marks. -/
def dated? (marks s : List Char) : Option Written := do
  let (year, rest) ← year? s
  return ⟨year, ← twos? marks rest⟩

/-- The number of a year; one of too many digits is not read. -/
def yearNumber (digits : List Char) : Except Fault Nat :=
  match wholeOfDigits? digits with
  | some year => .ok year
  | none => .error (.number (.long digits.length))

/-- The form of a number: digits with an optional point between them or before them, after an
optional minus sign; a line feed may follow. -/
def isNumeral (s : List Char) : Bool :=
  let body := match s with
    | '-' :: rest => rest
    | rest => rest
  let whole := body.takeWhile isAsciiDigit
  let atEnd (s : List Char) : Bool := s == [] || s == ['\n']
  match body.drop whole.length with
  | '.' :: rest =>
    let places := rest.takeWhile isAsciiDigit
    !places.isEmpty && atEnd (rest.drop places.length)
  | rest => !whole.isEmpty && atEnd rest

/-- A value that must be one of the calendar, or of the clock. -/
def valid (holds : Bool) (parts : List Nat) : Option Measure :=
  if holds then some (.moment parts) else none

namespace Scale

/-- The value that a text writes, if it is one. -/
def read? (scale : Scale) (text : String) : Except Fault (Option Measure) := do
  let s := text.toList
  match scale with
  | .date =>
    match dated? ['-', '-'] s with
    | some ⟨digits, [m, d]⟩ =>
      let year ← yearNumber digits
      return valid (isDate year m d) [year, m, d]
    | _ => return none
  | .month =>
    match dated? ['-'] s with
    | some ⟨digits, [m]⟩ =>
      let year ← yearNumber digits
      return valid (isDate year m 1) [year, m]
    | _ => return none
  | .week =>
    match year? s with
    | some (digits, '-' :: rest) =>
      match twos? ['W'] rest with
      | some [w] =>
        let year ← yearNumber digits
        if year == 0 then return none
        let weeks ← weeksOf year
        return valid (1 ≤ w && w ≤ weeks) [year, w]
      | _ => return none
    | _ => return none
  | .time =>
    -- the mark before the hour is no part of the text
    match twos? ['T', ':'] ('T' :: s) with
    | some [hour, minute] => return valid (isTime hour minute) [hour, minute]
    | _ => return none
  | .dateTime =>
    match dated? ['-', '-', 'T', ':'] s with
    | some ⟨digits, [m, d, hour, minute]⟩ =>
      let year ← yearNumber digits
      return valid (isDate year m d && isTime hour minute) [year, m, d, hour, minute]
    | _ => return none
  | .number => return if isNumeral s then (Decimal.readFloat? text).map .number else none

/-- The value of an attribute of a control, if it is one. -/
def limit? (scale : Scale) (p : Place) (name : String) : Except Fault (Option Measure) :=
  match valueOf? p name with
  | some text => scale.read? text
  | none => .ok none

/-- A value lies outside some limits. -/
def isOutside (scale : Scale) (least most : Option Measure) (value : Measure) : Bool :=
  let below := (least.map value.before).getD false
  let above := (most.map fun m => m.before value).getD false
  match least, most with
  | some l, some m => if scale == .time && m.before l then below && above else below || above
  | _, _ => below || above

end Scale

/-- A control has limits, and its value lies within them, or not. A control that has no value has
none outside; one without a type cannot be asked. -/
def hasRange (within : Bool) (p : Place) : Except Fault Bool := do
  match valueOf? p "type" with
  | none => throw .typelessControl
  | some type =>
    match Scale.ofType? (asciiLower type) with
    | none => return false
    | some scale =>
      let least ← scale.limit? p "min"
      let most ← scale.limit? p "max"
      if least.isNone && most.isNone then return false
      let value ← scale.limit? p "value"
      return ((value.map (scale.isOutside least most)).getD false) != within

end Componentry.Selector
