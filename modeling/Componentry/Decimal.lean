import Componentry.Text.Case
import Componentry.Text.Letters

/-!
# Decimal text of doubles

A finite double is a whole number times a power of two, so its decimal texts are computed in exact
whole-number arithmetic: with a fixed number of places, rounded to a whole number, or with the
fewest digits that read back as the same double. Rounding takes the nearest value and sends a half
to the even neighbour.

The double nearest to a quotient of whole numbers may be zero, a whole number or beyond all doubles
where the quotient itself is not. All three are decided in whole-number arithmetic.
-/

set_option autoImplicit false

namespace Componentry.Decimal
open Componentry.Text

/-- The nearest whole number to a quotient, a half going to the even one. -/
def roundDiv (num den : Nat) : Nat :=
  let q := num / den
  let r := num % den
  if den < 2 * r || (2 * r == den && q % 2 == 1) then q + 1 else q

/-- The rounded quotient is at most half a unit away. -/
theorem roundDiv_near (num : Nat) {den : Nat} (h : 0 < den) :
    2 * num ≤ (2 * roundDiv num den + 1) * den ∧ 2 * roundDiv num den * den ≤ 2 * num + den := by
  have hdiv := Nat.div_add_mod num den
  have hlt := Nat.mod_lt num h
  rw [Nat.mul_comm] at hdiv
  simp only [roundDiv]
  split
  · next hc =>
    simp only [Bool.or_eq_true, decide_eq_true_eq, Bool.and_eq_true, beq_iff_eq] at hc
    generalize num / den = q at *
    generalize num % den = r at *
    have e1 : (2 * (q + 1) + 1) * den = 2 * (q * den) + 3 * den := by
      rw [Nat.add_mul, Nat.mul_assoc, Nat.add_mul]; omega
    have e2 : 2 * (q + 1) * den = 2 * (q * den) + 2 * den := by
      rw [Nat.mul_assoc, Nat.add_mul]; omega
    rw [e1, e2]
    omega
  · next hc =>
    simp only [Bool.or_eq_true, decide_eq_true_eq, Bool.and_eq_true, beq_iff_eq, not_or] at hc
    generalize num / den = q at *
    generalize num % den = r at *
    have e1 : (2 * q + 1) * den = 2 * (q * den) + den := by
      rw [Nat.add_mul, Nat.mul_assoc]; omega
    have e2 : 2 * q * den = 2 * (q * den) := Nat.mul_assoc 2 q den
    rw [e1, e2]
    omega

/-- The size of a finite double as a quotient of whole numbers. -/
structure Magnitude where
  negative : Bool
  num : Nat
  den : Nat

/-- The sign and size of a double, none for an infinity or what is not a number. -/
def magnitude? (x : Float) : Option Magnitude :=
  let bits := x.toBits.toNat
  let fraction := bits % Nat.pow 2 52
  let exponent := bits / Nat.pow 2 52 % Nat.pow 2 11
  let negative := bits / Nat.pow 2 63 == 1
  if exponent == 2047 then none
  else if exponent == 0 then some ⟨negative, fraction, Nat.pow 2 1074⟩
  else if exponent < 1075 then
    some ⟨negative, fraction + Nat.pow 2 52, Nat.pow 2 (1075 - exponent)⟩
  else some ⟨negative, (fraction + Nat.pow 2 52) * Nat.pow 2 (exponent - 1075), 1⟩

/-- A number written with at least so many digits. -/
def padded (width n : Nat) : String :=
  let digits := Nat.toDigits 10 n
  String.ofList (List.replicate (width - digits.length) '0' ++ digits)

/-- The text of a double that is not finite. -/
def unboundedText (x : Float) : String :=
  if x != x then "nan" else if x < 0 then "-inf" else "inf"

/-- A double with a fixed number of decimal places. -/
def fixed (places : Nat) (x : Float) : String :=
  match magnitude? x with
  | none => unboundedText x
  | some m =>
    let scaled := roundDiv (m.num * Nat.pow 10 places) m.den
    (if m.negative then "-" else "") ++ natText (scaled / Nat.pow 10 places)
      ++ (if places == 0 then "" else "." ++ padded places (scaled % Nat.pow 10 places))

/-- A double rounded to a whole number, none unless it is finite. -/
def wholeOf? (x : Float) : Option Int :=
  (magnitude? x).map fun m =>
    let n : Int := roundDiv m.num m.den
    if m.negative then -n else n

/-- A double cut to a whole number toward zero, none unless it is finite. -/
def truncate? (x : Float) : Option Int :=
  (magnitude? x).map fun m =>
    let n : Int := m.num / m.den
    if m.negative then -n else n

/-- A power of ten times a whole number, as a double. -/
def scientific (digits : Nat) (exponent : Int) : Float :=
  match exponent with
  | .ofNat e => Float.ofScientific digits false e
  | .negSucc e => Float.ofScientific digits true (e + 1)

/-- The number of decimal digits of a number. -/
def digitCount (n : Nat) : Nat := (Nat.toDigits 10 n).length

/-- The power of ten of the leading digit of a positive quotient. -/
def leadingExponent (num den : Nat) : Int :=
  if den ≤ num then (digitCount (num / den) : Int) - 1
  else
    -- the quotient `den / num` has as many digits as the leading place lies below the point, or
    -- one more when it is an exact power of ten
    let d := digitCount (den / num)
    if num * Nat.pow 10 (d - 1) == den then -((d : Int) - 1) else -(d : Int)

/-- The whole numbers around a quotient, the nearer one first and of a half the even one. -/
def around (num den : Nat) : List Nat :=
  let near := roundDiv num den
  let below := num / den
  [near, if near == below then below + 1 else below]

/-- The decimals around a positive quotient that have so many significant digits: the digits of
each, the nearer one first, and the power of ten of their last digit. -/
def significant (num den : Nat) (leading : Int) (count : Nat) : List Nat × Int :=
  let last := leading - (count : Int) + 1
  let digits := match last with
    | .ofNat e => around num (den * Nat.pow 10 e)
    | .negSucc e => around (num * Nat.pow 10 (e + 1)) den
  (digits, last)

/-- The fewest significant digits that read back as the double; where two decimals of that length
do, those of the nearer one. -/
def shortestFrom (x : Float) (num den : Nat) (leading : Int) : Nat → Nat → Nat × Int
  | 0, count =>
    let (digits, last) := significant num den leading count
    (digits.headD 0, last)
  | fuel + 1, count =>
    let (digits, last) := significant num den leading count
    match digits.find? fun d => scientific d last == x with
    | some d => (d, last)
    | none => shortestFrom x num den leading fuel (count + 1)

/-- Drops the final zeros of a digit text. -/
def dropZeros (s : List Char) : List Char := dropEndWhile (· == '0') s

/-- The shortest text that reads back as the double: positional from `1e-4` up to below `1e16`,
always with a point or an exponent. -/
def shortest (x : Float) : String :=
  match magnitude? x with
  | none => unboundedText x
  | some m =>
    let sign := if m.negative then "-" else ""
    if m.num == 0 then sign ++ "0.0"
    else
      let (digits, last) := shortestFrom x.abs m.num m.den (leadingExponent m.num m.den) 16 1
      let text := Nat.toDigits 10 digits
      let leading : Int := last + (text.length : Int) - 1
      let text := dropZeros text
      if leading < -4 || 16 ≤ leading then
        let tail := text.drop 1
        let mantissa := text.take 1 ++ (if tail.isEmpty then [] else '.' :: tail)
        let e := leading.natAbs
        sign ++ String.ofList mantissa ++ "e" ++ (if leading < 0 then "-" else "+") ++ padded 2 e
      else if leading < 0 then
        sign ++ "0." ++ String.ofList (List.replicate (leading.natAbs - 1) '0' ++ text)
      else
        let whole := leading.toNat + 1
        let front := text.take whole ++ List.replicate (whole - text.length) '0'
        let back := text.drop whole
        sign ++ String.ofList front ++ "." ++ (if back.isEmpty then "0" else String.ofList back)

/-- A double in a text: digits with an optional point and exponent, or the name of an infinity or
of what is not a number; blanks around it, a sign and underscores between digits are allowed. -/
def readFloat? (s : String) : Option Float :=
  let body := trimChars s.toList
  let (negative, body) := match body with
    | '-' :: rest => (true, rest)
    | '+' :: rest => (false, rest)
    | rest => (false, rest)
  let signed (x : Float) : Float := if negative then -x else x
  let name := lowerChars body
  if name == "inf".toList || name == "infinity".toList then some (signed (1.0 / 0.0))
  else if name == "nan".toList then some (0.0 / 0.0)
  else do
    let body ← dropUnderscores body
    let whole := body.takeWhile isDecimal
    let rest := body.dropWhile isDecimal
    let (places, rest) := match rest with
      | '.' :: r => (r.takeWhile isDecimal, r.dropWhile isDecimal)
      | r => ([], r)
    if whole.isEmpty && places.isEmpty then none
    else do
      let digits ← readDigits 0 (whole ++ places)
      let exponent ← match rest with
        | [] => some (0 : Int)
        | e :: r =>
          if e == 'e' || e == 'E' then
            match r with
            | '-' :: ds => (natOfDigits? ds).map fun n => -(n : Int)
            | '+' :: ds => (natOfDigits? ds).map fun n => (n : Int)
            | ds => (natOfDigits? ds).map fun n => (n : Int)
          else none
      some (signed (scientific digits (exponent - (places.length : Int))))

/-! ## Quotients -/

/-- The double nearest to a quotient is zero: the quotient is at most half the least double. -/
def roundsToZero (num den : Nat) : Bool := num * Nat.pow 2 1075 ≤ den

/-- A quotient is beyond all doubles: at least half a unit above the greatest one. -/
def exceedsDoubles (num den : Nat) : Bool :=
  den * (Nat.pow 2 1024 - Nat.pow 2 970) ≤ num

/-- The double nearest to a positive quotient is a positive whole number. A double from `2 ^ 52` on
always is; below, it has so many places after the point as fill up its 53 digits, and below one only
the double one itself is whole. -/
def roundsToWhole (num den : Nat) : Bool :=
  if den * Nat.pow 2 52 ≤ num then true
  else if den ≤ num then
    let unit := Nat.pow 2 (52 - Nat.log2 (num / den))
    roundDiv (num * unit) den % unit == 0
  else roundDiv (num * Nat.pow 2 53) den == Nat.pow 2 53

end Componentry.Decimal
