import Componentry.Proofs.Lists
import Componentry.Text.Case

/-!
# ASCII characters

A property of ASCII characters is checked on the numbers below 128. Capitals are their own upper
case, as is what is no letter, and the upper case of a letter is a capital.
-/

set_option autoImplicit false

namespace Componentry.Text

/-- What holds of the numbers below 128 holds of the ASCII characters. -/
theorem of_ascii {p : Char → Prop} (h : ∀ n : Fin 128, p (Char.ofNat n)) {c : Char}
    (hc : c.toNat < 128) : p c := by
  have := h ⟨c.toNat, hc⟩
  rwa [Char.ofNat_toNat] at this

/-- A capital is a letter or a digit. -/
theorem isAsciiAlnum_of_isUpper {c : Char} (h : c.isUpper = true) : isAsciiAlnum c = true := by
  delta isAsciiAlnum Char.isAlphanum Char.isAlpha
  rw [h, Bool.true_or, Bool.true_or]

/-- A capital is a letter. -/
theorem isAsciiLetter_of_isUpper {c : Char} (h : c.isUpper = true) : isAsciiLetter c = true := by
  delta isAsciiLetter Char.isAlpha
  rw [h, Bool.true_or]

/-- A digit is a letter or a digit. -/
theorem isAsciiAlnum_of_isDigit {c : Char} (h : c.isDigit = true) : isAsciiAlnum c = true := by
  rw [isAsciiAlnum, Char.isAlphanum, h, Bool.or_true]

/-- An ASCII character that is no small letter is its own capital. -/
theorem upperChar_of_not_isLower {c : Char} (h : c.toNat < 128) (hl : c.isLower = false) :
    upperChar c = [c] := by
  have kept : c.isLower = false → c.toUpper = c :=
    of_ascii (p := fun c => c.isLower = false → c.toUpper = c) (by decide) h
  rw [upperChar, if_pos h, kept hl]

/-- A capital is no small letter. -/
theorem isLower_eq_false_of_isUpper {c : Char} (h : c.isUpper = true) : c.isLower = false :=
  of_ascii (p := fun c => c.isUpper = true → c.isLower = false) (by decide)
    (toNat_lt_of_isAsciiAlnum (isAsciiAlnum_of_isUpper h)) h

/-- A capital is its own upper case. -/
theorem upperChar_of_isUpper {c : Char} (h : c.isUpper = true) : upperChar c = [c] :=
  upperChar_of_not_isLower (toNat_lt_of_isAsciiAlnum (isAsciiAlnum_of_isUpper h))
    (isLower_eq_false_of_isUpper h)

/-- The upper case of an ASCII letter is a capital. -/
theorem upperChar_of_isAlpha {c : Char} (h : c.isAlpha = true) :
    upperChar c = [c.toUpper] ∧ c.toUpper.isUpper = true := by
  have ascii : c.toNat < 128 := by
    refine toNat_lt_of_isAsciiAlnum ?_
    rw [isAsciiAlnum, Char.isAlphanum, h, Bool.true_or]
  refine ⟨by rw [upperChar, if_pos ascii], ?_⟩
  exact of_ascii (p := fun c => c.isAlpha = true → c.toUpper.isUpper = true) (by decide) ascii h

end Componentry.Text
