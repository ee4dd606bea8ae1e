import Componentry.Proofs.Text.Ascii
import Componentry.Proofs.Text.Trim
import Componentry.Text.Letters
import Mathlib.Data.Nat.Basic

/-!
# Numerals

A number is read back from its decimal text, so different numbers have different texts. A text of
ASCII digits is a text of decimal digits, and the length of a numeral counts its powers of ten, so
one that is not too long is read as an integer.
-/

set_option autoImplicit false

namespace Componentry.Text

@[simp] theorem toList_natText (n : Nat) : (natText n).toList = Nat.toDigits 10 n := by
  rw [natText, String.toList_ofList]

/-- A number is written with digits. -/
theorem isDigit_of_mem_natText {n : Nat} {c : Char} (h : c ∈ (natText n).toList) :
    c.isDigit = true := by
  rw [toList_natText] at h
  exact Nat.isDigit_of_mem_toDigits (by decide) (Nat.le_refl 10) h

/-- Numbers are told apart by how they are written. -/
theorem natText_injective : Function.Injective natText := by
  intro m n h
  have digits : Nat.toDigits 10 m = Nat.toDigits 10 n := by
    rw [← toList_natText, ← toList_natText, h]
  have value := congrArg (fun l => Nat.ofDigitChars 10 l 0) digits
  simpa only [Nat.ofDigitChars_ten_toDigits] using value

/-- What is written for two numbers is the same only for one number. -/
theorem natText_inj {m n : Nat} : natText m = natText n ↔ m = n := natText_injective.eq_iff

/-- Every number is written with at least one digit. -/
theorem natText_ne_nil (n : Nat) : (natText n).toList ≠ [] := by
  rw [toList_natText]
  exact Nat.toDigits_ne_nil

/-- A numeral has at most so many digits exactly when the number is below that power of ten. -/
theorem size_natText_le_iff {n k : Nat} (hk : 0 < k) :
    (natText n).toList.length ≤ k ↔ n < Nat.pow 10 k := by
  rw [toList_natText]
  exact Nat.length_toDigits_le_iff (by decide) hk

/-- A digit is an ASCII character. -/
theorem toNat_lt_of_isDigit {c : Char} (h : c.isDigit = true) : c.toNat < 128 := by
  refine toNat_lt_of_isAsciiAlnum ?_
  rw [isAsciiAlnum, Char.isAlphanum, h, Bool.or_true]

/-- The value of a digit counts from nought. -/
theorem digitValue?_of_isDigit {c : Char} (h : c.isDigit = true) :
    digitValue? c = some (c.toNat - '0'.toNat) := by
  rw [digitValue?, if_pos (toNat_lt_of_isDigit h), if_pos h]
  rfl

/-- An ASCII digit is a digit. -/
theorem isDecimal_of_isDigit {c : Char} (h : c.isDigit = true) : isDecimal c = true := by
  rw [isDecimal, digitValue?_of_isDigit h, Option.isSome_some]

/-- Digits are read like the core library reads them. -/
theorem readDigits_of_isDigit :
    ∀ (n : Nat) (s : List Char), (∀ c ∈ s, c.isDigit = true) →
      readDigits n s = some (Nat.ofDigitChars 10 s n)
  | n, [], _ => by rw [readDigits, Nat.ofDigitChars_nil]
  | n, c :: rest, h => by
    rw [readDigits, digitValue?_of_isDigit (h c List.mem_cons_self), Option.bind_some,
      readDigits_of_isDigit _ rest fun d hd => h d (List.mem_cons_of_mem _ hd),
      Nat.ofDigitChars_cons]

/-- Reading a numeral gives the number it writes. -/
theorem natOfDigits?_natText (n : Nat) : natOfDigits? (natText n).toList = some n := by
  have digits : ∀ c ∈ (natText n).toList, c.isDigit = true := fun _ => isDigit_of_mem_natText
  rw [natOfDigits?, if_neg (by simp), readDigits_of_isDigit 0 _ digits,
    toList_natText, Nat.ofDigitChars_ten_toDigits]

/-- A numeral without underscores stays as it is. -/
theorem dropUnderscores_of_not_mem {s : List Char} (h : '_' ∉ s) : dropUnderscores s = some s := by
  induction s with
  | nil => rfl
  | cons c rest ih =>
    rw [List.mem_cons, not_or] at h
    unfold dropUnderscores
    split
    next => cases ‹_›
    next same => exact absurd (List.head_eq_of_cons_eq same).symm h.1
    next same =>
      cases same
      exact absurd (List.mem_cons_self) h.2
    next same =>
      cases same
      rw [ih h.2]
      rfl

/-- A numeral that is not too long is read as the number it writes. -/
theorem readInt?_natText {n : Nat} (short : n < Nat.pow 10 mostDigits) :
    readInt? (natText n) = some n := by
  have digit {c : Char} (hc : c ∈ (natText n).toList) :
      isBlank c = false ∧ c ≠ '-' ∧ c ≠ '+' ∧ c ≠ '_' :=
    of_ascii (p := fun c => c.isDigit = true → isBlank c = false ∧ c ≠ '-' ∧ c ≠ '+' ∧ c ≠ '_')
      (by decide) (toNat_lt_of_isDigit (isDigit_of_mem_natText hc)) (isDigit_of_mem_natText hc)
  have trimmed : trimChars (natText n).toList = (natText n).toList :=
    trimChars_of_isTrimmed (isTrimmed_of_no_blank fun c hc => (digit hc).1)
  have length : ¬ mostDigits < (natText n).toList.length :=
    Nat.not_lt.2 ((size_natText_le_iff (by decide)).2 short)
  have plain := dropUnderscores_of_not_mem fun mem => (digit mem).2.2.2 rfl
  unfold readInt?
  rw [trimmed]
  dsimp only
  split
  next rest eq => exact absurd rfl (digit (eq ▸ List.mem_cons_self)).2.1
  next rest eq => exact absurd rfl (digit (eq ▸ List.mem_cons_self)).2.2.1
  next =>
    rw [plain, Option.bind_some, wholeOfDigits?, if_neg length, natOfDigits?_natText]
    rfl

end Componentry.Text
