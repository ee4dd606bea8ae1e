import Componentry.Attributes.Printer
import Componentry.Markup.Token
import Componentry.Markup.Tree.Printer
import Mathlib.Tactic.SplitIfs

/-!
# Reading references that were written

The characters that delimit markup are written as references. Wherever such a reference stands, in a
value or in a text, reading it gives the character back and goes on behind the reference. A value
that was not written so is read, too, unless it numbers a character with too many decimal digits.
-/

set_option autoImplicit false

namespace Componentry.Markup
open Componentry.Text Componentry.Attributes

/-- A character of a value that was escaped is read back. -/
theorem decodeFrom_escapeValueChar (c : Char) (rest : List Char) :
    decodeFrom 0 (escapeValueChar c ++ rest) = (decodeFrom 0 rest).map (c :: ·) := by
  simp only [escapeValueChar, beq_iff_eq]
  split_ifs with ampersand less greater double single
  · subst ampersand
    rfl
  · subst less
    rfl
  · subst greater
    rfl
  · subst double
    rfl
  · subst single
    rfl
  · rw [List.singleton_append, decodeFrom, if_neg (by simpa using ampersand)]

/-- A value that was escaped is read back. -/
theorem decodeValue_escapeValue (s : String) :
    decodeValue (escapeValue s).toList = .ok s.toList := by
  rw [escapeValue, String.toList_ofList, decodeValue]
  induction s.toList with
  | nil => rfl
  | cons c rest ih =>
    rw [List.flatMap_cons, decodeFrom_escapeValueChar, ih]
    rfl

/-- A quotation mark does not end a value that was escaped. -/
theorem quote_not_mem_escapeValue (s : String) : '"' ∉ (escapeValue s).toList := by
  rw [escapeValue, String.toList_ofList, List.mem_flatMap]
  rintro ⟨c, -, h⟩
  simp only [escapeValueChar, beq_iff_eq] at h
  split_ifs at h with ampersand less greater double single
  all_goals first
    | exact absurd h (by decide)
    | exact double (List.mem_singleton.1 h).symm

/-! ## Values as they stand -/

/-- A decimal reference with too many digits starts somewhere in a value. -/
def HoldsLongNumber (s : List Char) : Prop :=
  ∃ before rest, s = before ++ '&' :: '#' :: rest ∧
    mostDigits < (rest.takeWhile Char.isDigit).length

/-- A long number stays one behind another character. -/
theorem HoldsLongNumber.cons {s : List Char} (h : HoldsLongNumber s) (c : Char) :
    HoldsLongNumber (c :: s) := by
  obtain ⟨before, rest, rfl, long⟩ := h
  exact ⟨c :: before, rest, rfl, long⟩

/-- Without an ampersand there is no reference, so no long number. -/
theorem not_holdsLongNumber_of_plain {s : List Char} (plain : '&' ∉ s) : ¬ HoldsLongNumber s := by
  rintro ⟨before, rest, rfl, -⟩
  exact plain (List.mem_append_right before List.mem_cons_self)

/-- What no number goes on with can stand behind a value. -/
theorem HoldsLongNumber.of_append {s t : List Char} {c : Char} (other : c.isDigit = false)
    (ampersand : '&' ∉ c :: t) (hash : '#' ∉ c :: t) (h : HoldsLongNumber (s ++ c :: t)) :
    HoldsLongNumber s := by
  obtain ⟨before, rest, eq, long⟩ := h
  rcases List.append_eq_append_iff.1 eq with ⟨more, -, behind⟩ | ⟨more, rfl, behind⟩
  · exact absurd (behind ▸ List.mem_append_right more List.mem_cons_self) ampersand
  · rcases more with - | ⟨d, - | ⟨e, digits⟩⟩
    · rw [List.nil_append] at behind
      exact absurd (behind ▸ List.mem_cons_self) ampersand
    · rw [List.singleton_append] at behind
      exact absurd ((List.cons.inj behind).2 ▸ List.mem_cons_self) hash
    · simp only [List.cons_append, List.cons.injEq] at behind
      obtain ⟨rfl, rfl, rfl⟩ := behind
      refine ⟨before, digits, rfl, ?_⟩
      rw [List.takeWhile_append, List.takeWhile_cons_of_neg (by simp [other])] at long
      split at long
      · next all =>
        rw [List.append_nil] at long
        omega
      · exact long

/-- Only a decimal number can be too long. -/
theorem exists_of_valueReference? {s : List Char} {f : Fault} (h : valueReference? s = .error f) :
    ∃ rest, s = '#' :: rest ∧ mostDigits < (rest.takeWhile Char.isDigit).length := by
  unfold valueReference? at h
  split at h
  · next rest =>
    refine ⟨rest, rfl, ?_⟩
    dsimp only at h
    split at h
    · rw [decimalNumber] at h
      split at h
      · next long => exact long
      · cases h
    · split at h
      · split at h <;> cases h
      · cases h
  · dsimp only at h
    split at h <;> cases h

/-- A text without a long number is decoded. -/
theorem exists_decodeFrom_ok : ∀ {s : List Char} (skip : Nat), ¬ HoldsLongNumber s →
    ∃ decoded, decodeFrom skip s = .ok decoded
  | [], skip, _ => ⟨[], by rw [decodeFrom]⟩
  | _ :: rest, skip + 1, short => by
    rw [decodeFrom]
    exact exists_decodeFrom_ok skip fun long => short (long.cons _)
  | c :: rest, 0, short => by
    have goesOn (skip : Nat) : ∃ decoded, decodeFrom skip rest = .ok decoded :=
      exists_decodeFrom_ok skip fun long => short (long.cons c)
    rw [decodeFrom]
    split
    · next ampersand =>
      cases referred : valueReference? rest with
      | error f =>
        obtain ⟨digits, rfl, long⟩ := exists_of_valueReference? referred
        rw [beq_iff_eq.1 ampersand] at short
        exact absurd ⟨[], digits, rfl, long⟩ short
      | ok reference? =>
        cases reference? with
        | none =>
          obtain ⟨decoded, read⟩ := goesOn 0
          exact ⟨c :: decoded, by rw [read]; rfl⟩
        | some reference =>
          obtain ⟨decoded, read⟩ := goesOn reference.2
          exact ⟨reference.1 ++ decoded, by dsimp only; rw [read]; rfl⟩
    · obtain ⟨decoded, read⟩ := goesOn 0
      exact ⟨c :: decoded, by rw [read]; rfl⟩

/-- A value without a number of too many digits is decoded. -/
theorem exists_decodeValue_ok {s : List Char} (short : ¬ HoldsLongNumber s) :
    ∃ decoded, decodeValue s = .ok decoded :=
  exists_decodeFrom_ok 0 short

/-- A value that starts with a number of too many digits is refused. -/
theorem decodeValue_of_long {digits rest : List Char} {c : Char}
    (all : ∀ d ∈ digits, d.isDigit = true) (other : c.isDigit = false)
    (long : mostDigits < digits.length) :
    decodeValue ('&' :: '#' :: (digits ++ c :: rest)) = .error (.number (.long digits.length)) := by
  have run : (digits ++ c :: rest).takeWhile Char.isDigit = digits := by
    rw [List.takeWhile_append_of_pos all, List.takeWhile_cons_of_neg (by simp [other]),
      List.append_nil]
  have some_ : digits.isEmpty = false := by
    cases digits with
    | nil => exact absurd long (Nat.not_lt_zero _)
    | cons d digits => rfl
  have referred : valueReference? ('#' :: (digits ++ c :: rest)) =
      .error (.number (.long digits.length)) := by
    unfold valueReference?
    split
    · next same =>
      obtain ⟨-, rfl⟩ := List.cons.inj same
      rw [run]
      dsimp only
      rw [some_, Bool.not_false, if_pos rfl, decimalNumber, if_pos long]
      rfl
    · next no => exact absurd rfl (no _)
  rw [decodeValue, decodeFrom, if_pos (beq_self_eq_true _), referred]

/-! ## Texts -/

/-- The characters of a text that are written as references. -/
def escaped : List Char := ['&', '<', '>']

/-- A character that needs no reference is written as it is. -/
theorem escapeChar_of_not_mem {c : Char} (h : c ∉ escaped) : escapeChar c = [c] := by
  simp only [escaped, List.mem_cons, List.not_mem_nil, or_false, not_or] at h
  obtain ⟨ampersand, less, greater⟩ := h
  simp [escapeChar, ampersand, less, greater]

/-- Every character is written with at least one. -/
theorem length_escapeChar_pos (c : Char) : 0 < (escapeChar c).length := by
  rw [escapeChar]
  split_ifs <;> exact Nat.succ_pos _

/-- A character of a text that was escaped is read back. -/
theorem read_escapeChar {c : Char} (h : c ∈ escaped) (final : Bool) (rest : List Char) :
    read final none (escapeChar c ++ rest) = .next [.data [c]] none rest := by
  simp only [escaped, List.mem_cons, List.not_mem_nil, or_false] at h
  rcases h with rfl | rfl | rfl <;> rfl

end Componentry.Markup
