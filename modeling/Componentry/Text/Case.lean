import Componentry.Text.CaseTable
import Componentry.Text.Letters

/-!
# Upper and lower case

The full case mappings: a character may become several (`ß` becomes `SS`), and a capital sigma
becomes the final small sigma where a cased character stands before it and none after it.

Two characters are the same but for case if their small letters are the same, or are two forms of
one small letter, which have the same capital: the long `ſ` is an `s`, the final sigma a sigma.
-/

set_option autoImplicit false

namespace Componentry.Text

/-- Moves a character along the first run it lies on. -/
def shiftOnRun (runs : List (Nat × Nat × Nat × Int)) (c : Char) : Option Char :=
  (runs.find? fun (first, last, stride, _) =>
    first ≤ c.toNat && c.toNat ≤ last && (c.toNat - first) % stride == 0).map
    fun (_, _, _, shift) => Char.ofNat (c.toNat + shift).toNat

/-- The upper case of a character. -/
def upperChar (c : Char) : List Char :=
  if c.toNat < 128 then [c.toUpper]
  else match shiftOnRun upperRuns c with
    | some d => [d]
    | none =>
      match upperExpansions.find? fun (n, _) => n == c.toNat with
      | some (_, ds) => ds.map Char.ofNat
      | none => [c]

/-- The lower case of a character on its own. -/
def lowerChar (c : Char) : List Char :=
  if c.toNat < 128 then [c.toLower]
  else if c.toNat == 0x130 then ['i', Char.ofNat 0x307]
  else [(shiftOnRun lowerRuns c).getD c]

/-- A cased character. -/
def isCased (c : Char) : Bool :=
  if c.toNat < 128 then c.isAlpha else onRun casedRuns c

/-- A character with the property upper case. -/
def isUpper (c : Char) : Bool :=
  if c.toNat < 128 then c.isUpper else onRun upperCaseRuns c

/-- A character with the property lower case. -/
def isLower (c : Char) : Bool :=
  if c.toNat < 128 then c.isLower else onRun lowerCaseRuns c

/-- A cased character comes first once ignorable ones are passed over. -/
def casedNext : List Char → Bool
  | [] => false
  | c :: rest => if onRun caseIgnorableRuns c then casedNext rest else isCased c

/-- Lower cases a text; the characters already passed are given with the nearest first. -/
def lowerFrom : List Char → List Char → List Char
  | _, [] => []
  | before, c :: rest =>
    (if c.toNat == 0x3A3 then
      if casedNext before && !casedNext rest then [Char.ofNat 0x3C2] else [Char.ofNat 0x3C3]
     else lowerChar c) ++ lowerFrom (c :: before) rest

/-- The upper case of the characters of a text. -/
def upperChars (s : List Char) : List Char := s.flatMap upperChar

/-- The lower case of the characters of a text. -/
def lowerChars (s : List Char) : List Char := lowerFrom [] s

/-- A text in upper case. -/
def upper (s : String) : String := String.ofList (upperChars s.toList)

/-- A text in lower case. -/
def lower (s : String) : String := String.ofList (lowerChars s.toList)

/-- A text with only its ASCII capitals put in lower case. -/
def asciiLower (s : String) : String := String.ofList (s.toList.map Char.toLower)

/-- The first character in upper case and the rest in lower case. -/
def capitalize (s : List Char) : List Char :=
  match s with
  | [] => []
  | c :: rest => upperChar c ++ lowerChars rest

/-- The first character in upper case and the rest as it is. -/
def upperFirst (s : List Char) : List Char :=
  match s with
  | [] => []
  | c :: rest => upperChar c ++ rest

/-- An ASCII text is lowered character by character, whatever stood before it. -/
theorem lowerFrom_of_ascii :
    ∀ (before s : List Char), (∀ c ∈ s, c.toNat < 128) → lowerFrom before s = s.map Char.toLower
  | _, [], _ => rfl
  | before, c :: rest, h => by
    have hc : c.toNat < 128 := h c List.mem_cons_self
    have ne : (c.toNat == 0x3A3) = false := by
      rw [beq_eq_false_iff_ne]
      omega
    rw [lowerFrom, ne]
    simp only [Bool.false_eq_true, ↓reduceIte, lowerChar, hc, List.map_cons, List.singleton_append,
      List.cons.injEq, true_and]
    exact lowerFrom_of_ascii (c :: before) rest fun d hd => h d (List.mem_cons_of_mem _ hd)

/-- On ASCII texts lower case goes character by character. -/
theorem lowerChars_of_ascii {s : List Char} (h : ∀ c ∈ s, c.toNat < 128) :
    lowerChars s = s.map Char.toLower :=
  lowerFrom_of_ascii [] s h

/-! ## Without regard to case -/

/-- The forms of small letters that have one capital, the one that stands for all first. -/
def smallForms : List (List Nat) := [
  [0x69, 0x131], [0x73, 0x17F], [0xB5, 0x3BC], [0x345, 0x3B9, 0x1FBE], [0x390, 0x1FD3],
  [0x3B0, 0x1FE3], [0x3B2, 0x3D0], [0x3B5, 0x3F5], [0x3B8, 0x3D1], [0x3BA, 0x3F0],
  [0x3C0, 0x3D6], [0x3C1, 0x3F1], [0x3C2, 0x3C3], [0x3C6, 0x3D5], [0x432, 0x1C80],
  [0x434, 0x1C81], [0x43E, 0x1C82], [0x441, 0x1C83], [0x442, 0x1C84, 0x1C85], [0x44A, 0x1C86],
  [0x463, 0x1C87], [0x1C88, 0xA64B], [0x1E61, 0x1E9B], [0xFB05, 0xFB06]]

/-- The character that stands for all that differ from this one in case alone. -/
def foldChar (c : Char) : Char :=
  let small := (lowerChar c).headD c
  match smallForms.find? fun forms => forms.contains small.toNat with
  | some (first :: _) => Char.ofNat first
  | _ => small

/-- A text whose characters stand for all that differ from them in case alone. -/
def foldCase (s : List Char) : List Char := s.map foldChar

end Componentry.Text
