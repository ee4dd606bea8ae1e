import Componentry.Naming
import Componentry.Proofs.Lists
import Componentry.Proofs.Text.Numeral
import Componentry.Proofs.Text.Pieces
import Mathlib.Algebra.Group.Nat.Defs
import Mathlib.Data.Finset.Card
import Mathlib.Data.List.Nodup
import Mathlib.Data.Nat.Log

/-!
# Fresh names

A name that is claimed is not among the names already taken. Behind a taken base the next number is
above all numbers in use there. A cut name is counted up: among the first ten times as many numbers
as there are taken names, enough have the same number of digits to be cut at the same place, and
these give different names, so one of them is free.

Counting up has no bound of its own, and needs none: `Settles` says what is claimed without one, and
holds of the claimed name and of no other. The number that a cut name ends with stays short as long
as there are not too many taken names, so that the name keeps within its length.
-/

set_option autoImplicit false

namespace Componentry.Naming
open Componentry.Text Componentry.Lists

/-! ## Numbers behind a base -/

/-- The digits of a number behind a base are found there. -/
theorem digitsBehind?_append_natText (base : List Char) (n : Nat) :
    digitsBehind? base (base ++ (natText n).toList) = some (natText n).toList := by
  have digits : ∀ c ∈ (natText n).toList, c.isDigit = true := fun _ => isDigit_of_mem_natText
  have decimal : (natText n).toList.all isDecimal = true :=
    List.all_eq_true.2 fun c hc => isDecimal_of_isDigit (digits c hc)
  have filled : (natText n).toList.isEmpty = false := by simp
  rw [digitsBehind?, restAfter?_append, Option.bind_some]
  split
  next before hb =>
    -- a numeral does not end with a line feed
    have mem : '\n' ∈ (natText n).toList := by
      rw [← List.mem_reverse, hb]
      exact List.mem_cons_self
    exact absurd (digits _ mem) (by decide)
  next => simp only [filled, decimal, Bool.not_false, Bool.and_self, if_true]

/-- A number behind a base is read back. -/
theorem numberBehind?_append_natText (base : List Char) (n : Nat) :
    numberBehind? base (base ++ (natText n).toList) = some n := by
  rw [numberBehind?, digitsBehind?_append_natText, Option.bind_some, natOfDigits?_natText]

/-- No number in use behind a base is above the highest one. -/
theorem le_highestBehind {base : List Char} {taken : List String} {t : String} {n : Nat}
    (mem : t ∈ taken) (number : numberBehind? base t.toList = some n) :
    n ≤ highestBehind base taken :=
  le_foldl_max 1 (List.mem_filterMap.2 ⟨t, mem, number⟩)

/-- A base with the next number is not taken. -/
theorem numbered_not_mem (base : String) (taken : List String) : numbered base taken ∉ taken := by
  rw [numbered]
  split
  next =>
    intro mem
    have number : numberBehind? base.toList
        (base ++ natText (highestBehind base.toList taken + 1)).toList
          = some (highestBehind base.toList taken + 1) := by
      rw [String.toList_append, numberBehind?_append_natText]
    exact Nat.not_succ_le_self _ (le_highestBehind mem number)
  next h => simpa using h

/-! ## Cut names -/

/-- A cut name is a start of the name, the marker and the mark of a cut. -/
theorem toList_cutWith (name marker : List Char) : (cutWith name marker).toList
    = name.take (longest - cutMark.length - marker.length) ++ marker ++ cutMark := by
  rw [cutWith, String.toList_ofList]

/-- Markers of one length cut a name at one place, so they can be told apart. -/
theorem cutWith_inj_of_length {name m n : List Char} (size : m.length = n.length)
    (h : cutWith name m = cutWith name n) : m = n := by
  have chars := congrArg String.toList h
  rw [toList_cutWith, toList_cutWith, size] at chars
  exact List.append_cancel_left (List.append_cancel_right chars)

/-- Counting up gives the name with one of the numbers that are tried. -/
theorem cutFrom_eq (name : List Char) (taken : List String) : ∀ fuel n : Nat,
    ∃ k, k ≤ fuel ∧ cutFrom name taken fuel n = cutWith name (natText (n + k)).toList
  | 0, n => ⟨0, Nat.le_refl 0, rfl⟩
  | fuel + 1, n => by
    rw [cutFrom]
    split
    next =>
      obtain ⟨k, hk, eq⟩ := cutFrom_eq name taken fuel (n + 1)
      exact ⟨k + 1, Nat.succ_le_succ hk, by rw [eq, Nat.add_right_comm, Nat.add_assoc]⟩
    next => exact ⟨0, Nat.zero_le _, rfl⟩

/-- Counting up from a number ends with the first cut name that is not taken. -/
inductive CountsTo (name : List Char) (taken : List String) : Nat → String → Prop where
  | free {n : Nat} (fresh : cutWith name (natText n).toList ∉ taken) :
      CountsTo name taken n (cutWith name (natText n).toList)
  | next {n : Nat} {s : String} (used : cutWith name (natText n).toList ∈ taken)
      (rest : CountsTo name taken (n + 1) s) : CountsTo name taken n s

namespace CountsTo
variable {name : List Char} {taken : List String} {n : Nat} {s t : String}

/-- The name that was counted to is not taken. -/
theorem not_mem (h : CountsTo name taken n s) : s ∉ taken := by
  induction h with
  | free fresh => exact fresh
  | next _ _ ih => exact ih

/-- Counting comes to one name only. -/
theorem unique (h : CountsTo name taken n s) (h' : CountsTo name taken n t) : s = t := by
  induction h with
  | free fresh =>
    cases h' with
    | free _ => rfl
    | next used _ => exact absurd used fresh
  | next used _ ih =>
    cases h' with
    | free fresh => exact absurd used fresh
    | next _ rest => exact ih rest

/-- All numbers before the one in the name give taken names. -/
theorem exists_number (h : CountsTo name taken n s) :
    ∃ k, s = cutWith name (natText (n + k)).toList ∧
      ∀ j, j < k → cutWith name (natText (n + j)).toList ∈ taken := by
  induction h with
  | free _ => exact ⟨0, rfl, fun j small => absurd small (Nat.not_lt_zero j)⟩
  | @next n s used _ ih =>
    obtain ⟨k, eq, before⟩ := ih
    refine ⟨k + 1, by rw [eq, Nat.add_right_comm, Nat.add_assoc], fun j small => ?_⟩
    cases j with
    | zero => exact used
    | succ j =>
      have earlier := before j (Nat.lt_of_succ_lt_succ small)
      rwa [Nat.add_right_comm, Nat.add_assoc] at earlier

end CountsTo

/-- So many steps are enough to count up to a free name if one of the numbers gives one. -/
theorem countsTo_cutFrom {name : List Char} {taken : List String} {fuel n k : Nat} (hk : k ≤ fuel)
    (free : cutWith name (natText (n + k)).toList ∉ taken) :
    CountsTo name taken n (cutFrom name taken fuel n) := by
  induction fuel generalizing n k with
  | zero =>
    rw [Nat.le_zero.1 hk] at free
    exact .free free
  | succ fuel ih =>
    simp only [cutFrom]
    split
    next here =>
      have used := List.contains_iff_mem.1 here
      cases k with
      | zero => exact absurd used free
      | succ k =>
        refine .next used (ih (Nat.le_of_succ_le_succ hk) ?_)
        rwa [Nat.add_right_comm]
    next here => exact .free fun used => here (List.contains_iff_mem.2 used)

/-- A number between two powers of ten has one digit more than the lower power. -/
theorem length_natText {n e : Nat} (low : Nat.pow 10 e ≤ n) (high : n < Nat.pow 10 (e + 1)) :
    (natText n).toList.length = e + 1 := by
  have upper : (natText n).toList.length ≤ e + 1 := (size_natText_le_iff (Nat.succ_pos e)).2 high
  rcases Nat.eq_zero_or_pos e with rfl | he
  · have := List.length_pos_iff.2 (natText_ne_nil n)
    omega
  · have lower := (size_natText_le_iff (n := n) he).not.2 (Nat.not_lt.2 low)
    omega

/-- Among ten times as many numbers as there are names, more than there are names have the same
number of digits. -/
theorem exists_block (size : Nat) : ∃ a e, 2 ≤ a ∧ a + size ≤ 2 + 10 * (size + 2) ∧
    Nat.pow 10 e ≤ a ∧ a + size < Nat.pow 10 (e + 1) := by
  simp only [Nat.pow_eq]
  have low : 10 ^ Nat.log 10 (size + 2) ≤ size + 2 := Nat.pow_log_le_self 10 (by omega)
  have high : size + 2 < 10 ^ (Nat.log 10 (size + 2) + 1) := Nat.lt_pow_succ_log_self (by omega) _
  generalize Nat.log 10 (size + 2) = e at low high
  rw [Nat.pow_succ] at high
  by_cases room : size < 9 * 10 ^ e
  · rcases Nat.eq_zero_or_pos e with rfl | he
    · exact ⟨2, 0, by omega⟩
    · have two : 10 ≤ 10 ^ e := Nat.le_self_pow he.ne' 10
      exact ⟨10 ^ e, e, by omega, by omega, Nat.le_refl _, by rw [Nat.pow_succ]; omega⟩
  · exact ⟨10 ^ (e + 1), e + 1, by rw [Nat.pow_succ]; omega, by rw [Nat.pow_succ]; omega,
      Nat.le_refl _, by rw [Nat.pow_succ, Nat.pow_succ]; omega⟩

/-- Numbers of one length that all give taken names are no more than there are taken names. -/
theorem le_card_of_block {name : List Char} {taken : List String} {a count e : Nat}
    (low : Nat.pow 10 e ≤ a) (high : a + count ≤ Nat.pow 10 (e + 1))
    (used : ∀ n, a ≤ n → n < a + count → cutWith name (natText n).toList ∈ taken) :
    count ≤ taken.toFinset.card := by
  let block := (List.range' a count).map fun n => cutWith name (natText n).toList
  have digits : ∀ n ∈ List.range' a count, (natText n).toList.length = e + 1 := by
    intro n hn
    rw [List.mem_range'_1] at hn
    exact length_natText (by omega) (by omega)
  have different : block.Nodup := by
    refine List.Nodup.map_on ?_ List.nodup_range'
    intro m hm n hn same
    have numerals := cutWith_inj_of_length ((digits m hm).trans (digits n hn).symm) same
    exact natText_injective (String.toList_inj.1 numerals)
  have within : block.toFinset ⊆ taken.toFinset := by
    intro t ht
    obtain ⟨n, hn, rfl⟩ := List.mem_map.1 (List.mem_toFinset.1 ht)
    rw [List.mem_range'_1] at hn
    exact List.mem_toFinset.2 (used n hn.1 hn.2)
  have length : block.toFinset.card = count := by
    rw [List.toFinset_card_of_nodup different, List.length_map, List.length_range']
  exact length ▸ Finset.card_le_card within

/-- The numbers that are tried hold one that gives a free name. -/
theorem exists_free (name : List Char) (taken : List String) : ∃ k, k ≤ 10 * (taken.length + 2) ∧
    cutWith name (natText (2 + k)).toList ∉ taken := by
  by_contra none
  obtain ⟨a, e, two, room, low, high⟩ := exists_block taken.length
  have used : ∀ n, a ≤ n → n < a + (taken.length + 1) →
      cutWith name (natText n).toList ∈ taken := by
    intro n above below
    by_contra free
    exact none ⟨n - 2, by omega, by rwa [Nat.add_sub_cancel' (by omega)]⟩
  have count := le_card_of_block low (by omega) used
  have all := List.toFinset_card_le taken
  omega

/-! ## Claimed names -/

/-- What is claimed for a base, however far numbers are counted up: the base or the base with the
next number if that is short enough, else this name cut off, else the first cut name that is free.
-/
inductive Settles (base : String) (taken : List String) : String → Prop where
  | short (fits : size (numbered base taken) ≤ longest) : Settles base taken (numbered base taken)
  | cut (long : longest < size (numbered base taken))
      (fresh : cutWith (numbered base taken).toList [] ∉ taken) :
      Settles base taken (cutWith (numbered base taken).toList [])
  | counted {s : String} (long : longest < size (numbered base taken))
      (used : cutWith (numbered base taken).toList [] ∈ taken)
      (counting : CountsTo (numbered base taken).toList taken 2 s) : Settles base taken s

/-- A claim settles the base. -/
theorem settles_claim (base : String) (taken : List String) :
    Settles base taken (claim base taken) := by
  simp only [claim, cutShort]
  split
  next long =>
    split
    next used =>
      obtain ⟨k, hk, free⟩ := exists_free (numbered base taken).toList taken
      exact .counted long (List.contains_iff_mem.1 used) (countsTo_cutFrom hk free)
    next fresh => exact .cut long fun used => fresh (List.contains_iff_mem.2 used)
  next fits => exact .short (Nat.not_lt.1 fits)

namespace Settles
variable {base s t : String} {taken : List String}

/-- A name that settles a base is not taken. -/
theorem not_mem (h : Settles base taken s) : s ∉ taken := by
  cases h with
  | short _ => exact numbered_not_mem base taken
  | cut _ fresh => exact fresh
  | counted _ _ counting => exact counting.not_mem

/-- A base settles to one name only. -/
theorem unique (h : Settles base taken s) (h' : Settles base taken t) : s = t := by
  cases h with
  | short fits =>
    cases h' with
    | short _ => rfl
    | cut long _ => exact absurd fits (Nat.not_le.2 long)
    | counted long _ _ => exact absurd fits (Nat.not_le.2 long)
  | cut long fresh =>
    cases h' with
    | short fits => exact absurd fits (Nat.not_le.2 long)
    | cut _ _ => rfl
    | counted _ used _ => exact absurd used fresh
  | counted long used counting =>
    cases h' with
    | short fits => exact absurd fits (Nat.not_le.2 long)
    | cut _ fresh => exact absurd used fresh
    | counted _ _ counting' => exact counting.unique counting'

end Settles

/-- The claim is the name that settles the base, and the only one. -/
theorem settles_iff {base s : String} {taken : List String} :
    Settles base taken s ↔ s = claim base taken := by
  constructor
  · intro h
    exact h.unique (settles_claim base taken)
  · rintro rfl
    exact settles_claim base taken

/-- A claimed name is not taken. -/
theorem claim_not_mem (base : String) (taken : List String) : claim base taken ∉ taken :=
  (settles_claim base taken).not_mem

/-! ## Names taken twice -/

section
variable {base : String} {taken taken' : List String}

/-- With more names taken the highest number in use is no lower. -/
theorem highestBehind_le (sub : taken ⊆ taken') (base : List Char) :
    highestBehind base taken ≤ highestBehind base taken' := by
  have found : ∀ n ∈ taken.filterMap (fun t => numberBehind? base t.toList),
      n ≤ highestBehind base taken' := by
    intro n hn
    obtain ⟨t, ht, number⟩ := List.mem_filterMap.1 hn
    exact le_highestBehind (sub ht) number
  rcases foldl_max_mem (taken.filterMap fun t => numberBehind? base t.toList) 1 with one | mem
  · rw [highestBehind, one]
    exact start_le_foldl_max _ 1
  · exact found _ mem

/-- Only which names are taken matters for counting, not their order. -/
theorem CountsTo.congr {name : List Char} {n : Nat} {s : String} (h : CountsTo name taken n s)
    (same : ∀ t, t ∈ taken ↔ t ∈ taken') : CountsTo name taken' n s := by
  induction h with
  | free fresh => exact .free ((not_congr (same _)).1 fresh)
  | next used _ ih => exact .next ((same _).1 used) ih

/-- What is claimed depends only on which names are taken. -/
theorem claim_congr (same : ∀ t, t ∈ taken ↔ t ∈ taken') :
    claim base taken = claim base taken' := by
  have highest : highestBehind base.toList taken = highestBehind base.toList taken' :=
    Nat.le_antisymm (highestBehind_le (fun t => (same t).1) _)
      (highestBehind_le (fun t => (same t).2) _)
  have number : numbered base taken = numbered base taken' := by
    have contains : taken.contains base = taken'.contains base := by
      rw [Bool.eq_iff_iff, List.contains_iff_mem, List.contains_iff_mem, same]
    rw [numbered, numbered, contains, highest]
  have settled := settles_claim base taken
  generalize claim base taken = s at settled ⊢
  refine settles_iff.1 ?_
  cases settled with
  | short fits =>
    rw [number] at fits ⊢
    exact .short fits
  | cut long fresh =>
    rw [number] at long fresh ⊢
    exact .cut long ((not_congr (same _)).1 fresh)
  | counted long used counting =>
    rw [number] at long used counting
    exact .counted long ((same _).1 used) (counting.congr same)

end

/-! ## Lengths -/

/-- The number of names from which on a claimed name might become too long. -/
def mostTaken : Nat := 10 ^ 40

/-- A cut name is within the limit if its marker leaves room. -/
theorem size_cutWith_le {name marker : List Char}
    (room : marker.length ≤ longest - cutMark.length) :
    size (cutWith name marker) ≤ longest := by
  have mark : cutMark.length = 3 := rfl
  simp only [size, toList_cutWith, List.length_append, List.length_take]
  simp only [longest] at room ⊢
  omega

/-- With few taken names counting up does not get far. -/
theorem CountsTo.size_le {name : List Char} {taken : List String} {s : String}
    (h : CountsTo name taken 2 s) (few : taken.toFinset.card < mostTaken) : size s ≤ longest := by
  obtain ⟨k, rfl, before⟩ := h.exists_number
  have near : 2 + k < 2 * 10 ^ 40 := by
    by_contra far
    have used : ∀ n, 10 ^ 40 ≤ n → n < 10 ^ 40 + mostTaken →
        cutWith name (natText n).toList ∈ taken := by
      intro n above below
      have here := before (n - 2) (by simp only [mostTaken] at below; omega)
      rwa [Nat.add_sub_cancel' (by omega)] at here
    have count := le_card_of_block (e := 40) (Nat.le_refl _) (by decide) used
    omega
  refine size_cutWith_le ((size_natText_le_iff (by decide)).2 (Nat.lt_of_lt_of_le near ?_))
  decide

/-- A claimed name is short as long as there are not too many taken names. -/
theorem size_claim_le {base : String} {taken : List String}
    (few : taken.toFinset.card < mostTaken) : size (claim base taken) ≤ longest := by
  have settled := settles_claim base taken
  generalize claim base taken = s at settled ⊢
  cases settled with
  | short fits => exact fits
  | cut _ _ => exact size_cutWith_le (Nat.zero_le _)
  | counted _ _ counting => exact counting.size_le few

end Componentry.Naming

namespace Componentry.Namer

@[simp] theorem given_claim (n : Namer) (base : String) (others : List String) :
    (n.claim base others).2.given = n.given ++ [(n.claim base others).1] := rfl

/-- A claimed name was not given before. -/
theorem claim_not_mem_given (n : Namer) (base : String) (others : List String) :
    (n.claim base others).1 ∉ n.given := fun mem =>
  Naming.claim_not_mem base (others ++ n.given) (List.mem_append_right others mem)

/-- Names that were given before are not taken twice. -/
theorem claim_of_subset {n : Namer} {others : List String} (sub : others ⊆ n.given)
    (base : String) : n.claim base others = n.claim base [] := by
  have same : Naming.claim base (others ++ n.given) = Naming.claim base ([] ++ n.given) := by
    refine Naming.claim_congr fun t => ?_
    rw [List.nil_append, List.mem_append, or_iff_right_of_imp fun mem => sub mem]
  rw [claim, claim, same]

/-- The names given stay distinct when one more is claimed. -/
theorem nodup_given_claim {n : Namer} (h : n.given.Nodup) (base : String) (others : List String) :
    (n.claim base others).2.given.Nodup := by
  rw [given_claim]
  refine List.nodup_append.2 ⟨h, List.nodup_singleton _, fun a ha b hb => ?_⟩
  rw [List.mem_singleton.1 hb]
  rintro rfl
  exact n.claim_not_mem_given base others ha

end Componentry.Namer
