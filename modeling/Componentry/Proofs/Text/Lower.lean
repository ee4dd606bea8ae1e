import Componentry.Proofs.Text.Ascii
import Componentry.Proofs.Text.Trim

/-!
# Lower case once and twice

What lower case gives has no capital left in it: lower case leaves it as it is. That no run of the
table leads onto a run of the table is checked on the bounds of the runs. A character that lower
case puts in is neither a blank nor a mark of punctuation, so a text without one gets none.
-/

set_option autoImplicit false

namespace Componentry.Text

/-- Lower case leaves a character as it is, wherever it stands. -/
structure IsSettled (c : Char) : Prop where
  sigma : c.toNat ≠ 0x3A3
  lower : lowerChar c = [c]

/-- A settled character that stands in the text already, or is neither blank nor punctuation. -/
def IsLowered (c d : Char) : Prop := IsSettled d ∧ (d = c ∨ (isBlank d = false ∧ 97 ≤ d.toNat))

/-- A run leads onto no character of another one; where they overlap, the steps of two pass each
other. -/
def misses (run other : Nat × Nat × Nat × Int) : Bool :=
  let (first, last, stride, shift) := run
  let (first', last', stride', _) := other
  Nat.blt (last + shift).toNat first' || Nat.blt last' (first + shift).toNat
    || ((stride == 2 || first == last) && stride' == 2
      && ((first + shift).toNat + first') % 2 == 1)

/-- The bounds of what lower case leads past: the two capitals with a lower case of their own, the
blanks beyond them, and the numbers that are no characters. -/
def specialNumbers : List (Nat × Nat) :=
  [(0x130, 0x130), (0x3A3, 0x3A3), (0x1680, 0x1680), (0x2000, 0x205F), (0x3000, 0x3000),
    (0xD800, 0xDFFF)]

/-- A run leads to small letters of ASCII, or past the special numbers. -/
def isClear (run : Nat × Nat × Nat × Int) : Bool :=
  let (first, last, _, shift) := run
  let low := (first + shift).toNat
  let high := (last + shift).toNat
  (Nat.ble 97 low && Nat.ble high 122)
    || (Nat.ble 192 low && Nat.blt high 0x110000
      && specialNumbers.all fun (a, b) => Nat.blt b low || Nat.blt high a)

/-- No run of the table leads onto a character of another one. -/
theorem misses_of_mem_lowerRuns {run other : Nat × Nat × Nat × Int} (hr : run ∈ lowerRuns)
    (ho : other ∈ lowerRuns) : misses run other = true := by
  have checked : (lowerRuns.all fun run => lowerRuns.all fun other => misses run other) = true := by
    decide +kernel
  exact List.all_eq_true.1 (List.all_eq_true.1 checked run hr) other ho

/-- Each run of the table leads to small letters, or past the special numbers. -/
theorem isClear_of_mem_lowerRuns {run : Nat × Nat × Nat × Int} (hr : run ∈ lowerRuns) :
    isClear run = true := by
  have checked : lowerRuns.all isClear = true := by decide +kernel
  exact List.all_eq_true.1 checked run hr

/-- A character that lies on a run is moved by it. -/
theorem exists_of_shiftOnRun {runs : List (Nat × Nat × Nat × Int)} {c d : Char}
    (h : shiftOnRun runs c = some d) : ∃ first last stride shift,
      (first, last, stride, shift) ∈ runs ∧ first ≤ c.toNat ∧ c.toNat ≤ last ∧
      (c.toNat - first) % stride = 0 ∧ d = Char.ofNat (c.toNat + shift).toNat := by
  rw [shiftOnRun, Option.map_eq_some_iff] at h
  obtain ⟨⟨first, last, stride, shift⟩, found, moved⟩ := h
  have on := List.find?_some found
  simp only [Bool.and_eq_true, decide_eq_true_eq, beq_iff_eq] at on
  exact ⟨first, last, stride, shift, List.mem_of_find?_eq_some found, on.1.1, on.1.2, on.2,
    moved.symm⟩

/-- A valid number is the number of its character. -/
theorem toNat_ofNat_of_isValidChar {n : Nat} (h : n.isValidChar) : (Char.ofNat n).toNat = n := by
  rw [Char.ofNat, dif_pos h]
  rfl

/-- Where a run of the table leads to: a character that is no special number. -/
theorem toNat_of_mem_lowerRuns {first last stride : Nat} {shift : Int} {n : Nat}
    (hr : (first, last, stride, shift) ∈ lowerRuns) (low : first ≤ n) (high : n ≤ last) :
    (Char.ofNat (n + shift).toNat).toNat = (n + shift).toNat ∧
    ((97 ≤ (n + shift).toNat ∧ (n + shift).toNat ≤ 122) ∨
      (192 ≤ (n + shift).toNat ∧ ∀ r ∈ specialNumbers,
        r.2 < (n + shift).toNat ∨ (n + shift).toNat < r.1)) := by
  have clear := isClear_of_mem_lowerRuns hr
  simp only [isClear, Bool.or_eq_true, Bool.and_eq_true, Nat.ble_eq, Nat.blt_eq,
    List.all_eq_true] at clear
  rcases clear with ⟨above, below⟩ | ⟨⟨above, valid⟩, special⟩
  · refine ⟨?_, .inl ⟨by omega, by omega⟩⟩
    exact toNat_ofNat_of_isValidChar (.inl (by omega))
  · have past : ∀ r ∈ specialNumbers, r.2 < (n + shift).toNat ∨ (n + shift).toNat < r.1 := by
      intro r hr
      have := special r hr
      omega
    refine ⟨toNat_ofNat_of_isValidChar ?_, .inr ⟨by omega, past⟩⟩
    rcases past (0xD800, 0xDFFF) (by simp [specialNumbers]) with above' | below'
    · exact .inr ⟨by omega, by omega⟩
    · exact .inl (by omega)

/-- No run starts from where another one leads to. -/
theorem shiftOnRun_of_mem_lowerRuns {first last stride : Nat} {shift : Int} {n : Nat} {d : Char}
    (hr : (first, last, stride, shift) ∈ lowerRuns) (low : first ≤ n) (high : n ≤ last)
    (step : (n - first) % stride = 0) (hd : d.toNat = (n + shift).toNat) :
    shiftOnRun lowerRuns d = none := by
  cases found : shiftOnRun lowerRuns d with
  | none => rfl
  | some e =>
    obtain ⟨first', last', stride', shift', ho, low', high', step', -⟩ := exists_of_shiftOnRun found
    have apart := misses_of_mem_lowerRuns hr ho
    have start := (toNat_of_mem_lowerRuns hr (Nat.le_refl first) (Nat.le_trans low high)).2
    simp only [misses, Bool.or_eq_true, Bool.and_eq_true, Nat.blt_eq, beq_iff_eq] at apart
    rcases apart with (below | above) | ⟨⟨single, rfl⟩, odd⟩
    · omega
    · omega
    · have even : (n - first) % 2 = 0 := by
        rcases single with rfl | rfl
        · exact step
        · have : n - first = 0 := by omega
          rw [this]
      omega

/-- A small letter stays. -/
theorem toLower_of_small {c : Char} (low : 97 ≤ c.toNat) (high : c.toNat ≤ 122) :
    c.toLower = c :=
  of_ascii (p := fun c => 97 ≤ c.toNat → c.toLower = c) (by decide) (by omega) low

/-- A small letter is no blank. -/
theorem isBlank_eq_false_of_small {c : Char} (low : 97 ≤ c.toNat) (high : c.toNat ≤ 122) :
    isBlank c = false :=
  of_ascii (p := fun c => 97 ≤ c.toNat → isBlank c = false) (by decide) (by omega) low

/-- Beyond Latin letters only the special characters are blanks. -/
theorem isBlank_eq_false_of_special {c : Char} (low : 192 ≤ c.toNat)
    (special : ∀ r ∈ specialNumbers, r.2 < c.toNat ∨ c.toNat < r.1) : isBlank c = false := by
  simp only [specialNumbers, List.forall_mem_cons] at special
  simp only [isBlank, Bool.or_eq_false_iff, Bool.and_eq_false_iff, decide_eq_false_iff_not,
    beq_eq_false_iff_ne]
  omega

/-- What a run of the table gives is settled, and neither blank nor punctuation. -/
theorem isLowered_of_shiftOnRun {c d : Char} (h : shiftOnRun lowerRuns c = some d) :
    IsLowered c d := by
  obtain ⟨first, last, stride, shift, hr, low, high, step, rfl⟩ := exists_of_shiftOnRun h
  obtain ⟨number, place⟩ := toNat_of_mem_lowerRuns hr low high
  have resting := shiftOnRun_of_mem_lowerRuns hr low high step number
  generalize Char.ofNat (c.toNat + shift).toNat = d at number resting
  rw [← number] at place
  rcases place with ⟨above, below⟩ | ⟨above, special⟩
  · have settled : lowerChar d = [d] := by
      rw [lowerChar, if_pos (by omega), toLower_of_small above below]
    exact ⟨⟨by omega, settled⟩, .inr ⟨isBlank_eq_false_of_small above below, above⟩⟩
  · have sigma := special (0x3A3, 0x3A3) (by simp [specialNumbers])
    have dotted := special (0x130, 0x130) (by simp [specialNumbers])
    have settled : lowerChar d = [d] := by
      rw [lowerChar, if_neg (by omega), if_neg (by rw [beq_iff_eq]; omega), resting,
        Option.getD_none]
    exact ⟨⟨by omega, settled⟩, .inr ⟨isBlank_eq_false_of_special above special, by omega⟩⟩

/-- The lower case of a character on its own. -/
theorem isLowered_of_mem_lowerChar {c d : Char} (sigma : c.toNat ≠ 0x3A3) (h : d ∈ lowerChar c) :
    IsLowered c d := by
  rw [lowerChar] at h
  -- An ASCII letter, the capital that gives two characters, or the table of runs.
  split at h
  · next ascii =>
    rw [List.mem_singleton.1 h]
    have lowered : lowerChar c.toLower = [c.toLower] ∧ c.toLower.toNat < 128 ∧
        (c.toLower = c ∨ (isBlank c.toLower = false ∧ 97 ≤ c.toLower.toNat)) :=
      of_ascii (p := fun c => lowerChar c.toLower = [c.toLower] ∧ c.toLower.toNat < 128 ∧
        (c.toLower = c ∨ (isBlank c.toLower = false ∧ 97 ≤ c.toLower.toNat))) (by decide) ascii
    exact ⟨⟨by omega, lowered.1⟩, lowered.2.2⟩
  · next beyond =>
    split at h
    · rcases List.mem_cons.1 h with rfl | h
      · exact ⟨⟨by decide, by decide⟩, .inr ⟨by decide, by decide⟩⟩
      · rw [List.mem_singleton.1 h]
        exact ⟨⟨by decide +kernel, by decide +kernel⟩, .inr ⟨by decide, by decide⟩⟩
    · next plain =>
      rw [List.mem_singleton] at h
      cases moved : shiftOnRun lowerRuns c with
      | none =>
        rw [moved, Option.getD_none] at h
        subst h
        refine ⟨⟨sigma, ?_⟩, .inl rfl⟩
        rw [lowerChar, if_neg beyond, if_neg plain, moved, Option.getD_none]
      | some e =>
        rw [moved, Option.getD_some] at h
        subst h
        exact isLowered_of_shiftOnRun moved

/-- Lower case takes one character after the other, each to some settled ones. -/
theorem exists_lowerFrom_cons (before : List Char) (c : Char) (rest : List Char) :
    ∃ image : List Char, image ≠ [] ∧ (∀ d ∈ image, IsLowered c d) ∧
      lowerFrom before (c :: rest) = image ++ lowerFrom (c :: before) rest := by
  refine ⟨_, ?_, ?_, by rw [lowerFrom]⟩
  · split
    · split <;> exact List.cons_ne_nil _ _
    · rw [lowerChar]
      split
      · exact List.cons_ne_nil _ _
      · split <;> exact List.cons_ne_nil _ _
  · split
    · intro d hd
      have small : d = Char.ofNat 0x3C2 ∨ d = Char.ofNat 0x3C3 := by
        split at hd
        · exact .inl (List.mem_singleton.1 hd)
        · exact .inr (List.mem_singleton.1 hd)
      rcases small with rfl | rfl <;>
        exact ⟨⟨by decide +kernel, by decide +kernel⟩, .inr ⟨by decide, by decide⟩⟩
    · next plain =>
      rw [beq_iff_eq] at plain
      exact fun d hd => isLowered_of_mem_lowerChar plain hd

/-- A character of the lower case comes from one of the text. -/
theorem exists_of_mem_lowerFrom {d : Char} : ∀ {before s : List Char}, d ∈ lowerFrom before s →
    ∃ c ∈ s, IsLowered c d
  | before, c :: rest, h => by
    obtain ⟨image, -, lowered, same⟩ := exists_lowerFrom_cons before c rest
    rw [same, List.mem_append] at h
    rcases h with h | h
    · exact ⟨c, List.mem_cons_self, lowered d h⟩
    · obtain ⟨e, he, found⟩ := exists_of_mem_lowerFrom h
      exact ⟨e, List.mem_cons_of_mem c he, found⟩

/-- A text of settled characters stays as it is. -/
theorem lowerFrom_of_isSettled : ∀ (before s : List Char), (∀ c ∈ s, IsSettled c) →
    lowerFrom before s = s
  | _, [], _ => rfl
  | before, c :: rest, h => by
    have settled := h c List.mem_cons_self
    rw [lowerFrom, if_neg (by rw [beq_iff_eq]; exact settled.sigma), settled.lower,
      lowerFrom_of_isSettled (c :: before) rest fun d hd => h d (List.mem_cons_of_mem c hd)]
    rfl

/-- Lower case twice is lower case once. -/
@[simp] theorem lowerChars_lowerChars (s : List Char) :
    lowerChars (lowerChars s) = lowerChars s := by
  refine lowerFrom_of_isSettled [] _ fun d hd => ?_
  obtain ⟨c, -, lowered⟩ := exists_of_mem_lowerFrom hd
  exact lowered.1

/-- Lower case puts in no punctuation. -/
theorem mem_of_mem_lowerChars {s : List Char} {d : Char} (h : d ∈ lowerChars s)
    (small : d.toNat < 97) : d ∈ s := by
  obtain ⟨c, hc, -, rfl | ⟨-, above⟩⟩ := exists_of_mem_lowerFrom h
  · exact hc
  · omega

/-- Only the empty text has an empty lower case. -/
theorem lowerFrom_eq_nil_iff {before s : List Char} : lowerFrom before s = [] ↔ s = [] := by
  cases s with
  | nil => exact ⟨fun _ => rfl, fun _ => rfl⟩
  | cons c rest =>
    obtain ⟨image, some_, -, same⟩ := exists_lowerFrom_cons before c rest
    rw [same, List.append_eq_nil_iff]
    exact ⟨fun h => absurd h.1 some_, fun h => by cases h⟩

/-- The lower case of what is no blank is none. -/
theorem IsLowered.isBlank {c d : Char} (h : IsLowered c d) (hc : isBlank c = false) :
    Text.isBlank d = false := by
  obtain ⟨-, rfl | ⟨plain, -⟩⟩ := h
  · exact hc
  · exact plain

/-- A text without a blank at its end has none there in lower case. -/
theorem lowerFrom_getLast? : ∀ {before s : List Char}, (∀ c ∈ s.getLast?, isBlank c = false) →
    ∀ d ∈ (lowerFrom before s).getLast?, isBlank d = false
  | before, [c], last, d, hd => by
    obtain ⟨image, -, lowered, same⟩ := exists_lowerFrom_cons before c []
    rw [same, lowerFrom, List.append_nil] at hd
    exact (lowered d (List.mem_of_mem_getLast? hd)).isBlank (last c rfl)
  | before, c :: e :: rest, last, d, hd => by
    obtain ⟨image, -, -, same⟩ := exists_lowerFrom_cons before c (e :: rest)
    have more : lowerFrom (c :: before) (e :: rest) ≠ [] := by
      rw [Ne, lowerFrom_eq_nil_iff]
      exact List.cons_ne_nil e rest
    rw [same, List.getLast?_append_of_ne_nil _ more] at hd
    exact lowerFrom_getLast? (by rwa [List.getLast?_cons_cons] at last) d hd

/-- The lower case of a trimmed text is trimmed. -/
theorem IsTrimmed.lowerChars {s : List Char} (h : IsTrimmed s) : IsTrimmed (lowerChars s) where
  first d hd := by
    cases s with
    | nil => cases hd
    | cons c rest =>
      obtain ⟨image, some_, lowered, same⟩ := exists_lowerFrom_cons [] c rest
      rw [Text.lowerChars, same, List.head?_append_of_ne_nil _ some_] at hd
      exact (lowered d (List.mem_of_mem_head? hd)).isBlank (h.first c rfl)
  last := lowerFrom_getLast? h.last

end Componentry.Text
