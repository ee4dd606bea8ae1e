import Componentry.Text.Slice
import Mathlib.Data.List.Basic

/-!
# Replacement and occurrences

No occurrence of a literal reaches across a character that the literal does not hold, so what stands
before such a character and what stands behind it are searched apart. Erasing a literal that occurs
makes a text shorter; where it does not occur the text stays. Single characters that are replaced
one after the other are replaced each on its own, if no one is put in for one before it.
-/

set_option autoImplicit false

namespace Componentry.Text

/-- A literal that starts a text ends before a character it does not have. -/
theorem isPrefixOf_append_cons {d : Char} (t : List Char) : ∀ {literal : List Char} (s : List Char),
    d ∉ literal → literal.isPrefixOf (s ++ d :: t) = literal.isPrefixOf s
  | [], s, _ => by rw [List.isPrefixOf_nil_left, List.isPrefixOf_nil_left]
  | c :: literal, [], h => by
    have other : (c == d) = false := by
      rw [beq_eq_false_iff_ne]
      exact fun same => h (same ▸ List.mem_cons_self)
    rw [List.nil_append, List.isPrefixOf_cons_cons, other, Bool.false_and, List.isPrefixOf_cons_nil]
  | c :: literal, e :: s, h => by
    rw [List.cons_append, List.isPrefixOf_cons_cons, List.isPrefixOf_cons_cons,
      isPrefixOf_append_cons t s fun hd => h (List.mem_cons_of_mem c hd)]

variable {literal by' : List Char}

/-- A literal occurs before a character that it does not hold or behind it. -/
theorem occursIn_append_cons {d : Char} (some_ : literal ≠ []) (h : d ∉ literal)
    (t : List Char) : ∀ s : List Char,
      occursIn literal (s ++ d :: t) = (occursIn literal s || occursIn literal t)
  | [] => by
    have across := isPrefixOf_append_cons t [] h
    rw [List.nil_append] at across
    have nowhere : occursIn literal [] = false := List.isEmpty_eq_false_iff.2 some_
    rw [List.nil_append, nowhere, Bool.false_or, occursIn, across]
    cases literal with
    | nil => exact absurd rfl some_
    | cons c rest => rw [List.isPrefixOf_cons_nil, Bool.false_or]
  | c :: rest => by
    have across := isPrefixOf_append_cons t (c :: rest) h
    rw [List.cons_append] at across
    rw [List.cons_append, occursIn, across, occursIn_append_cons some_ h t rest, occursIn,
      Bool.or_assoc]

/-- Characters before a text that a literal does not hold make no difference to where it occurs. -/
theorem occursIn_append_left (some_ : literal ≠ []) (s : List Char) : ∀ {b : List Char},
    (∀ c ∈ b, c ∉ literal) → occursIn literal (b ++ s) = occursIn literal s
  | [], _ => rfl
  | d :: b, foreign => by
    have nowhere : occursIn literal [] = false := List.isEmpty_eq_false_iff.2 some_
    have first := occursIn_append_cons some_ (foreign d List.mem_cons_self) (b ++ s) []
    rw [List.nil_append, nowhere, Bool.false_or] at first
    rw [List.cons_append, first]
    exact occursIn_append_left some_ s fun c hc => foreign c (List.mem_cons_of_mem d hc)

/-- Foreign characters behind a text make a literal occur no more. -/
theorem occursIn_append_right (some_ : literal ≠ []) (s : List Char) {b : List Char}
    (foreign : ∀ c ∈ b, c ∉ literal) : occursIn literal (s ++ b) = occursIn literal s := by
  have nowhere : occursIn literal [] = false := List.isEmpty_eq_false_iff.2 some_
  cases b with
  | nil => rw [List.append_nil]
  | cons d b =>
    have rest := occursIn_append_left some_ [] fun c hc => foreign c (List.mem_cons_of_mem d hc)
    rw [List.append_nil, nowhere] at rest
    rw [occursIn_append_cons some_ (foreign d List.mem_cons_self), rest, Bool.or_false]

/-- A literal occurs in a text when it is a part of it. -/
theorem occursIn_iff {s : List Char} : occursIn literal s = true ↔ literal <:+: s := by
  induction s with
  | nil => rw [occursIn, List.isEmpty_iff, List.infix_nil]
  | cons c rest ih =>
    rw [occursIn, Bool.or_eq_true, List.isPrefixOf_iff_prefix, ih, List.infix_cons_iff]

/-- A literal is replaced before a character that it does not hold and behind it. -/
theorem replaceFrom_append_cons {d : Char} (h : d ∉ literal) (t : List Char) :
    ∀ (skip : Nat) (s : List Char), skip ≤ s.length →
      replaceFrom literal by' skip (s ++ d :: t) =
        replaceFrom literal by' skip s ++ replaceFrom literal by' 0 (d :: t)
  | 0, [], _ => by rw [List.nil_append, replaceFrom, List.nil_append]
  | skip + 1, c :: rest, hs => by
    rw [List.cons_append, replaceFrom, replaceFrom,
      replaceFrom_append_cons h t skip rest (Nat.le_of_succ_le_succ hs)]
  | 0, c :: rest, _ => by
    have across := isPrefixOf_append_cons t (c :: rest) h
    rw [List.cons_append] at across
    rw [List.cons_append, replaceFrom, across, replaceFrom]
    split
    · next found =>
      have size := (List.isPrefixOf_iff_prefix.1 found).length_le
      rw [List.length_cons] at size
      rw [replaceFrom_append_cons h t _ rest (by omega), List.append_assoc]
    · rw [replaceFrom_append_cons h t 0 rest (Nat.zero_le _), List.cons_append]

/-- Where a literal does not occur, nothing is replaced. -/
theorem replaceFrom_of_not_occursIn : ∀ {s : List Char}, occursIn literal s = false →
    replaceFrom literal by' 0 s = s
  | [], _ => rfl
  | c :: rest, h => by
    rw [occursIn, Bool.or_eq_false_iff] at h
    rw [replaceFrom, if_neg (by rw [h.1]; exact Bool.false_ne_true),
      replaceFrom_of_not_occursIn h.2]

/-- To erase a literal makes no text longer. -/
theorem length_erase_le : ∀ (skip : Nat) (s : List Char),
    (replaceFrom literal [] skip s).length ≤ s.length
  | _, [] => Nat.le_refl 0
  | skip + 1, c :: rest => by
    rw [replaceFrom]
    exact Nat.le_succ_of_le (length_erase_le skip rest)
  | 0, c :: rest => by
    rw [replaceFrom]
    split
    · exact Nat.le_succ_of_le (length_erase_le _ rest)
    · exact Nat.succ_le_succ (length_erase_le 0 rest)

/-- Erasing a literal that occurs makes a text shorter. -/
theorem length_erase_lt (some_ : literal ≠ []) : ∀ {s : List Char}, occursIn literal s = true →
    (replaceFrom literal [] 0 s).length < s.length
  | [], h => by
    rw [occursIn, List.isEmpty_iff] at h
    exact absurd h some_
  | c :: rest, h => by
    rw [occursIn, Bool.or_eq_true] at h
    rw [replaceFrom]
    split
    · exact Nat.lt_succ_of_le (length_erase_le _ rest)
    · next other => exact Nat.succ_lt_succ (length_erase_lt some_ (h.resolve_left other))

/-- Erasing puts in nothing. -/
theorem mem_of_mem_erase {c : Char} : ∀ {skip : Nat} {s : List Char},
    c ∈ replaceFrom literal [] skip s → c ∈ s
  | skip + 1, d :: rest, h => by
    rw [replaceFrom] at h
    exact List.mem_cons_of_mem d (mem_of_mem_erase h)
  | 0, d :: rest, h => by
    rw [replaceFrom] at h
    split at h
    · exact List.mem_cons_of_mem d (mem_of_mem_erase h)
    · rcases List.mem_cons.1 h with rfl | h
      · exact List.mem_cons_self
      · exact List.mem_cons_of_mem d (mem_of_mem_erase h)

/-! ## Single characters -/

/-- A single character is replaced wherever it stands. -/
theorem replaceFrom_singleton (d : Char) (by' s : List Char) :
    replaceFrom [d] by' 0 s = s.flatMap fun c => if c = d then by' else [c] := by
  induction s with
  | nil => rfl
  | cons c rest ih =>
    rw [replaceFrom, List.flatMap_cons]
    by_cases same : c = d
    · subst same
      rw [if_pos (by simp), if_pos rfl, ← ih]
      rfl
    · rw [if_neg (by simpa using Ne.symm same), if_neg same, ih]
      rfl

/-- What is put in for a character by the first entry for it; any other one stays. -/
def replaceChar (l : List (Char × String)) (c : Char) : List Char :=
  ((l.lookup c).map String.toList).getD [c]

/-- A character is replaced by an entry for it, or is not among those that are replaced. -/
theorem replaceChar_cases (l : List (Char × String)) (c : Char) :
    (∃ by', (c, by') ∈ l ∧ replaceChar l c = by'.toList) ∨
      c ∉ l.map Prod.fst ∧ replaceChar l c = [c] := by
  rw [replaceChar]
  cases found : l.lookup c with
  | none =>
    rw [List.lookup_eq_none_iff] at found
    refine .inr ⟨fun mem => ?_, rfl⟩
    obtain ⟨e, he, same⟩ := List.mem_map.1 mem
    exact bne_iff_ne.1 (found e he) same.symm
  | some by' =>
    obtain ⟨before, rest, table, -⟩ := List.lookup_eq_some_iff.1 found
    exact .inl ⟨by', table ▸ List.mem_append_cons_self, rfl⟩

/-- Characters are replaced one after the other as they are each on its own, if none of them is put
in for one before it. -/
theorem toList_replaceEach : ∀ {l : List (Char × String)},
    (l.Pairwise fun a b => b.1 ∉ a.2.toList) → ∀ s : String,
      (replaceEach s l).toList = s.toList.flatMap (replaceChar l)
  | [], _, s => (List.flatMap_singleton' s.toList).symm
  | (d, by') :: l, apart, s => by
    obtain ⟨later, apart⟩ := List.pairwise_cons.1 apart
    have first : (replace s (String.ofList [d]) by').toList =
        s.toList.flatMap fun c => if c = d then by'.toList else [c] := by
      rw [replace, if_neg (by simp), String.toList_ofList, String.toList_ofList,
        replaceFrom_singleton]
    -- the entries behind leave what the first one has put in
    have kept : by'.toList.flatMap (replaceChar l) = by'.toList := by
      conv_rhs => rw [← List.flatMap_singleton' by'.toList]
      refine List.flatMap_congr fun c hc => ?_
      have unknown : l.lookup c = none := by
        rw [List.lookup_eq_none_iff]
        intro e he
        exact bne_iff_ne.2 fun same => later e he (same ▸ hc)
      rw [replaceChar, unknown]
      rfl
    have each (c : Char) : (if c = d then by'.toList else [c]).flatMap (replaceChar l) =
        replaceChar ((d, by') :: l) c := by
      by_cases same : c = d
      · rw [if_pos same, kept, replaceChar, same, List.lookup_cons_self]
        rfl
      · rw [if_neg same, List.flatMap_singleton, replaceChar, replaceChar, List.lookup_cons,
          beq_eq_false_iff_ne.2 same]
    have others := toList_replaceEach apart (replace s (String.ofList [d]) by')
    rw [first, List.flatMap_assoc] at others
    exact others.trans (congrArg (List.flatMap · s.toList) (funext each))

end Componentry.Text
