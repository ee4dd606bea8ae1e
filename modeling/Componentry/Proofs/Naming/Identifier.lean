import Componentry.Naming.Words
import Componentry.Proofs.Naming.Freshness
import Componentry.Proofs.Text.Ascii
import Componentry.Proofs.Text.Pieces
import Mathlib.Data.List.TakeWhile

/-!
# Identifiers of components

An identifier is an ASCII capital with ASCII letters and digits behind it. It is its own
identifier, and so is everything that the registry of names makes of it, except that the mark of a
cut name is lost. A name claimed for an identifier is an identifier again, a cut one with the mark,
or a number with the mark where so many names are taken that nothing but the number has room.
-/

set_option autoImplicit false

namespace Componentry.Naming
open Componentry.Text

/-- A capital with letters and digits behind it. -/
def IsIdentifier (s : String) : Prop :=
  ∃ c rest, s.toList = c :: rest ∧ c.isUpper = true ∧ ∀ d ∈ rest, isAsciiAlnum d = true

/-! ## Identifiers of identifiers -/

/-- A letter or a digit separates no words. -/
theorem isSeparator_of_isAsciiAlnum {c : Char} (h : isAsciiAlnum c = true) :
    isSeparator c = false :=
  of_ascii (p := fun c => isAsciiAlnum c = true → isSeparator c = false) (by decide)
    (toNat_lt_of_isAsciiAlnum h) h

/-- A capital without separators behind it starts the identifier. -/
theorem identifier_of_isUpper {c : Char} {rest : List Char} (hc : c.isUpper = true)
    (hr : ∀ d ∈ rest, isSeparator d = false) :
    identifier (String.ofList (c :: rest)) = String.ofList (c :: rest.filter isAsciiAlnum) := by
  have alnum : isAsciiAlnum c = true := isAsciiAlnum_of_isUpper hc
  have letter : isAsciiLetter c = true := isAsciiLetter_of_isUpper hc
  have whole : ∀ d ∈ c :: rest, isSeparator d = false := by
    intro d hd
    rcases List.mem_cons.1 hd with rfl | hd
    · exact isSeparator_of_isAsciiAlnum alnum
    · exact hr d hd
  have chars : identifierChars (c :: rest) = c :: rest.filter isAsciiAlnum := by
    rw [identifierChars, splitWhere_of_none whole, List.flatMap_singleton, upperFirst,
      upperChar_of_isUpper hc, List.singleton_append, List.filter_cons, if_pos alnum]
  rw [identifier, String.toList_ofList, chars, List.dropWhile_cons, letter, Bool.not_true,
    if_neg Bool.false_ne_true, upperFirst, upperChar_of_isUpper hc, List.singleton_append]

/-- An identifier is its own identifier. -/
theorem identifier_of_isIdentifier {s : String} (h : IsIdentifier s) : identifier s = s := by
  obtain ⟨c, rest, chars, hc, hr⟩ := h
  have written : s = String.ofList (c :: rest) := by rw [← chars, String.ofList_toList]
  rw [written, identifier_of_isUpper hc fun d hd => isSeparator_of_isAsciiAlnum (hr d hd),
    List.filter_eq_self.2 hr]

/-- The mark of a cut name is lost. -/
theorem identifier_marked {s : String} (h : IsIdentifier s) :
    identifier (s ++ String.ofList cutMark) = s := by
  obtain ⟨c, rest, chars, hc, hr⟩ := h
  have written : s = String.ofList (c :: rest) := by rw [← chars, String.ofList_toList]
  have marked : ∀ d ∈ rest ++ cutMark, isSeparator d = false := by
    intro d hd
    rcases List.mem_append.1 hd with hd | hd
    · exact isSeparator_of_isAsciiAlnum (hr d hd)
    · exact Lists.forall_mem_of_all (p := fun d => isSeparator d = false) (by decide) d hd
  have lost : cutMark.filter isAsciiAlnum = [] := by decide
  rw [written, ← String.ofList_append, List.cons_append, identifier_of_isUpper hc marked,
    List.filter_append, List.filter_eq_self.2 hr, lost, List.append_nil]

/-- Letters start the identifier of a name; one without letters has the identifier `Component`. -/
theorem identifier_of_no_letter {s : String} (h : ∀ c ∈ identifierChars s.toList,
    isAsciiLetter c = false) : identifier s = "Component" := by
  have dropped : (identifierChars s.toList).dropWhile (fun c => !isAsciiLetter c) = [] := by
    rw [List.dropWhile_eq_nil_iff]
    intro c hc
    rw [h c hc]
    rfl
  rw [identifier, dropped, upperFirst]

/-- Whatever a name is, its identifier is one. -/
theorem isIdentifier_identifier (name : String) : IsIdentifier (identifier name) := by
  have kept : ∀ c ∈ (identifierChars name.toList).dropWhile (fun c => !isAsciiLetter c),
      isAsciiAlnum c = true := fun c hc =>
    (List.mem_filter.1 (List.dropWhile_subset _ hc)).2
  rw [identifier]
  cases hd : (identifierChars name.toList).dropWhile fun c => !isAsciiLetter c with
  | nil => exact ⟨'C', "omponent".toList, by decide, by decide, Lists.forall_mem_of_all (by decide)⟩
  | cons c rest =>
    have letter : isAsciiLetter c = true := by
      have := List.head_dropWhile_not (fun c => !isAsciiLetter c)
        (by rw [hd]; exact List.cons_ne_nil c rest)
      simpa only [hd, List.head_cons, Bool.not_eq_false'] using this
    obtain ⟨upper, capital⟩ := upperChar_of_isAlpha letter
    rw [hd] at kept
    rw [upperFirst, upper, List.singleton_append]
    exact ⟨c.toUpper, rest, String.toList_ofList, capital,
      fun d hm => kept d (List.mem_cons_of_mem c hm)⟩

/-! ## Names claimed for identifiers -/

/-- What a name claimed for an identifier looks like. -/
inductive IsClaim (s : String) : Prop where
  | plain (isIdentifier : IsIdentifier s)
  | cut (stem : String) (isIdentifier : IsIdentifier stem)
      (length : stem.toList.length = longest - cutMark.length)
      (eq : s = stem ++ String.ofList cutMark)
  | number (digits : List Char) (isDigit : ∀ c ∈ digits, c.isDigit = true)
      (eq : s = String.ofList (digits ++ cutMark))

/-- Letters and digits may follow an identifier. -/
theorem IsIdentifier.append {s : String} {l : List Char} (h : IsIdentifier s)
    (hl : ∀ c ∈ l, isAsciiAlnum c = true) : IsIdentifier (s ++ String.ofList l) := by
  obtain ⟨c, rest, chars, hc, hr⟩ := h
  refine ⟨c, rest ++ l, ?_, hc, ?_⟩
  · rw [String.toList_append, chars, String.toList_ofList, List.cons_append]
  · intro d hd
    rcases List.mem_append.1 hd with hd | hd
    · exact hr d hd
    · exact hl d hd

/-- A start of an identifier is one, unless it is empty. -/
theorem IsIdentifier.take {s : String} (h : IsIdentifier s) {n : Nat} (hn : 0 < n) :
    IsIdentifier (String.ofList (s.toList.take n)) := by
  obtain ⟨c, rest, chars, hc, hr⟩ := h
  obtain ⟨m, rfl⟩ := Nat.exists_eq_succ_of_ne_zero hn.ne'
  refine ⟨c, rest.take m, ?_, hc, fun d hd => hr d (List.mem_of_mem_take hd)⟩
  rw [String.toList_ofList, chars, List.take_succ_cons]

/-- An identifier with a number is one. -/
theorem isIdentifier_numbered {base : String} (h : IsIdentifier base) (taken : List String) :
    IsIdentifier (numbered base taken) := by
  rw [numbered]
  split
  next =>
    have := h.append fun c hc => isAsciiAlnum_of_isDigit
      (isDigit_of_mem_natText (n := highestBehind base.toList taken + 1) hc)
    rwa [String.ofList_toList] at this
  next => exact h

/-- A long identifier cut for a number keeps its start, unless the number takes all the room. -/
theorem isClaim_cutWith {name : String} (h : IsIdentifier name)
    (long : longest < name.toList.length) {marker : List Char}
    (digits : ∀ c ∈ marker, c.isDigit = true) : IsClaim (cutWith name.toList marker) := by
  by_cases room : marker.length < longest - cutMark.length
  · have start := h.take (Nat.sub_pos_of_lt room)
    have stem := start.append fun c hc => isAsciiAlnum_of_isDigit (digits c hc)
    refine .cut _ stem ?_ ?_
    · rw [← String.ofList_append, String.toList_ofList, List.length_append, List.length_take]
      omega
    · rw [cutWith, String.ofList_append, String.ofList_append]
  · refine .number marker digits ?_
    rw [cutWith, Nat.sub_eq_zero_of_le (Nat.not_lt.1 room), List.take_zero, List.nil_append]

/-- A long identifier that is cut is a claim. -/
theorem isClaim_cutShort {name : String} (h : IsIdentifier name)
    (long : longest < name.toList.length) (taken : List String) :
    IsClaim (cutShort name taken) := by
  rw [cutShort]
  split
  next =>
    obtain ⟨k, _, eq⟩ := cutFrom_eq name.toList taken (10 * (taken.length + 2)) 2
    rw [eq]
    exact isClaim_cutWith h long fun _ => isDigit_of_mem_natText
  next => exact isClaim_cutWith h long fun _ hc => absurd hc List.not_mem_nil

/-- What is claimed for an identifier is a claim. -/
theorem isClaim_claim {base : String} (h : IsIdentifier base) (taken : List String) :
    IsClaim (claim base taken) := by
  have named := isIdentifier_numbered h taken
  rw [claim]
  split
  next long => exact isClaim_cutShort named long taken
  next => exact .plain named

end Componentry.Naming
