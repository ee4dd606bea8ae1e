import Componentry.Naming
import Componentry.Proofs.Naming.Proposal

/-!
# Spellings of identifiers

Three of the conventions only spell an identifier: its first character may become small, and a dash
may part its words. The identifier of a spelling is the identifier that was spelled, so spellings
tell identifiers apart, and digits behind a spelling are digits behind the identifier. Taken names
are therefore counted the same way in each spelling.
-/

set_option autoImplicit false

namespace Componentry

namespace NamingConvention
open Componentry.Text Componentry.Naming

/-- A convention that keeps apart which letters are capitals. -/
def IsSpelling (convention : NamingConvention) : Prop := convention ≠ .shouting

instance (convention : NamingConvention) : Decidable convention.IsSpelling :=
  inferInstanceAs (Decidable (convention ≠ .shouting))

/-- How the first character of an identifier is written. -/
def first : NamingConvention → Char → Char
  | .pascal, c => c
  | _, c => c.toLower

/-- How a character behind the first one of an identifier is written. -/
def later : NamingConvention → Char → List Char
  | .kebab, c => if c.isUpper then ['-', c.toLower] else [c]
  | _, c => [c]

variable {convention : NamingConvention}

/-! ## How an identifier is written -/

/-- A letter or a digit that is no capital is in lower case. -/
theorem toLower_of_not_isUpper {c : Char} (h : isAsciiAlnum c = true) (hc : c.isUpper = false) :
    c.toLower = c :=
  of_ascii (p := fun c => c.isUpper = false → c.toLower = c) (by decide)
    (toNat_lt_of_isAsciiAlnum h) hc

/-- What stands for a character is small where it was a capital, behind a mark. -/
theorem map_toLower_markCapitals : ∀ {rest : List Char}, (∀ d ∈ rest, isAsciiAlnum d = true) →
    (markCapitals '-' rest).map Char.toLower = rest.flatMap (later .kebab)
  | [], _ => rfl
  | d :: rest, h => by
    have ih := map_toLower_markCapitals fun e he => h e (List.mem_cons_of_mem d he)
    rw [markCapitals] at ih ⊢
    rw [List.flatMap_cons, List.flatMap_cons, List.map_append, ih, later]
    cases hd : d.isUpper with
    | true => rfl
    | false =>
      rw [if_neg Bool.false_ne_true, if_neg Bool.false_ne_true, List.map_singleton,
        toLower_of_not_isUpper (h d List.mem_cons_self) hd]

/-- Marking capitals keeps to ASCII characters. -/
theorem toNat_lt_of_mem_markCapitals {s : List Char} (h : ∀ d ∈ s, isAsciiAlnum d = true) :
    ∀ c ∈ markCapitals '-' s, c.toNat < 128 := by
  intro c hc
  obtain ⟨d, hd, hc⟩ := List.mem_flatMap.1 hc
  have ascii := toNat_lt_of_isAsciiAlnum (h d hd)
  split at hc
  · rcases List.mem_cons.1 hc with rfl | hc
    · decide
    · rwa [List.mem_singleton.1 hc]
  · rwa [List.mem_singleton.1 hc]

/-- An identifier is written character by character. -/
theorem applyTo_cons (hc : convention.IsSpelling) {a : Char} {rest : List Char}
    (ha : a.isUpper = true) (hr : ∀ d ∈ rest, isAsciiAlnum d = true) :
    convention.applyTo (a :: rest) = convention.first a :: rest.flatMap convention.later := by
  have kept : rest.flatMap (fun d => [d]) = rest := by
    rw [List.flatMap_singleton']
  have alnum := isAsciiAlnum_of_isUpper ha
  have ascii := toNat_lt_of_isAsciiAlnum alnum
  cases convention with
  | shouting => exact absurd rfl hc
  | pascal =>
    change upperFirst (a :: rest) = a :: rest.flatMap fun d => [d]
    rw [upperFirst, upperChar_of_isUpper ha, kept, List.singleton_append]
  | camel =>
    change lowerChar a ++ rest = a.toLower :: rest.flatMap fun d => [d]
    rw [lowerChar, if_pos ascii, kept, List.singleton_append]
  -- Every capital gets a dash before it, the first one as well; that dash is dropped.
  | kebab =>
    have whole : ∀ d ∈ a :: rest, isAsciiAlnum d = true := by
      intro d hd
      rcases List.mem_cons.1 hd with rfl | hd
      · exact alnum
      · exact hr d hd
    have dash : (a.toLower == '-') = false :=
      of_ascii (p := fun a => a.isUpper = true → (a.toLower == '-') = false) (by decide) ascii ha
    have marked : (lowerChars (markCapitals '-' (a :: rest))) =
        '-' :: a.toLower :: rest.flatMap (later .kebab) := by
      rw [lowerChars_of_ascii (toNat_lt_of_mem_markCapitals whole), map_toLower_markCapitals whole,
        List.flatMap_cons, later, if_pos ha]
      rfl
    rw [applyTo, marked, List.dropWhile_cons_of_pos (by decide),
      List.dropWhile_cons_of_neg (by rw [dash]; exact Bool.false_ne_true)]
    rfl

/-- Digits are written as they are. -/
theorem flatMap_later_of_isDigit : ∀ {digits : List Char}, (∀ d ∈ digits, d.isDigit = true) →
    digits.flatMap convention.later = digits
  | [], _ => rfl
  | d :: digits, h => by
    have hd : d.isUpper = false :=
      of_ascii (p := fun d => d.isDigit = true → d.isUpper = false) (by decide)
        (toNat_lt_of_isDigit (h d List.mem_cons_self)) (h d List.mem_cons_self)
    have one : convention.later d = [d] := by
      cases convention with
      | kebab => rw [later, hd, if_neg Bool.false_ne_true]
      | _ => rfl
    rw [List.flatMap_cons, one, List.singleton_append,
      flatMap_later_of_isDigit fun e he => h e (List.mem_cons_of_mem d he)]

/-- Digits behind an identifier stand behind its spelling. -/
theorem apply_append (hc : convention.IsSpelling) {s : String} (h : IsIdentifier s)
    {digits : List Char} (hd : ∀ d ∈ digits, d.isDigit = true) :
    convention.apply (s ++ String.ofList digits) = convention.apply s ++ String.ofList digits := by
  obtain ⟨a, rest, chars, ha, hr⟩ := h
  have both : ∀ d ∈ rest ++ digits, isAsciiAlnum d = true := by
    intro d mem
    rcases List.mem_append.1 mem with mem | mem
    · exact hr d mem
    · exact isAsciiAlnum_of_isDigit (hd d mem)
  rw [apply, apply, String.toList_append, chars, String.toList_ofList, List.cons_append,
    applyTo_cons hc ha both, applyTo_cons hc ha hr, List.flatMap_append,
    flatMap_later_of_isDigit hd, ← List.cons_append, String.ofList_append]

/-! ## What a spelling spells -/

/-- The words behind the first one, each with a capital, give back what was written. -/
theorem exists_words : ∀ {rest : List Char}, (∀ d ∈ rest, isAsciiAlnum d = true) →
    ∃ word more, splitWhere isSeparator (rest.flatMap convention.later) = word :: more ∧
      word ++ more.flatMap upperFirst = rest
  | [], _ => ⟨[], [], rfl, rfl⟩
  | d :: rest, h => by
    have hd : isAsciiAlnum d = true := h d List.mem_cons_self
    obtain ⟨word, more, pieces, whole⟩ :=
      exists_words fun e he => h e (List.mem_cons_of_mem d he)
    have solid {e : Char} (he : isAsciiAlnum e = true) (t : List Char) :
        splitWhere isSeparator t = word :: more →
          splitWhere isSeparator (e :: t) = (e :: word) :: more := by
      intro ht
      rw [splitWhere, isSeparator_of_isAsciiAlnum he, if_neg Bool.false_ne_true, ht]
    have plain : convention.later d = [d] → ∃ word more,
        splitWhere isSeparator ((d :: rest).flatMap convention.later) = word :: more ∧
          word ++ more.flatMap upperFirst = d :: rest := by
      intro one
      refine ⟨d :: word, more, ?_, by rw [List.cons_append, whole]⟩
      rw [List.flatMap_cons, one]
      exact solid hd _ pieces
    cases convention with
    | kebab =>
      by_cases upper : d.isUpper = true
      · -- the dash ends the word, and a capital starts the next one
        obtain ⟨small, back⟩ := of_ascii (p := fun d => d.isUpper = true →
          isAsciiAlnum d.toLower = true ∧ upperChar d.toLower = [d]) (by decide)
          (toNat_lt_of_isAsciiAlnum hd) upper
        refine ⟨[], (d.toLower :: word) :: more, ?_, ?_⟩
        · rw [List.flatMap_cons, later, if_pos upper]
          change splitWhere isSeparator ('-' :: d.toLower :: rest.flatMap (later .kebab)) = _
          rw [splitWhere, if_pos (by decide), solid small _ pieces]
        · rw [List.nil_append, List.flatMap_cons, upperFirst, back, List.append_assoc, whole,
            List.singleton_append]
      · exact plain (by rw [later, if_neg upper])
    | _ => exact plain rfl

/-- The identifier of a spelling is what was spelled. -/
theorem identifier_apply (hc : convention.IsSpelling) {s : String} (h : IsIdentifier s) :
    identifier (convention.apply s) = s := by
  obtain ⟨a, rest, chars, ha, hr⟩ := h
  have alnum := isAsciiAlnum_of_isUpper ha
  obtain ⟨lead, back⟩ : isAsciiAlnum (convention.first a) = true ∧
      upperChar (convention.first a) = [a] := by
    cases convention with
    | pascal => exact ⟨alnum, upperChar_of_isUpper ha⟩
    | _ =>
      exact of_ascii (p := fun a => a.isUpper = true →
        isAsciiAlnum a.toLower = true ∧ upperChar a.toLower = [a]) (by decide)
        (toNat_lt_of_isAsciiAlnum alnum) ha
  obtain ⟨word, more, pieces, whole⟩ := @exists_words convention rest hr
  have chars' : identifierChars (convention.apply s).toList = a :: rest := by
    rw [apply, String.toList_ofList, chars, applyTo_cons hc ha hr, identifierChars, splitWhere,
      isSeparator_of_isAsciiAlnum lead, if_neg Bool.false_ne_true, pieces]
    change ((upperChar (convention.first a) ++ word) ++ more.flatMap upperFirst).filter _ = _
    rw [back, List.append_assoc, whole, List.singleton_append, List.filter_eq_self]
    intro d hd
    rcases List.mem_cons.1 hd with rfl | hd
    · exact alnum
    · exact hr d hd
  rw [identifier, chars', List.dropWhile_cons_of_neg
    (by rw [isAsciiLetter_of_isUpper ha]; exact Bool.false_ne_true), upperFirst,
    upperChar_of_isUpper ha, List.singleton_append]
  dsimp only
  rw [← chars, String.ofList_toList]

/-- A spelling tells its identifier. -/
theorem apply_inj (hc : convention.IsSpelling) {s t : String} (hs : IsIdentifier s)
    (ht : IsIdentifier t) : convention.apply s = convention.apply t ↔ s = t := by
  refine ⟨fun same => ?_, fun same => by rw [same]⟩
  rw [← identifier_apply hc hs, same, identifier_apply hc ht]

/-- A spelling has only ASCII letters and digits, and dashes. -/
theorem isAsciiAlnum_or_dash {s : String} (hc : convention.IsSpelling) (h : IsIdentifier s) :
    ∀ c ∈ (convention.apply s).toList, isAsciiAlnum c = true ∨ c = '-' := by
  obtain ⟨a, rest, chars, ha, hr⟩ := h
  have alnum := isAsciiAlnum_of_isUpper ha
  have small {d : Char} (hd : isAsciiAlnum d = true) : isAsciiAlnum d.toLower = true :=
    of_ascii (p := fun d => isAsciiAlnum d = true → isAsciiAlnum d.toLower = true) (by decide)
      (toNat_lt_of_isAsciiAlnum hd) hd
  intro c mem
  rw [apply, String.toList_ofList, chars, applyTo_cons hc ha hr] at mem
  rcases List.mem_cons.1 mem with rfl | mem
  · cases convention with
    | pascal => exact .inl alnum
    | _ => exact .inl (small alnum)
  · obtain ⟨d, hd, mem⟩ := List.mem_flatMap.1 mem
    cases convention with
    | kebab =>
      rw [later] at mem
      split at mem
      · rcases List.mem_cons.1 mem with rfl | mem
        · exact .inr rfl
        · exact .inl (List.mem_singleton.1 mem ▸ small (hr d hd))
      · exact .inl (List.mem_singleton.1 mem ▸ hr d hd)
    | _ => exact .inl (List.mem_singleton.1 mem ▸ hr d hd)

end NamingConvention

namespace Naming
open Componentry.Text Componentry.NamingConvention

variable {convention : NamingConvention}

/-! ## Numbers behind a spelling -/

/-- The digits behind a base are the rest after it, if they are nothing else. -/
theorem digitsBehind?_of_restAfter? {base taken rest : List Char}
    (behind : restAfter? base taken = some rest) (line : '\n' ∉ rest) :
    digitsBehind? base taken =
      if !rest.isEmpty && rest.all isDecimal then some rest else none := by
  rw [digitsBehind?, behind, Option.bind_some]
  split
  next before last =>
    have mem : '\n' ∈ rest.reverse := last ▸ List.mem_cons_self
    exact absurd (List.mem_reverse.1 mem) line
  next => rfl

/-- Only digits follow a base where digits stand behind it, the end of a line aside. -/
theorem digitsBehind?_eq_some {base taken digits : List Char} (line : '\n' ∉ taken) :
    digitsBehind? base taken = some digits ↔
      taken = base ++ digits ∧ digits ≠ [] ∧ ∀ d ∈ digits, isDecimal d = true := by
  have good {rest : List Char} : (!rest.isEmpty && rest.all isDecimal) = true ↔
      rest ≠ [] ∧ ∀ d ∈ rest, isDecimal d = true := by
    rw [Bool.and_eq_true, Bool.not_eq_true', List.isEmpty_eq_false_iff, List.all_eq_true]
  constructor
  · intro h
    obtain ⟨rest, behind, _⟩ := Option.bind_eq_some_iff.1 h
    have whole := append_of_restAfter? behind
    rw [digitsBehind?_of_restAfter? behind fun mem =>
      line (whole ▸ List.mem_append_right base mem)] at h
    obtain ⟨decimal, same⟩ := Option.ite_none_right_eq_some.1 h
    cases same
    exact ⟨whole.symm, good.1 decimal⟩
  · rintro ⟨rfl, decimal⟩
    rw [digitsBehind?_of_restAfter? (restAfter?_append base digits) fun mem =>
      line (List.mem_append_right base mem)]
    exact Option.ite_none_right_eq_some.2 ⟨good.2 decimal, rfl⟩

/-- Digits behind a spelling are those behind the identifier. -/
theorem digitsBehind?_apply (hc : convention.IsSpelling) {base taken : String}
    (hb : IsIdentifier base) (ht : IsIdentifier taken) :
    digitsBehind? (convention.apply base).toList (convention.apply taken).toList =
      digitsBehind? base.toList taken.toList := by
  have spelled := isAsciiAlnum_or_dash hc ht
  have plain := ht.isAsciiAlnum
  have line : '\n' ∉ (convention.apply taken).toList := fun mem =>
    absurd (spelled _ mem) (by decide)
  have line' : '\n' ∉ taken.toList := fun mem => absurd (plain _ mem) (by decide)
  -- decimal digits of a name are ASCII digits
  have digit {d : Char} (hd : isDecimal d = true) (h : isAsciiAlnum d = true ∨ d = '-') :
      d.isDigit = true := by
    rcases h with h | rfl
    · exact of_ascii (p := fun d => isDecimal d = true → d.isDigit = true) (by decide)
        (toNat_lt_of_isAsciiAlnum h) hd
    · exact absurd hd (by decide)
  refine Option.ext fun digits => ?_
  rw [digitsBehind?_eq_some line, digitsBehind?_eq_some line']
  refine and_congr_left fun ⟨_, decimal⟩ => ?_
  constructor
  · intro whole
    have digits' : ∀ d ∈ digits, d.isDigit = true := fun d hd =>
      digit (decimal d hd) (spelled d (whole ▸ List.mem_append_right _ hd))
    have same : convention.apply taken = convention.apply (base ++ String.ofList digits) := by
      rw [apply_append hc hb digits', ← String.toList_inj, String.toList_append,
        String.toList_ofList, whole]
    have longer := hb.append fun d hd => isAsciiAlnum_of_isDigit (digits' d hd)
    rw [(apply_inj hc ht longer).1 same, String.toList_append, String.toList_ofList]
  · intro whole
    have digits' : ∀ d ∈ digits, d.isDigit = true := fun d hd =>
      digit (decimal d hd) (.inl (plain d (whole ▸ List.mem_append_right _ hd)))
    have same : taken = base ++ String.ofList digits := by
      rw [← String.toList_inj, String.toList_append, String.toList_ofList, whole]
    rw [same, apply_append hc hb digits', String.toList_append, String.toList_ofList]

/-- A number is given behind a spelling as behind the identifier. -/
theorem numbered_apply (hc : convention.IsSpelling) {base : String} (hb : IsIdentifier base)
    {taken : List String} (ht : ∀ t ∈ taken, IsIdentifier t) :
    numbered (convention.apply base) (taken.map convention.apply) =
      convention.apply (numbered base taken) := by
  have used : (taken.map convention.apply).contains (convention.apply base) =
      taken.contains base := by
    rw [Bool.eq_iff_iff, List.contains_iff_mem, List.contains_iff_mem, List.mem_map]
    constructor
    · rintro ⟨t, mem, same⟩
      rwa [← (apply_inj hc (ht t mem) hb).1 same]
    · exact fun mem => ⟨base, mem, rfl⟩
  have highest : highestBehind (convention.apply base).toList (taken.map convention.apply) =
      highestBehind base.toList taken := by
    rw [highestBehind, highestBehind, List.filterMap_map]
    congr 1
    refine List.filterMap_congr fun t mem => ?_
    rw [Function.comp_apply, numberBehind?, digitsBehind?_apply hc hb (ht t mem), numberBehind?]
  rw [numbered, used, highest, numbered]
  split
  next =>
    have spelled := apply_append hc hb fun _ => isDigit_of_mem_natText
      (n := highestBehind base.toList taken + 1)
    rw [String.ofList_toList] at spelled
    exact spelled.symm
  next => rfl

end Naming
end Componentry
