import Componentry.Jsx.Attribute
import Componentry.Proofs.Attributes.Style
import Componentry.Proofs.Markup.Scanning
import Componentry.Proofs.Text.Erasure
import Mathlib.Data.List.Perm.Subperm

/-!
# Literals of styles

A style is written as the literal of an object. A literal is read here on its own terms: the keys
are identifiers or stand in quotes, the values are decimal numbers or stand in single quotes, and a
key that is given twice keeps its last value. What is written for a style is read as the style
exactly if each key is an identifier that gives an entry of its own, each value taken for a number
is one, and no other value goes on in another line.
-/

set_option autoImplicit false

namespace Componentry.Jsx
open Componentry.Text

/-! ## Characters -/

/-- What there is to settle beyond ASCII: the characters that identifiers start and go on with, and
whether a line separator and a paragraph separator end a line within quotes, as they once did. -/
structure Alphabet where
  starts : Char → Bool
  continues : Char → Bool
  separatorsEndLines : Bool

/-- The characters that may stand between tokens. -/
def spacings : List Char :=
  ['\t', '\x0b', '\x0c', ' ', '\u00a0', '\ufeff', '\u1680', '\u2000', '\u2001', '\u2002', '\u2003',
    '\u2004', '\u2005', '\u2006', '\u2007', '\u2008', '\u2009', '\u200a', '\u202f', '\u205f',
    '\u3000', '\n', '\r', '\u2028', '\u2029']

def isSpacing (c : Char) : Bool := spacings.contains c

/-- What is left when spacing is passed over. -/
def skip (s : List Char) : List Char := s.dropWhile isSpacing

namespace Alphabet
variable (a : Alphabet)

def startsIdentifier (c : Char) : Bool :=
  if c.toNat < 128 then c.isAlpha || c == '_' || c == '$' else a.starts c && !isSpacing c

def continuesIdentifier (c : Char) : Bool :=
  if c.toNat < 128 then c.isAlphanum || c == '_' || c == '$' else a.continues c && !isSpacing c

/-- An identifier, a reserved word among them, that is written without escapes. -/
def isIdentifier : List Char → Bool
  | [] => false
  | c :: rest => a.startsIdentifier c && rest.all a.continuesIdentifier

/-- A character that must not stand within quotes. -/
def endsLine (c : Char) : Bool :=
  c == '\n' || c == '\r' || (a.separatorsEndLines && (c == '\u2028' || c == '\u2029'))

end Alphabet

/-! ## Tokens -/

/-- The letters that stand for controls behind a backslash. -/
def controlLetters : List (Char × Char) :=
  [('b', '\x08'), ('f', '\x0c'), ('n', '\n'), ('r', '\r'), ('t', '\t'), ('v', '\x0b')]

/-- What a character stands for behind a backslash. Escapes by number, and lines that go on, are
not among them. -/
def escaped? (c : Char) : Option Char :=
  if c.isDigit || ['x', 'u', '\n', '\r', '\u2028', '\u2029'].contains c then none
  else some ((controlLetters.lookup c).getD c)

/-- What a text says up to the quote that ends it, and what follows. -/
def quoted? (a : Alphabet) (quote : Char) : List Char → Option (List Char × List Char)
  | [] => none
  | '\\' :: c :: rest =>
    match escaped? c with
    | some d => (quoted? a quote rest).map fun (s, rest) => (d :: s, rest)
    | none => none
  | c :: rest =>
    if c == quote then some ([], rest)
    else if c == '\\' || a.endsLine c then none
    else (quoted? a quote rest).map fun (s, rest) => (c :: s, rest)

/-- A character of a token without quotes, which ends at spacing and where it has to. -/
def isBare (stops : List Char) (c : Char) : Bool := !isSpacing c && !stops.contains c

/-- A decimal number: no zero stands before other digits. -/
def isDecimalLiteral (s : List Char) : Bool :=
  let whole := s.takeWhile Char.isDigit
  (whole == ['0'] || whole.headD '0' != '0') &&
    match s.dropWhile Char.isDigit with
    | [] => true
    | '.' :: fraction => fraction.all Char.isDigit
    | _ => false

/-- The key at the start of a text, and what follows. -/
def key? (a : Alphabet) : List Char → Option (List Char × List Char)
  | '\'' :: rest => quoted? a '\'' rest
  | '"' :: rest => quoted? a '"' rest
  | s =>
    if a.isIdentifier (s.takeWhile (isBare [':'])) then
      some (s.takeWhile (isBare [':']), s.dropWhile (isBare [':']))
    else none

/-- The value at the start of a text, and what follows; a number is read as its text. -/
def value? (a : Alphabet) : List Char → Option (List Char × List Char)
  | '\'' :: rest => quoted? a '\'' rest
  | s =>
    if isDecimalLiteral (s.takeWhile (isBare [',', '\x7d'])) then
      some (s.takeWhile (isBare [',', '\x7d']), s.dropWhile (isBare [',', '\x7d']))
    else none

/-- The key and the value of the property at the start of a text, and what follows. -/
def property? (a : Alphabet) (s : List Char) : Option ((List Char × List Char) × List Char) :=
  (key? a (skip s)).bind fun (key, rest) =>
    match skip rest with
    | ':' :: rest => (value? a (skip rest)).map fun (value, rest) => ((key, value), rest)
    | _ => none

/-! ## Literals -/

/-- The key that sets what an object inherits from. -/
def inherited : String := "__proto__"

/-- The entries that a property makes: none if it sets what the object inherits from. -/
def ownEntry (e : List Char × List Char) : List (String × String) :=
  if String.ofList e.1 = inherited then [] else [(String.ofList e.1, String.ofList e.2)]

/-- The properties up to the brace that ends a literal, as the entries that they make in turn. -/
inductive Members (a : Alphabet) : List Char → List (String × String) → Prop where
  | close {s} : skip s = ['\x7d'] → Members a s []
  | last {s e rest} : property? a s = some (e, rest) → skip rest = ['\x7d'] →
      Members a s (ownEntry e)
  | member {s e rest behind l} : property? a s = some (e, rest) → skip rest = ',' :: behind →
      Members a behind l → Members a s (ownEntry e ++ l)

/-- The literal of an object with the entries of a dictionary. -/
def Evaluates (a : Alphabet) (s : String) (d : Dict String) : Prop :=
  ∃ inside l, s.toList = '\x7b' :: inside ∧ Members a inside l ∧ Dict.ofList l = d

section
variable {a : Alphabet} {s rest tail : List Char}

/-- Where the literal closes there is no property. -/
theorem property?_of_close (h : skip s = ['\x7d']) : property? a s = none := by
  rw [property?, h]
  rfl

/-- Properties are read in one way. -/
theorem Members.unique {l m : List (String × String)} (hl : Members a s l) (hm : Members a s m) :
    l = m := by
  -- Both readings take the same step: a property that is read fixes what follows it.
  induction hl generalizing m with
  | close closed =>
    cases hm with
    | close => rfl
    | last read => rw [property?_of_close closed] at read; cases read
    | member read => rw [property?_of_close closed] at read; cases read
  | last read ends =>
    cases hm with
    | close closed => rw [property?_of_close closed] at read; cases read
    | last read' => rw [read] at read'; cases read'; rfl
    | member read' more =>
      rw [read] at read'
      cases read'
      rw [ends] at more
      cases more
  | member read more _ ih =>
    cases hm with
    | close closed => rw [property?_of_close closed] at read; cases read
    | last read' ends =>
      rw [read] at read'
      cases read'
      rw [ends] at more
      cases more
    | member read' more' below =>
      rw [read] at read'
      cases read'
      rw [more] at more'
      cases more'
      rw [ih below]

/-- A literal has the entries of at most one dictionary. -/
theorem Evaluates.unique {s : String} {d e : Dict String} (hd : Evaluates a s d)
    (he : Evaluates a s e) : d = e := by
  obtain ⟨inside, l, whole, members, rfl⟩ := hd
  obtain ⟨inside', m, whole', members', rfl⟩ := he
  rw [whole] at whole'
  cases whole'
  rw [members.unique members']

end

/-! ## Quotes -/

/-- The characters that are written for one between single quotes. -/
def escapeQuote (c : Char) : List Char :=
  if c = '\\' then ['\\', '\\'] else if c = '\'' then ['\\', '\''] else [c]

/-- A quote and a backslash are written with a backslash before them, the rest as it is. -/
theorem replaceChar_quotes (c : Char) :
    replaceChar [('\\', "\\\\"), ('\'', "\\'")] c = escapeQuote c := by
  simp only [replaceChar, escapeQuote, List.lookup_cons, List.lookup_nil]
  repeat' split
  all_goals simp_all

/-- A text in single quotes, character by character. -/
theorem toList_singleQuoted (s : String) :
    (singleQuoted s).toList = '\'' :: (s.toList.flatMap escapeQuote ++ ['\'']) := by
  have quoted : singleQuoted s = "'" ++ replaceEach s [('\\', "\\\\"), ('\'', "\\'")] ++ "'" := rfl
  rw [quoted, String.toList_append, String.toList_append, toList_replaceEach (by decide),
    funext replaceChar_quotes]
  rfl

section
variable {a : Alphabet} {quote : Char} {s t rest : List Char}

/-- A character that is no backslash closes the quotes, ends the line or is taken as it is. -/
theorem quoted?_cons {c : Char} (h : c ≠ '\\') (s : List Char) :
    quoted? a quote (c :: s) =
      if c = quote then some ([], s)
      else if a.endsLine c then none
      else (quoted? a quote s).map fun (s, rest) => (c :: s, rest) := by
  rw [quoted?]
  · simp [h]
  · exact fun _ _ same => absurd same h

/-- What is written between single quotes is read back, if it does not go on in another line. -/
theorem quoted?_escapeQuote (s rest : List Char) :
    quoted? a '\'' (s.flatMap escapeQuote ++ '\'' :: rest) =
      if s.any a.endsLine then none else some (s, rest) := by
  induction s with
  | nil => rfl
  | cons c s ih =>
    rw [List.flatMap_cons, List.append_assoc, List.any_cons]
    -- One written character takes one step of the reader, with the backslash before it or without.
    have step : quoted? a '\'' (escapeQuote c ++ (s.flatMap escapeQuote ++ '\'' :: rest)) =
        if a.endsLine c then none
        else (quoted? a '\'' (s.flatMap escapeQuote ++ '\'' :: rest)).map
          fun (s, rest) => (c :: s, rest) := by
      by_cases backslash : c = '\\'
      · subst backslash
        have within : a.endsLine '\\' = false := by simp [Alphabet.endsLine]
        rw [within, if_neg Bool.false_ne_true]
        rfl
      by_cases apostrophe : c = '\''
      · subst apostrophe
        have within : a.endsLine '\'' = false := by simp [Alphabet.endsLine]
        rw [within, if_neg Bool.false_ne_true]
        rfl
      rw [escapeQuote, if_neg backslash, if_neg apostrophe, List.singleton_append,
        quoted?_cons backslash, if_neg apostrophe]
    rw [step, ih]
    cases a.endsLine c <;> cases s.any a.endsLine <;> rfl

/-- What is read between quotes is no longer than what stands there, and a colon there is read. -/
theorem exists_of_quoted? (h : quoted? a quote s = some (t, rest)) :
    ∃ inside, s = inside ++ quote :: rest ∧ t.length ≤ inside.length ∧
      (':' ∈ inside → ':' ∈ t) := by
  -- An escape takes two characters for one, so the text only gets shorter.
  fun_induction quoted? a quote s generalizing t rest with
  | case1 => cases h
  | case2 c s d escaped ih =>
    obtain ⟨⟨t, rest⟩, read, same⟩ := Option.map_eq_some_iff.1 h
    cases same
    obtain ⟨inside, rfl, short, colon⟩ := ih read
    refine ⟨'\\' :: c :: inside, rfl, ?_, fun mem => ?_⟩
    · simp only [List.length_cons]
      omega
    · rcases List.mem_cons.1 mem with same | mem
      · cases same
      · rcases List.mem_cons.1 mem with rfl | mem
        · cases escaped
          exact List.mem_cons_self
        · exact List.mem_cons_of_mem _ (colon mem)
  | case3 c s none_ => cases h
  | case4 c s other ends =>
    cases h
    rw [beq_iff_eq.1 ends]
    exact ⟨[], rfl, Nat.le_refl 0, fun mem => absurd mem List.not_mem_nil⟩
  | case5 => cases h
  | case6 c s other goes plain ih =>
    obtain ⟨⟨t, rest⟩, read, same⟩ := Option.map_eq_some_iff.1 h
    cases same
    obtain ⟨inside, rfl, short, colon⟩ := ih read
    refine ⟨c :: inside, rfl, Nat.succ_le_succ short, fun mem => ?_⟩
    exact (List.mem_cons.1 mem).elim (· ▸ List.mem_cons_self)
      fun mem => List.mem_cons_of_mem _ (colon mem)

end

/-! ## Values -/

section
variable {p : Char → Bool} {d : Char}

/-- What is taken before a character that stops does not depend on what follows it. -/
theorem takeWhile_before (hd : p d = false) (s t : List Char) :
    (s ++ d :: t).takeWhile p = s.takeWhile p := by
  induction s with
  | nil => exact List.takeWhile_cons_of_neg (by simp [hd])
  | cons c s ih =>
    rw [List.cons_append, List.takeWhile_cons, List.takeWhile_cons, ih]

/-- What is dropped before a character that stops does not depend on what follows it. -/
theorem dropWhile_before (hd : p d = false) (s t : List Char) :
    (s ++ d :: t).dropWhile p = s.dropWhile p ++ d :: t := by
  induction s with
  | nil => exact List.dropWhile_cons_of_neg (by simp [hd])
  | cons c s ih =>
    rw [List.cons_append, List.dropWhile_cons, List.dropWhile_cons, ih]
    split <;> rfl

end

/-- What is written for a value. -/
def valueText (v : String) : List Char := if isNumeric v then v.toList else (singleQuoted v).toList

/-- A value is read as it is: a number is a decimal number, and no other value goes on in another
line. -/
def IsPlainValue (a : Alphabet) (v : String) : Prop :=
  if isNumeric v then isDecimalLiteral v.toList = true else ∀ c ∈ v.toList, a.endsLine c = false

/-- A text that goes on behind a value: with a comma, or with spacing. -/
def EndsValue (s : List Char) : Prop := ∃ c rest, s = c :: rest ∧ (c = ',' ∨ c = ' ')

instance {a : Alphabet} : DecidablePred (IsPlainValue a) := fun v =>
  inferInstanceAs (Decidable (if isNumeric v then isDecimalLiteral v.toList = true
    else ∀ c ∈ v.toList, a.endsLine c = false))

section
variable {a : Alphabet} {v : String} {tail : List Char}

/-- A trimmed value has no line feed at its end. -/
theorem withoutLineFeed_of_isTrimmed {s : List Char} (h : IsTrimmed s) : withoutLineFeed s = s := by
  rw [withoutLineFeed]
  split
  next rest reversed =>
    have last : s.getLast? = some '\n' := by rw [← List.head?_reverse, reversed]; rfl
    have filled := h.last '\n' last
    cases filled
  next => rfl

/-- A number is a digit with digits and points behind it. -/
theorem exists_digit_of_isNumeric (trimmed : IsTrimmed v.toList) (h : isNumeric v = true) :
    ∃ c rest, v.toList = c :: rest ∧ isDecimal c = true ∧
      ∀ d ∈ v.toList, isDecimal d = true ∨ d = '.' := by
  rw [isNumeric, withoutLineFeed_of_isTrimmed trimmed] at h
  have whole := List.takeWhile_append_dropWhile (p := isDecimal) (l := v.toList)
  have before : ∀ d ∈ v.toList.takeWhile isDecimal, isDecimal d = true := fun d hd =>
    List.mem_takeWhile_imp hd
  -- Digits alone, or digits with a point and digits behind it.
  split at h
  next all =>
    rw [all, List.append_nil] at whole
    rw [whole] at before
    obtain ⟨c, rest, same⟩ := List.exists_cons_of_ne_nil (l := v.toList) fun none_ => by
      rw [none_] at h
      cases h
    exact ⟨c, rest, same, before c (same ▸ List.mem_cons_self), fun d hd => .inl (before d hd)⟩
  next fraction point =>
    rw [Bool.and_eq_true, Bool.and_eq_true, List.all_eq_true] at h
    obtain ⟨⟨first, -⟩, behind⟩ := h
    obtain ⟨c, rest, same⟩ := List.exists_cons_of_ne_nil (l := v.toList) fun none_ => by
      rw [none_] at point
      cases point
    rw [same, List.headD_cons] at first
    refine ⟨c, rest, same, first, fun d hd => ?_⟩
    rw [← whole, point, List.mem_append, List.mem_cons] at hd
    rcases hd with hd | rfl | hd
    · exact .inl (before d hd)
    · exact .inr rfl
    · exact .inl (behind d hd)
  next => cases h

/-- A digit or a point may stand without quotes and is no quote. -/
theorem isBare_of_digit {d : Char} (h : isDecimal d = true ∨ d = '.') :
    isBare [',', '\x7d'] d = true ∧ d ≠ '\'' := by
  have other : ∀ c ∈ '\'' :: ',' :: '\x7d' :: spacings, isDecimal c = false ∧ c ≠ '.' :=
    Lists.forall_mem_of_all (by decide)
  have foreign : d ∉ '\'' :: ',' :: '\x7d' :: spacings := fun mem =>
    h.elim (fun digit => by rw [(other d mem).1] at digit; cases digit) (other d mem).2
  simp only [List.mem_cons, not_or] at foreign
  obtain ⟨quote, comma, brace, spacing⟩ := foreign
  refine ⟨?_, quote⟩
  rw [isBare, isSpacing, Bool.and_eq_true, Bool.not_eq_true', Bool.not_eq_true']
  simp [spacing, comma, brace]

/-- What is written for a value is read as the value if it is plain, and not at all otherwise. -/
theorem value?_valueText (trimmed : IsTrimmed v.toList)
    (ends : EndsValue tail) : value? a (skip (' ' :: (valueText v ++ tail))) =
      if IsPlainValue a v then some (v.toList, tail) else none := by
  have space : isSpacing ' ' = true := by decide
  rw [skip, List.dropWhile_cons_of_pos space, valueText]
  -- A number is written bare and stops at the mark behind it; all else is written in quotes.
  cases numeric : isNumeric v with
  | true =>
    obtain ⟨c, rest, same, digit, each⟩ := exists_digit_of_isNumeric trimmed numeric
    obtain ⟨bare, quote⟩ := isBare_of_digit (.inl digit)
    obtain ⟨d, behind, rfl, stop⟩ := ends
    have stops : isBare [',', '\x7d'] d = false := by
      rcases stop with rfl | rfl <;> decide
    have solid : isSpacing c = false := by
      rw [isBare, Bool.and_eq_true, Bool.not_eq_true'] at bare
      exact bare.1
    have bares : ∀ d ∈ v.toList, isBare [',', '\x7d'] d = true := fun d hd =>
      (isBare_of_digit (each d hd)).1
    have start : (v.toList ++ d :: behind).dropWhile isSpacing = v.toList ++ d :: behind := by
      rw [same, List.cons_append, List.dropWhile_cons_of_neg (by simp [solid])]
    have plain : IsPlainValue a v ↔ isDecimalLiteral v.toList = true := by
      rw [IsPlainValue, if_pos numeric]
    rw [if_pos rfl, start]
    have token : value? a (v.toList ++ d :: behind) =
        if isDecimalLiteral v.toList then some (v.toList, d :: behind) else none := by
      rw [value?]
      · rw [takeWhile_append_cons bares stops, dropWhile_append_cons bares stops]
      · rintro rest' start
        rw [same] at start
        exact quote (List.cons.inj start).1
    rw [token]
    simp only [plain]
  | false =>
    have quote : isSpacing '\'' = false := by decide
    have plain : IsPlainValue a v ↔ v.toList.any a.endsLine = false := by
      rw [IsPlainValue, numeric, if_neg Bool.false_ne_true, List.any_eq_false]
      simp
    rw [if_neg Bool.false_ne_true, toList_singleQuoted, List.cons_append, List.append_assoc,
      List.singleton_append, List.dropWhile_cons_of_neg (by simp [quote])]
    show quoted? a '\'' _ = _
    rw [quoted?_escapeQuote]
    simp only [plain]
    cases v.toList.any a.endsLine <;> rfl

end

/-! ## Keys -/

section
variable {a : Alphabet} {k m t r behind : List Char}

/-- The characters that stand around keys. -/
def keyMarks : List Char := ':' :: '\'' :: '"' :: spacings

/-- What may stand in an identifier is none of the marks around a key. -/
theorem not_mem_keyMarks {p q : Char → Bool} (each : ∀ c ∈ keyMarks, p c = false) {c : Char}
    (h : (if c.toNat < 128 then p c else q c && !isSpacing c) = true) : c ∉ keyMarks := by
  have around : ∀ c ∈ keyMarks, c.toNat < 128 ∨ isSpacing c = true :=
    Lists.forall_mem_of_all (by decide)
  intro mem
  split at h
  next =>
    rw [each c mem] at h
    cases h
  next beyond =>
    rw [(around c mem).resolve_left beyond, Bool.not_true, Bool.and_false] at h
    cases h

/-- An identifier has characters, and none of them stands around keys. -/
theorem not_mem_of_isIdentifier (h : a.isIdentifier k = true) :
    k ≠ [] ∧ ∀ c ∈ k, c ∉ keyMarks := by
  cases k with
  | nil => cases h
  | cons c rest =>
    rw [Alphabet.isIdentifier, Bool.and_eq_true, List.all_eq_true] at h
    refine ⟨List.cons_ne_nil c rest, fun d hd => ?_⟩
    rcases List.mem_cons.1 hd with rfl | hd
    · exact not_mem_keyMarks (p := fun c => c.isAlpha || c == '_' || c == '$')
        (Lists.forall_mem_of_all (by decide)) h.1
    · exact not_mem_keyMarks (p := fun c => c.isAlphanum || c == '_' || c == '$')
        (Lists.forall_mem_of_all (by decide)) (h.2 d hd)

/-- What is none of the marks around a key may stand in one. -/
theorem isBare_of_not_mem {c : Char} (h : c ∉ keyMarks) : isBare [':'] c = true := by
  rw [keyMarks, List.mem_cons, List.mem_cons, List.mem_cons, not_or, not_or, not_or] at h
  rw [isBare, isSpacing, Bool.and_eq_true, Bool.not_eq_true', Bool.not_eq_true']
  simp [h.1, h.2.2.2]

/-- Blanks are skipped before a colon that stays. -/
theorem skip_before (s : List Char) (m : List Char) : skip (s ++ ':' :: m) = skip s ++ ':' :: m :=
  dropWhile_before (by decide) s m

/-- A text before a colon that has none of the marks is read as a key if it is an identifier. -/
theorem key?_of_not_mem (some_ : k ≠ []) (each : ∀ c ∈ k, c ∉ keyMarks) (m : List Char) :
    key? a (skip (' ' :: (k ++ ':' :: m))) =
      if a.isIdentifier k then some (k, ':' :: m) else none := by
  obtain ⟨c, rest, rfl⟩ := List.exists_cons_of_ne_nil some_
  have bare : ∀ d ∈ c :: rest, isBare [':'] d = true := fun d hd => isBare_of_not_mem (each d hd)
  have first := each c List.mem_cons_self
  rw [keyMarks, List.mem_cons, List.mem_cons, List.mem_cons, not_or, not_or, not_or] at first
  have solid : isSpacing c = false := by
    rw [isSpacing]
    simpa using first.2.2.2
  have start : skip (' ' :: (c :: rest ++ ':' :: m)) = c :: rest ++ ':' :: m := by
    rw [skip, List.dropWhile_cons_of_pos (by decide), List.cons_append,
      List.dropWhile_cons_of_neg (by simp [solid])]
  rw [start, key?]
  · rw [takeWhile_append_cons bare (by decide), dropWhile_append_cons bare (by decide)]
  · rintro rest' same
    exact first.2.1 (List.cons.inj same).1
  · rintro rest' same
    exact first.2.2.1 (List.cons.inj same).1

/-- What is read between quotes up to a colon either holds a colon or is shorter than what stands
before the first colon. -/
theorem colon_or_of_quoted? {quote : Char} (other : quote ≠ ':') (hk : ':' ∉ k)
    (read : quoted? a quote (k ++ ':' :: m) = some (t, r)) (colon : skip r = ':' :: behind) :
    ':' ∈ t ∨ (behind = m ∧ t.length ≤ k.length) := by
  obtain ⟨inside, whole, short, held⟩ := exists_of_quoted? read
  by_cases mem : ':' ∈ inside
  · exact .inl (held mem)
  · have spaces : ':' ∉ r.takeWhile isSpacing := fun mem => by
      have spacing := List.mem_takeWhile_imp mem
      revert spacing
      decide
    have split : r = r.takeWhile isSpacing ++ ':' :: behind := by
      rw [← colon, skip, List.takeWhile_append_dropWhile]
    have before : ':' ∉ inside ++ quote :: r.takeWhile isSpacing := by
      rw [List.mem_append, List.mem_cons, not_or, not_or]
      exact ⟨mem, other.symm, spaces⟩
    have cut := cutAt_append_cons m hk
    rw [whole, split, ← List.cons_append, ← List.append_assoc,
      cutAt_append_cons behind before] at cut
    cases cut
    refine .inr ⟨rfl, ?_⟩
    rw [List.length_append]
    omega

/-- What is read for a key up to a colon either holds a colon itself or ends at the first colon, and
then it is not the whole text before the colon unless that is an identifier. -/
theorem colon_or_of_key? (hk : ':' ∉ k)
    (read : key? a (skip (' ' :: (k ++ ':' :: m))) = some (t, r))
    (colon : skip r = ':' :: behind) :
    ':' ∈ t ∨ (behind = m ∧ (t = k → a.isIdentifier k = true)) := by
  have foreign : ':' ∉ skip k := fun mem => hk ((List.dropWhile_sublist _).mem mem)
  have short : (skip k).length ≤ k.length := (List.dropWhile_sublist _).length_le
  have start : skip (' ' :: (k ++ ':' :: m)) = skip k ++ ':' :: m := by
    rw [← skip_before, skip, List.dropWhile_cons_of_pos (by decide)]
    rfl
  -- behind an opening quote the key is shorter than the text, which has the quote
  have between {quote : Char} (other : quote ≠ ':') {rest : List Char}
      (opens : skip k ++ ':' :: m = quote :: rest) (read : quoted? a quote rest = some (t, r)) :
      ':' ∈ t ∨ (behind = m ∧ (t = k → a.isIdentifier k = true)) := by
    cases head : skip k with
    | nil =>
      rw [head] at opens
      exact absurd (List.cons.inj opens).1.symm other
    | cons c k' =>
      rw [head] at opens foreign short
      obtain ⟨-, rfl⟩ := List.cons.inj opens
      rcases colon_or_of_quoted? other (fun mem => foreign (List.mem_cons_of_mem c mem)) read colon
        with held | ⟨same, shorter⟩
      · exact .inl held
      · refine .inr ⟨same, fun whole => ?_⟩
        rw [List.length_cons] at short
        rw [whole] at shorter
        omega
  rw [start] at read
  -- A key in quotes of either kind, or a bare one, which has to be an identifier.
  unfold key? at read
  split at read
  next rest opens => exact between (by decide) opens read
  next rest opens => exact between (by decide) opens read
  next =>
    rw [takeWhile_before (by decide), dropWhile_before (by decide)] at read
    split at read
    next identifier =>
      cases read
      rw [skip_before] at colon
      have nothing : skip ((skip k).dropWhile (isBare [':'])) = [] := by
        cases rest : skip ((skip k).dropWhile (isBare [':'])) with
        | nil => rfl
        | cons c more =>
          rw [rest] at colon
          have mem : c ∈ skip k := (List.dropWhile_sublist _).mem
            ((List.dropWhile_sublist _).mem (rest ▸ List.mem_cons_self))
          rw [(List.cons.inj colon).1] at mem
          exact absurd mem foreign
      rw [nothing] at colon
      exact .inr ⟨(List.cons.inj colon).2.symm, fun whole => whole ▸ identifier⟩
    next => cases read

end

/-! ## Entries -/

/-- An entry that a literal can say: its name is an identifier that makes an entry, and its value is
read as it is. -/
structure CanStand (a : Alphabet) (e : String × String) : Prop where
  name : a.isIdentifier e.1.toList = true
  own : e.1 ≠ inherited
  value : IsPlainValue a e.2

/-- What is written for an entry. -/
def entryChars (e : String × String) : List Char := e.1.toList ++ ':' :: ' ' :: valueText e.2

/-- What is written behind an entry: a comma and a space before each other one, then the end. -/
def behindEntry : List (String × String) → List Char
  | [] => [' ', '\x7d']
  | e :: rest => ',' :: ' ' :: (entryChars e ++ behindEntry rest)

/-- What is written behind an entry ends its value. -/
theorem endsValue_behindEntry (l : List (String × String)) : EndsValue (behindEntry l) := by
  cases l with
  | nil => exact ⟨' ', _, rfl, .inr rfl⟩
  | cons e rest => exact ⟨',', _, rfl, .inl rfl⟩

/-- A literal is an opening brace, its first entry and what is written behind it. -/
theorem toList_literal (e : String × String) (rest : List (String × String)) :
    (literal (e :: rest)).toList = '\x7b' :: ' ' :: (entryChars e ++ behindEntry rest) := by
  have one (e : String × String) : (entryText e.1 e.2).toList = entryChars e := by
    rw [entryText, entryChars, valueText, String.toList_append, String.toList_append, apply_ite
      String.toList, List.append_assoc]
    rfl
  have joined (e : String × String) (rest : List (String × String)) :
      (join ", " ((e :: rest).map fun e => entryText e.1 e.2) ++ " \x7d").toList =
        entryChars e ++ behindEntry rest := by
    induction rest generalizing e with
    | nil =>
      rw [String.toList_append]
      exact congrArg (· ++ _) (one e)
    | cons f rest ih =>
      rw [List.map_cons, List.map_cons, join, String.append_assoc, String.append_assoc,
        String.toList_append, String.toList_append]
      exact congrArg₂ (· ++ ·) (one e) (congrArg (", ".toList ++ ·) (ih f))
  have whole : literal (e :: rest) =
      "\x7b " ++ (join ", " ((e :: rest).map fun e => entryText e.1 e.2) ++ " \x7d") :=
    String.append_assoc ..
  rw [whole, String.toList_append, joined]
  rfl

section
variable {a : Alphabet} {e : String × String} {read : List Char × List Char}
  {tail rest : List Char}

/-- An entry that can stand in a literal is read back as it was. -/
theorem property?_of_canStand (h : CanStand a e) (trimmed : IsTrimmed e.2.toList)
    (ends : EndsValue tail) : property? a (' ' :: (entryChars e ++ tail)) =
      some ((e.1.toList, e.2.toList), tail) := by
  have colon : skip (':' :: ' ' :: (valueText e.2 ++ tail)) =
      ':' :: ' ' :: (valueText e.2 ++ tail) := List.dropWhile_cons_of_neg (by decide)
  rw [property?, entryChars, List.append_assoc, List.cons_append, List.cons_append,
    key?_of_not_mem (not_mem_of_isIdentifier h.name).1 (not_mem_of_isIdentifier h.name).2,
    if_pos h.name]
  simp only [Option.bind_some, colon, value?_valueText trimmed ends, if_pos h.value,
    Option.map_some]

/-- The property that is read for an entry has a colon in its key, or it ends where the entry ends
and has its value, and its key is that of the entry only if this is an identifier. -/
theorem colon_or_of_property? (key : ':' ∉ e.1.toList) (trimmed : IsTrimmed e.2.toList)
    (ends : EndsValue tail)
    (h : property? a (' ' :: (entryChars e ++ tail)) = some (read, rest)) :
    ':' ∈ read.1 ∨ (rest = tail ∧ IsPlainValue a e.2 ∧
      (read.1 = e.1.toList → a.isIdentifier e.1.toList = true)) := by
  rw [property?, entryChars, List.append_assoc, List.cons_append, List.cons_append,
    Option.bind_eq_some_iff] at h
  obtain ⟨⟨t, r⟩, keyed, h⟩ := h
  dsimp only at h
  split at h
  next behind colon =>
    obtain ⟨⟨v, r'⟩, valued, same⟩ := Option.map_eq_some_iff.1 h
    cases same
    rcases colon_or_of_key? key keyed colon with held | ⟨rfl, whole⟩
    · exact .inl held
    · rw [value?_valueText trimmed ends] at valued
      split at valued
      next plain =>
        cases valued
        exact .inr ⟨rfl, plain, whole⟩
      next => cases valued
  next => cases h

/-- A property that is read gives one entry at most. -/
theorem length_ownEntry_le (read : List Char × List Char) : (ownEntry read).length ≤ 1 := by
  rw [ownEntry]
  split
  · exact Nat.zero_le 1
  · exact Nat.le_refl 1

/-- A property with a colon in its key gives an entry with one. -/
theorem key_mem_ownEntry (h : ':' ∈ read.1) : ∃ f ∈ ownEntry read, ':' ∈ f.1.toList := by
  rw [ownEntry, if_neg]
  · refine ⟨_, List.mem_singleton_self _, ?_⟩
    rw [String.toList_ofList]
    exact h
  · intro same
    have chars := congrArg String.toList same
    rw [String.toList_ofList] at chars
    rw [chars] at h
    revert h
    decide

/-- The entry a property gives has its key and value, and is not the inherited one. -/
theorem ownEntry_eq_singleton {f : String × String} (h : ownEntry read = [f]) :
    read.1 = f.1.toList ∧ f.1 ≠ inherited := by
  rw [ownEntry] at h
  split at h
  next => cases h
  next other =>
    cases h
    exact ⟨String.toList_ofList.symm, other⟩

/-- Where the entries behind a property are no more than those due, the property gives the first. -/
theorem ownEntry_append_eq_cons {e : String × String} {l more : List (String × String)}
    (h : ownEntry read ++ more = e :: l) (bound : more.length ≤ l.length) :
    ownEntry read = [e] ∧ more = l := by
  have short := length_ownEntry_le read
  have all := congrArg List.length h
  rw [List.length_append, List.length_cons] at all
  exact List.append_inj (List.singleton_append ▸ h) (by rw [List.length_singleton]; omega)

end

/-! ## Maps of styles -/

section
variable {a : Alphabet}

/-- Entries that can stand in a literal are read as they are. -/
theorem members_of_canStand : ∀ {e : String × String} {l : List (String × String)},
    (∀ f ∈ e :: l, CanStand a f ∧ IsTrimmed f.2.toList) →
    Members a (' ' :: (entryChars e ++ behindEntry l)) (e :: l)
  | e, l, h => by
    obtain ⟨stands, trimmed⟩ := h e List.mem_cons_self
    have read := property?_of_canStand stands trimmed (endsValue_behindEntry l)
    have own : ownEntry (e.1.toList, e.2.toList) = [e] := by
      rw [ownEntry, if_neg (by rw [String.ofList_toList]; exact stands.own), String.ofList_toList,
        String.ofList_toList]
    cases l with
    | nil =>
      have last : Members a _ _ := .last read (by decide)
      rwa [own] at last
    | cons f rest =>
      have more : skip (behindEntry (f :: rest)) =
          ',' :: ' ' :: (entryChars f ++ behindEntry rest) :=
        List.dropWhile_cons_of_neg (by decide)
      have members : Members a _ _ := .member read more
        (members_of_canStand fun g hg => h g (List.mem_cons_of_mem e hg))
      rwa [own] at members

/-- Where no key that is read has a colon, no more entries are read than were written; if they are
those that were written, each of these can stand in a literal. -/
theorem canStand_of_members : ∀ {e : String × String} {l m : List (String × String)},
    (∀ f ∈ e :: l, ':' ∉ f.1.toList ∧ IsTrimmed f.2.toList) → (∀ f ∈ m, ':' ∉ f.1.toList) →
    Members a (' ' :: (entryChars e ++ behindEntry l)) m →
    m.length ≤ l.length + 1 ∧ (m = e :: l → ∀ f ∈ e :: l, CanStand a f)
  | e, l, m, plain, keys, members => by
    obtain ⟨key, trimmed⟩ := plain e List.mem_cons_self
    -- As no key that was read has a colon, each property ends where the written entry does.
    have aligned {read : List Char × List Char} {rest : List Char}
        (none_ : ∀ f ∈ ownEntry read, ':' ∉ f.1.toList)
        (h : property? a (' ' :: (entryChars e ++ behindEntry l)) = some (read, rest)) :=
      (colon_or_of_property? key trimmed (endsValue_behindEntry l) h).resolve_left fun held => by
        obtain ⟨f, hf, colon⟩ := key_mem_ownEntry held
        exact none_ f hf colon
    cases members with
    | close => exact ⟨Nat.zero_le _, fun same => by cases same⟩
    | @last _ read rest property ends =>
      obtain ⟨rfl, value, identifier⟩ := aligned keys property
      have short := length_ownEntry_le read
      refine ⟨by omega, fun same => ?_⟩
      cases l with
      | nil =>
        obtain ⟨whole, own⟩ := ownEntry_eq_singleton same
        rintro f hf
        rw [List.mem_singleton.1 hf]
        exact ⟨identifier whole, own, value⟩
      | cons f l =>
        rw [same] at short
        simp at short
    | @member _ read rest behind more property comma below =>
      obtain ⟨rfl, value, identifier⟩ := aligned
        (fun f hf => keys f (List.mem_append_left _ hf)) property
      cases l with
      | nil =>
        have space : skip (behindEntry []) = ['\x7d'] := by decide
        rw [space] at comma
        cases comma
      | cons f l =>
        have start : skip (behindEntry (f :: l)) =
            ',' :: ' ' :: (entryChars f ++ behindEntry l) :=
          List.dropWhile_cons_of_neg (by decide)
        rw [start] at comma
        cases comma
        obtain ⟨bound, rest⟩ := canStand_of_members
          (fun g hg => plain g (List.mem_cons_of_mem e hg))
          (fun g hg => keys g (List.mem_append_right _ hg)) below
        have short := length_ownEntry_le read
        refine ⟨by rw [List.length_append, List.length_cons]; omega, fun same => ?_⟩
        obtain ⟨single, others⟩ := ownEntry_append_eq_cons same bound
        obtain ⟨whole, own⟩ := ownEntry_eq_singleton single
        rintro f' hf'
        rcases List.mem_cons.1 hf' with rfl | hf'
        · exact ⟨identifier whole, own, value⟩
        · exact rest others f' hf'

/-- The literal that is written for a style has the entries of the style exactly if each of them can
stand in a literal. -/
theorem literal_evaluates_iff (a : Alphabet) (s : String) :
    Evaluates a (literal (Style.parse s).entries) (Style.parse s) ↔
      ∀ e ∈ (Style.parse s).entries, CanStand a e := by
  have entry : ∀ e ∈ (Style.parse s).entries, ':' ∉ e.1.toList ∧ IsTrimmed e.2.toList :=
    fun e he => ⟨(Style.isEntry_of_mem_parse he).name.colon,
      (Style.isEntry_of_mem_parse he).value.trimmed⟩
  constructor
  · rintro ⟨inside, l, whole, members, same⟩
    cases entries : (Style.parse s).entries with
    | nil => exact fun e he => absurd he List.not_mem_nil
    | cons e rest =>
      rw [entries, toList_literal] at whole
      cases whole
      have keys : ∀ f ∈ l, ':' ∉ f.1.toList := fun f hf => by
        have known : f.1 ∈ (Style.parse s).keys :=
          same ▸ Dict.mem_keys_ofList.2 (List.mem_map_of_mem hf)
        obtain ⟨g, hg, name⟩ := List.mem_map.1 known
        rw [← name]
        exact (entry g hg).1
      obtain ⟨bound, stands⟩ := canStand_of_members (entries ▸ entry) keys members
      -- as many are read as were written, so no key is read twice
      have inside : (Style.parse s).entries ⊆ l := fun f hf =>
        Dict.mem_of_mem_ofList (same ▸ hf)
      have perm : (Style.parse s).entries.Perm l :=
        (List.Nodup.of_map Prod.fst (Style.parse s).distinct).subperm inside |>.perm_of_length_le
          (by rw [entries]; exact bound)
      have distinct : (l.map Prod.fst).Nodup :=
        (perm.map Prod.fst).nodup_iff.1 (Style.parse s).distinct
      have list := Dict.entries_ofList distinct
      rw [same, entries] at list
      exact stands list.symm
  · intro stands
    have written : Dict.ofList (Style.parse s).entries = Style.parse s :=
      Dict.ext_entries (Dict.entries_ofList (Style.parse s).distinct)
    cases entries : (Style.parse s).entries with
    | nil =>
      rw [entries] at written
      exact ⟨[' ', ' ', '\x7d'], [], rfl, .close (by decide), written⟩
    | cons e rest =>
      rw [entries] at written stands entry
      exact ⟨_, _, toList_literal e rest,
        members_of_canStand fun f hf => ⟨stands f hf, (entry f hf).2⟩, written⟩

/-- The name of a property of the user keeps a dash in front, and a key without quotes has none. -/
theorem property_of_user_is_no_key :
    literal (Style.parse "--main: red").entries = "\x7b -Main: 'red' \x7d" ∧
    ¬ ∃ (a : Alphabet) (d : Dict String),
      Evaluates a (literal (Style.parse "--main: red").entries) d := by
  have entries : (Style.parse "--main: red").entries = [("-Main", "red")] := by decide +kernel
  rw [entries]
  refine ⟨by decide +kernel, ?_⟩
  rintro ⟨a, d, inside, l, whole, members, -⟩
  rw [toList_literal] at whole
  cases whole
  have dash : a.isIdentifier "-Main".toList = false := by
    have chars : "-Main".toList = ['-', 'M', 'a', 'i', 'n'] := by decide
    rw [chars]
    rfl
  have unread : property? a (' ' :: (entryChars ("-Main", "red") ++ behindEntry [])) = none := by
    rw [property?, entryChars, List.append_assoc, List.cons_append, List.cons_append,
      key?_of_not_mem (by decide) (Lists.forall_mem_of_all (by decide)), dash]
    rfl
  cases members with
  | close closed =>
    have start : skip (' ' :: (entryChars ("-Main", "red") ++ behindEntry [])) ≠ ['\x7d'] := by
      decide
    exact start closed
  | last read => rw [unread] at read; cases read
  | member read => rw [unread] at read; cases read

end

end Componentry.Jsx
