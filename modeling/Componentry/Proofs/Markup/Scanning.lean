import Componentry.Proofs.Markup.Reference
import Componentry.Proofs.Markup.Tidy

/-!
# Scanning markup that was written

Each piece of markup that a page is written with is scanned by itself: a text up to the tag behind
it, a start tag with its attributes, an end tag and a comment. What was scanned stands before what
the scan gives of the rest, so the pieces follow one another.
-/

set_option autoImplicit false

namespace Componentry.Markup
open Componentry.Text Componentry.Attributes

/-! ## Scans -/

/-- Scanning characters gives tokens and goes on at the rest, outside of raw elements. -/
def Scans (s : List Char) (tokens : List Token) (rest : List Char) : Prop :=
  ∀ final more left, pass final none rest = .ok (more, left) →
    pass final none s = .ok (tokens ++ more, left)

namespace Scans
variable {s t rest : List Char} {tokens more : List Token}

/-- No token is read of nothing. -/
theorem refl (s : List Char) : Scans s [] s := fun _ _ _ h => h

/-- Two scans in a row make one. -/
theorem trans (first : Scans s tokens t) (second : Scans t more rest) :
    Scans s (tokens ++ more) rest := by
  intro final last left h
  rw [List.append_assoc]
  exact first final _ left (second final last left h)

/-- A single reading is a scan. -/
theorem of_read (h : ∀ final, read final none s = .next tokens none rest)
    (shorter : rest.length < s.length) : Scans s tokens rest := by
  intro final more left read
  rw [pass, h final]
  dsimp only
  rw [if_pos shorter, read]

/-- A text that is scanned to its end has the tokens of the scan. -/
theorem scan_eq (h : Scans s tokens []) : Token.scan s = .ok tokens := by
  have nothing (final : Bool) : pass final none [] = .ok ([], none, []) := by
    rw [pass]
    rfl
  rw [Token.scan, h false [] (none, []) (nothing false)]
  simp only [bind, Except.bind, nothing true, List.append_nil]
  exact congrArg Except.ok (List.append_nil tokens)

end Scans

/-! ## Texts -/

/-- A character that stands for itself in a text. -/
def isUnescaped (c : Char) : Bool := !escaped.contains c

/-- Behind characters that stand for themselves comes one that starts markup. -/
theorem exists_startsMarkup (s rest : List Char) : ∃ d behind, startsMarkup d = true ∧
    (s.dropWhile isUnescaped).flatMap escapeChar ++ '<' :: rest = d :: behind := by
  cases dropped : s.dropWhile isUnescaped with
  | nil => exact ⟨'<', rest, rfl, rfl⟩
  | cons e more =>
    have special : e ∈ escaped := by
      have first := List.head?_dropWhile_not isUnescaped s
      rw [dropped] at first
      have found : isUnescaped e = false := first
      rwa [isUnescaped, Bool.not_eq_false', List.contains_iff_mem] at found
    simp only [escaped, List.mem_cons, List.not_mem_nil, or_false] at special
    rw [List.flatMap_cons]
    rcases special with rfl | rfl | rfl <;> exact ⟨'&', _, rfl, rfl⟩

/-- A character that stands for itself starts no markup. -/
theorem not_startsMarkup {c : Char} (h : isUnescaped c = true) : (!startsMarkup c) = true := by
  rw [isUnescaped, Bool.not_eq_true', ← Bool.not_eq_true, List.contains_iff_mem] at h
  simp only [escaped, List.mem_cons, not_or] at h
  simp [startsMarkup, h]

/-- Characters that stand for themselves are written as they are. -/
theorem flatMap_escapeChar_of_isUnescaped : ∀ {s : List Char}, (∀ c ∈ s, isUnescaped c = true) →
    s.flatMap escapeChar = s
  | [], _ => rfl
  | c :: s, plain => by
    have first := plain c List.mem_cons_self
    rw [isUnescaped, Bool.not_eq_true', ← Bool.not_eq_true, List.contains_iff_mem] at first
    rw [List.flatMap_cons, escapeChar_of_not_mem first, flatMap_escapeChar_of_isUnescaped
      fun d hd => plain d (List.mem_cons_of_mem c hd)]
    rfl

/-- Characters that stand for themselves are read at once. -/
theorem scans_run {c : Char} (hc : isUnescaped c = true) (s rest : List Char) :
    Scans ((c :: s).flatMap escapeChar ++ '<' :: rest)
      [.data (c :: s.takeWhile isUnescaped)]
      ((s.dropWhile isUnescaped).flatMap escapeChar ++ '<' :: rest) := by
  have run : ∀ d ∈ c :: s.takeWhile isUnescaped, isUnescaped d = true := by
    intro d hd
    rcases List.mem_cons.1 hd with rfl | hd
    · exact hc
    · exact List.mem_takeWhile_imp hd
  have written : (c :: s).flatMap escapeChar ++ '<' :: rest =
      (c :: s.takeWhile isUnescaped) ++
        ((s.dropWhile isUnescaped).flatMap escapeChar ++ '<' :: rest) := by
    conv_lhs => rw [← List.takeWhile_append_dropWhile (p := isUnescaped) (l := s)]
    rw [← List.cons_append, List.flatMap_append, flatMap_escapeChar_of_isUnescaped run,
      List.append_assoc]
  obtain ⟨d, behind, starts, eq⟩ := exists_startsMarkup s rest
  rw [written, eq]
  have shorter : (d :: behind).length <
      ((c :: s.takeWhile isUnescaped) ++ d :: behind).length := by
    rw [List.length_append]
    exact Nat.lt_add_of_pos_left (Nat.succ_pos _)
  refine Scans.of_read (fun final => ?_) shorter
  have plain : ∀ e ∈ s.takeWhile isUnescaped, (!startsMarkup e) = true := fun e he =>
    not_startsMarkup (List.mem_takeWhile_imp he)
  have first := not_startsMarkup hc
  rw [startsMarkup, Bool.not_eq_true', Bool.or_eq_false_iff] at first
  rw [List.cons_append, read, if_neg (by simp [first.1]), if_neg (by simp [first.2]),
    List.takeWhile_append_of_pos plain, List.dropWhile_append_of_pos plain,
    List.takeWhile_cons_of_neg (by simp [starts]), List.dropWhile_cons_of_neg (by simp [starts]),
    List.append_nil]

/-- What a text is read in, up to the tag behind it. -/
theorem exists_scans_text (rest : List Char) : ∀ s : List Char, ∃ pieces : List (List Char),
    Scans (s.flatMap escapeChar ++ '<' :: rest) (pieces.map Token.data) ('<' :: rest) ∧
      pieces.flatten = s
  | [] => ⟨[], Scans.refl _, rfl⟩
  | c :: s => by
    by_cases special : c ∈ escaped
    · obtain ⟨pieces, scans, whole⟩ := exists_scans_text rest s
      refine ⟨[c] :: pieces, ?_, by rw [List.flatten_cons, whole]; rfl⟩
      rw [List.flatMap_cons, List.append_assoc]
      refine (Scans.of_read (fun final => read_escapeChar special final _) ?_).trans scans
      have some_ := length_escapeChar_pos c
      simp only [List.length_append]
      omega
    · have plain : isUnescaped c = true := by simpa [isUnescaped] using special
      obtain ⟨pieces, scans, whole⟩ := exists_scans_text rest (s.dropWhile isUnescaped)
      refine ⟨(c :: s.takeWhile isUnescaped) :: pieces, (scans_run plain s rest).trans scans, ?_⟩
      rw [List.flatten_cons, whole, List.cons_append, List.takeWhile_append_dropWhile]
termination_by s => s.length
decreasing_by
  · simp
  · have := List.length_dropWhile_le isUnescaped s
    simp
    omega

/-! ## Names -/

/-- A small letter, a digit or a mark that names are joined with. -/
def isNameLetter (c : Char) : Bool :=
  c.isLower || c.isDigit || c == '-' || c == '_' || c == ':'

/-- A name of an attribute. -/
def isAttributeName (s : String) : Bool := !s.toList.isEmpty && s.toList.all isNameLetter

/-- A name of an element is a small letter with small letters, digits and hyphens behind it. -/
def isElementName (s : String) : Bool :=
  match s.toList with
  | [] => false
  | c :: rest => c.isLower && rest.all fun d => d.isLower || d.isDigit || d == '-'

/-- The characters of names are ASCII characters that no tag and no value ends at, and that lower
case leaves as they are. -/
structure IsInName (c : Char) : Prop where
  blank : isBlank c = false
  inTag : endsTagName c = false
  inEnd : isEndNameChar c = true
  inAttribute : isAttributeNameChar c = true
  others : c ≠ '=' ∧ c ≠ '/' ∧ c ≠ '>'
  settled : IsSettled c

/-- A letter of names is in names of elements and of attributes. -/
theorem isInName_of_isNameLetter {c : Char} (h : isNameLetter c = true) : IsInName c := by
  have ascii : c.toNat < 128 := by
    simp only [isNameLetter, Bool.or_eq_true, beq_iff_eq] at h
    rcases h with (((lower | digit) | rfl) | rfl) | rfl
    · refine toNat_lt_of_isAsciiAlnum ?_
      delta isAsciiAlnum Char.isAlphanum Char.isAlpha
      rw [lower, Bool.or_true, Bool.true_or]
    · exact toNat_lt_of_isAsciiAlnum (isAsciiAlnum_of_isDigit digit)
    all_goals decide
  have each : isNameLetter c = true → isBlank c = false ∧ endsTagName c = false ∧
      isEndNameChar c = true ∧ isAttributeNameChar c = true ∧ (c ≠ '=' ∧ c ≠ '/' ∧ c ≠ '>') ∧
      c.toNat ≠ 0x3A3 ∧ lowerChar c = [c] :=
    of_ascii (p := fun c => isNameLetter c = true → isBlank c = false ∧ endsTagName c = false ∧
      isEndNameChar c = true ∧ isAttributeNameChar c = true ∧ (c ≠ '=' ∧ c ≠ '/' ∧ c ≠ '>') ∧
      c.toNat ≠ 0x3A3 ∧ lowerChar c = [c]) (by decide) ascii
  obtain ⟨blank, inTag, inEnd, inAttribute, others, sigma, lower⟩ := each h
  exact ⟨blank, inTag, inEnd, inAttribute, others, sigma, lower⟩

/-- A name of an attribute has only letters of names. -/
theorem isNameLetter_of_isAttributeName {s : String} (h : isAttributeName s = true) :
    ∀ c ∈ s.toList, isNameLetter c = true := by
  rw [isAttributeName, Bool.and_eq_true] at h
  exact List.all_eq_true.1 h.2

/-- A name of an attribute is not empty. -/
theorem ne_nil_of_isAttributeName {s : String} (h : isAttributeName s = true) : s.toList ≠ [] := by
  rw [isAttributeName, Bool.and_eq_true] at h
  intro none_
  rw [none_] at h
  cases h.1

/-- A name of an element starts with a letter, and has only letters of names. -/
theorem isNameLetter_of_isElementName {s : String} (h : isElementName s = true) :
    ∃ c rest, s.toList = c :: rest ∧ isAsciiLetter c = true ∧
      ∀ d ∈ s.toList, isNameLetter d = true := by
  rw [isElementName] at h
  split at h
  · cases h
  next c rest whole =>
    obtain ⟨first, others⟩ := Bool.and_eq_true_iff.1 h
    refine ⟨c, rest, whole, ?_, fun d hd => ?_⟩
    · delta isAsciiLetter Char.isAlpha
      rw [first, Bool.or_true]
    · rw [whole] at hd
      rcases List.mem_cons.1 hd with rfl | hd
      · simp [isNameLetter, first]
      · have letter := List.all_eq_true.1 others d hd
        rw [Bool.or_eq_true, Bool.or_eq_true] at letter
        rcases letter with (letter | letter) | letter <;> simp [isNameLetter, letter]

/-- Lower case leaves a name as it is. -/
theorem lower_ofList_of_isNameLetter {s : String} (h : ∀ c ∈ s.toList, isNameLetter c = true) :
    lower (String.ofList s.toList) = s := by
  rw [lower, String.toList_ofList, lowerChars, lowerFrom_of_isSettled [] s.toList fun c hc =>
    (isInName_of_isNameLetter (h c hc)).settled, String.ofList_toList]

/-! ## End tags and comments -/

/-- A tag is scanned in one step. -/
theorem Scans.of_readTag {s rest : List Char} {tokens : List Token}
    (h : readTag ('<' :: s) = .next tokens none rest) (shorter : rest.length < s.length + 1) :
    Scans ('<' :: s) tokens rest := by
  refine of_read (fun final => ?_) shorter
  rw [read, if_pos (beq_self_eq_true _), h]

/-- An end tag is scanned by itself. -/
theorem scans_endTag {name : String} (h : isElementName name = true) (rest : List Char) :
    Scans ('<' :: '/' :: (name.toList ++ '>' :: rest)) [.finish name] rest := by
  obtain ⟨c, behind, whole, letter, each⟩ := isNameLetter_of_isElementName h
  have name_ : ∀ d ∈ behind, isEndNameChar d = true := fun d hd =>
    (isInName_of_isNameLetter (each d (whole ▸ List.mem_cons_of_mem c hd))).inEnd
  have blank : isBlank c = false :=
    (isInName_of_isNameLetter (each c (whole ▸ List.mem_cons_self))).blank
  have lowered := lower_ofList_of_isNameLetter each
  rw [whole] at lowered
  have plain : plainEnd? (c :: (behind ++ '>' :: rest)) = some (name, rest) := by
    rw [plainEnd?, List.dropWhile_cons_of_neg (by simp [blank])]
    dsimp only
    rw [if_pos letter, dropWhile_append_cons name_ rfl, takeWhile_append_cons name_ rfl,
      List.dropWhile_cons_of_neg (by decide), lowered]
    rfl
  have finish : readTag ('<' :: '/' :: c :: (behind ++ '>' :: rest)) =
      .next [.finish name] none rest := by
    rw [readTag]
    unfold readFinish
    rw [plain]
  rw [whole]
  refine Scans.of_readTag finish ?_
  simp only [List.length_cons, List.length_append]
  omega

/-- What does not end a comment does not do so for the end that follows it. -/
theorem commentEnd?_append {c : Char} {s : List Char} (open_ : commentEnd? (c :: s) = none)
    (rest : List Char) : commentEnd? (c :: s ++ '-' :: '-' :: '>' :: rest) = none := by
  rcases s with - | ⟨d, s⟩
  · by_cases first : c = '-'
    · subst first
      rfl
    · simp [commentEnd?, first]
  -- Two dashes and blanks could only be ended by a bracket, and the next character is a dash.
  · by_cases both : c = '-' ∧ d = '-'
    · obtain ⟨rfl, rfl⟩ := both
      have reaches : ∀ t, commentEnd? ('-' :: '-' :: t) = none ↔
          ∀ u, t.dropWhile isBlank ≠ '>' :: u := by
        intro t
        rw [commentEnd?]
        split
        next same => simp [same]
        next other => simpa using other
      rw [reaches] at open_
      show commentEnd? ('-' :: '-' :: (s ++ '-' :: '-' :: '>' :: rest)) = none
      rw [reaches, List.dropWhile_append]
      intro u
      split
      next => simp [isBlank]
      next some_ =>
        rw [List.isEmpty_iff] at some_
        obtain ⟨e, behind, left⟩ := List.exists_cons_of_ne_nil some_
        rw [left, List.cons_append]
        intro same
        obtain ⟨rfl, -⟩ := List.cons.inj same
        exact open_ behind left
    · rw [commentEnd?]
      intro t same
      simp only [List.cons_append, List.cons.injEq] at same
      exact both ⟨same.1, same.2.1⟩

/-- A text without the end of a comment goes up to the end that is written behind it. -/
theorem untilEnd_commentEnd? (rest : List Char) : ∀ {s : List Char}, HoldsNoEnd s →
    untilEnd commentEnd? (s ++ '-' :: '-' :: '>' :: rest) = some (s, rest)
  | [], _ => rfl
  | c :: s, open_ => by
    rw [HoldsNoEnd, untilEnd] at open_
    split at open_
    · cases open_
    next here =>
      have later := untilEnd_commentEnd? rest (Option.map_eq_none_iff.1 open_)
      rw [List.cons_append, untilEnd, ← List.cons_append, commentEnd?_append here, later]
      rfl

/-- A comment whose text does not hold the end of a comment is scanned by itself. -/
theorem scans_comment {s : List Char} (open_ : HoldsNoEnd s) (rest : List Char) :
    Scans ('<' :: '!' :: '-' :: '-' :: (s ++ '-' :: '-' :: '>' :: rest)) [.comment s] rest := by
  refine Scans.of_readTag ?_ (by simp; omega)
  rw [readTag, readDeclaration, untilEnd_commentEnd? rest open_]

/-! ## Start tags -/

/-- The value of an attribute between its quotation marks, nothing where it has none. -/
def rawValue : AttributeValue → List Char
  | .switch _ => []
  | .text s => (escapeValue s).toList

/-- The value of an attribute that is read back. -/
def readValue : AttributeValue → String
  | .switch _ => ""
  | .text s => s

/-- Attributes with a space before each of them. -/
def spaced (entries : List (String × AttributeValue)) : List Char :=
  entries.flatMap fun e => ' ' :: (writeEntry e.1 e.2).toList

/-- The attributes of a tag are written one after another, each behind a space. -/
theorem spaced_cons (e : String × AttributeValue) (entries : List (String × AttributeValue))
    (behind : List Char) : spaced (e :: entries) ++ behind =
      ' ' :: ((writeEntry e.1 e.2).toList ++ (spaced entries ++ behind)) := by
  rw [spaced, List.flatMap_cons, List.append_assoc]
  rfl

/-- The attributes of a start tag have names of attributes. -/
def AreNamed (entries : List (String × AttributeValue)) : Prop :=
  ∀ e ∈ entries, isAttributeName e.1 = true

section
variable {entries : List (String × AttributeValue)} {rest : List Char}

/-- Blanks and strokes between attributes are skipped, up to the end of the tag. -/
theorem skipGap_cons {c : Char} {rest : List Char} (other : ∀ t, c :: rest ≠ '/' :: '>' :: t)
    (before : Char) : skipGap before (c :: rest) =
      if isBlank c || c == '/' then skipGap c rest else (before, c :: rest) := by
  conv_lhs => unfold skipGap
  split
  next same => cases same
  next same => exact absurd same (other _)
  next same =>
    obtain ⟨rfl, rfl⟩ := List.cons.inj same
    rfl

/-- No gap is passed where something else starts. -/
theorem skipGap_of_not {c : Char} (blank : isBlank c = false) (slash : c ≠ '/') (before : Char)
    (rest : List Char) : skipGap before (c :: rest) = (before, c :: rest) := by
  rw [skipGap_cons fun t same => slash (List.cons.inj same).1, blank, Bool.false_or,
    if_neg (by simpa using slash)]

/-- A single space is passed. -/
theorem skipGap_space {c : Char} (blank : isBlank c = false) (slash : c ≠ '/') (before : Char)
    (rest : List Char) : skipGap before (' ' :: c :: rest) = (' ', c :: rest) := by
  have space : isBlank ' ' = true := by decide
  rw [skipGap_cons fun t same => absurd (List.cons.inj same).1 (by decide), space, Bool.true_or,
    if_pos rfl, skipGap_of_not blank slash]

/-- A text without the quote is read up to the quote. -/
theorem quoted?_append (rest : List Char) : ∀ {s : List Char}, '"' ∉ s →
    quoted? '"' (s ++ '"' :: rest) = some (s, rest)
  | [], _ => rfl
  | c :: s, h => by
    have other : c ≠ '"' := fun same => h (same ▸ List.mem_cons_self)
    rw [List.cons_append, quoted?, if_neg (by simpa using other),
      quoted?_append rest fun hc => h (List.mem_cons_of_mem c hc)]
    rfl

/-- The value in quotation marks behind an equals sign. -/
theorem value?_quoted {s : List Char} (h : '"' ∉ s) (rest : List Char) :
    value? ('=' :: '"' :: (s ++ '"' :: rest)) = some (s, '"', rest) := by
  have sign : ('=' :: '"' :: (s ++ '"' :: rest)).dropWhile isBlank =
      '=' :: '"' :: (s ++ '"' :: rest) := List.dropWhile_cons_of_neg (by decide)
  have one : ('=' :: '"' :: (s ++ '"' :: rest)).takeWhile (· == '=') = ['='] := by
    rw [List.takeWhile_cons_of_pos (by decide), List.takeWhile_cons_of_neg (by decide)]
  have behind : ('=' :: '"' :: (s ++ '"' :: rest)).dropWhile (· == '=') =
      '"' :: (s ++ '"' :: rest) := by
    rw [List.dropWhile_cons_of_pos (by decide), List.dropWhile_cons_of_neg (by decide)]
  have body : ('"' :: (s ++ '"' :: rest)).dropWhile isBlank = '"' :: (s ++ '"' :: rest) :=
    List.dropWhile_cons_of_neg (by decide)
  unfold value?
  simp only [sign, one, behind, body, quoted?_append rest h]
  rfl

/-- What stands behind an attribute starts with a space or ends the tag. -/
theorem exists_behind (entries : List (String × AttributeValue)) (rest : List Char) :
    ∃ d behind, (d = ' ' ∨ d = '>') ∧ spaced entries ++ '>' :: rest = d :: behind := by
  cases entries with
  | nil => exact ⟨'>', rest, .inr rfl, rfl⟩
  | cons e entries => exact ⟨' ', _, .inl rfl, rfl⟩

/-- What is written for an attribute behind its name. -/
def behindName : AttributeValue → List Char
  | .switch _ => []
  | .text s => '=' :: '"' :: ((escapeValue s).toList ++ ['"'])

/-- An attribute is written as its name and what stands behind it. -/
theorem toList_writeEntry (name : String) (value : AttributeValue) :
    (writeEntry name value).toList = name.toList ++ behindName value := by
  cases value with
  | switch on => rw [writeEntry, behindName, List.append_nil]
  | text s =>
    simp only [writeEntry, String.toList_append, List.append_assoc]
    rfl

/-- A name of an attribute has a first character. -/
theorem exists_name {s : String} (named : isAttributeName s = true) :
    ∃ c name, s.toList = c :: name ∧ ∀ d ∈ c :: name, IsInName d := by
  obtain ⟨c, name, whole⟩ := List.exists_cons_of_ne_nil (ne_nil_of_isAttributeName named)
  exact ⟨c, name, whole, fun d hd => isInName_of_isNameLetter
    (isNameLetter_of_isAttributeName named d (whole ▸ hd))⟩

/-- The gap before the next attribute is passed. -/
theorem skipGap_spaced {e : String × AttributeValue} (named : isAttributeName e.1 = true)
    (before : Char) (behind : List Char) :
    skipGap before (' ' :: ((writeEntry e.1 e.2).toList ++ behind)) =
      (' ', (writeEntry e.1 e.2).toList ++ behind) := by
  obtain ⟨c, name, whole, inName⟩ := exists_name named
  have first := inName c List.mem_cons_self
  rw [toList_writeEntry, whole]
  exact skipGap_space first.blank first.others.2.1 before _

/-- No value follows a name without an equals sign. -/
theorem value?_spaced (named : AreNamed entries) :
    value? (spaced entries ++ '>' :: rest) = none := by
  have start : ∃ d behind, (spaced entries ++ '>' :: rest).dropWhile isBlank = d :: behind ∧
      d ≠ '=' := by
    cases entries with
    | nil => exact ⟨'>', rest, rfl, by decide⟩
    | cons e entries =>
      obtain ⟨c, name, whole, inName⟩ := exists_name (named e List.mem_cons_self)
      have first := inName c List.mem_cons_self
      rw [spaced_cons, toList_writeEntry, whole, List.dropWhile_cons_of_pos (by decide)]
      exact ⟨c, _, List.dropWhile_cons_of_neg (by simp [first.blank]), first.others.1⟩
  obtain ⟨d, behind, dropped, other⟩ := start
  unfold value?
  rw [dropped]
  dsimp only
  rw [List.takeWhile_cons_of_neg (by simpa using other)]
  rfl

/-- Reading attributes takes the first name, the value behind it and the gap behind that. -/
theorem attributesFrom_name {c : Char} {name tail value after : List Char} {before : Char}
    (inName : ∀ d ∈ c :: name, IsInName d)
    (stops : ∃ d t, tail = d :: t ∧ isAttributeNameChar d = false)
    (read : (value? tail).getD ([], (c :: name).getLast?.getD c, tail) = (value, before, after))
    (fuel : Nat) :
    attributesFrom (fuel + 1) ' ' (c :: (name ++ tail)) =
      let (more, final) := attributesFrom fuel (skipGap before after).1 (skipGap before after).2
      ((lower (String.ofList (c :: name)), value) :: more, final) := by
  obtain ⟨d, t, rfl, stop⟩ := stops
  have first := inName c List.mem_cons_self
  have others : ∀ e ∈ name, isAttributeNameChar e = true := fun e he =>
    (inName e (List.mem_cons_of_mem c he)).inAttribute
  have space : isBlank ' ' = true := by decide
  have starts : (precedesAttribute ' ' && !(isBlank c || c == '/' || c == '>')) = true := by
    simp [precedesAttribute, space, first.blank, first.others.2]
  rw [attributesFrom, if_pos starts, takeWhile_append_cons others stop,
    dropWhile_append_cons others stop]
  dsimp only
  rw [read]

/-- A gap is passed, not put in. -/
theorem length_skipGap_le : ∀ (s : List Char) (before : Char),
    (skipGap before s).2.length ≤ s.length
  | [], before => Nat.le_refl 0
  | c :: rest, before => by
    by_cases closing : ∃ t, c :: rest = '/' :: '>' :: t
    · obtain ⟨t, same⟩ := closing
      obtain ⟨rfl, rfl⟩ := List.cons.inj same
      exact Nat.le_refl _
    · rw [skipGap_cons fun t same => closing ⟨t, same⟩]
      split
      · exact Nat.le_succ_of_le (length_skipGap_le rest c)
      · exact Nat.le_refl _

/-- The attributes of a start tag are read back, the first one behind its gap. -/
theorem attributesFrom_spaced (rest : List Char) : ∀ {entries : List (String × AttributeValue)},
    AreNamed entries → ∀ (fuel : Nat) (before : Char),
      (skipGap before (spaced entries ++ '>' :: rest)).2.length ≤ fuel →
      attributesFrom fuel (skipGap before (spaced entries ++ '>' :: rest)).1
          (skipGap before (spaced entries ++ '>' :: rest)).2 =
        (entries.map fun e => (e.1, rawValue e.2), '>' :: rest)
  | [], _, fuel, before, enough => by
    have closing : skipGap before (spaced [] ++ '>' :: rest) = (before, '>' :: rest) :=
      skipGap_of_not (by decide) (by decide) before rest
    rw [closing] at enough ⊢
    obtain ⟨fuel, rfl⟩ := Nat.exists_eq_add_one.2 (Nat.lt_of_lt_of_le (Nat.succ_pos _) enough)
    rw [attributesFrom, if_neg (by simp)]
    rfl
  | e :: entries, named, fuel, before, enough => by
    have first := named e List.mem_cons_self
    have others : AreNamed entries := fun f hf => named f (List.mem_cons_of_mem e hf)
    obtain ⟨c, name, whole, inName⟩ := exists_name first
    have lowered := lower_ofList_of_isNameLetter (isNameLetter_of_isAttributeName first)
    rw [whole] at lowered
    obtain ⟨d, behind, space, next⟩ := exists_behind entries rest
    have stop : isAttributeNameChar d = false := by
      rcases space with rfl | rfl <;> decide
    rw [spaced_cons, skipGap_spaced first, toList_writeEntry, whole] at enough ⊢
    obtain ⟨fuel, rfl⟩ := Nat.exists_eq_add_one.2 (Nat.lt_of_lt_of_le (Nat.succ_pos _) enough)
    -- Each attribute takes at least its first letter from the fuel.
    have shorter (before : Char) :
        (skipGap before (spaced entries ++ '>' :: rest)).2.length ≤ fuel := by
      have gap := length_skipGap_le (spaced entries ++ '>' :: rest) before
      simp only [List.cons_append, List.length_cons, List.length_append] at enough gap ⊢
      omega
    rw [List.cons_append, List.cons_append, List.append_assoc]
    cases value : e.2 with
    | switch on =>
      have bare : (value? (spaced entries ++ '>' :: rest)).getD
          ([], (c :: name).getLast?.getD c, spaced entries ++ '>' :: rest) =
            ([], (c :: name).getLast?.getD c, spaced entries ++ '>' :: rest) := by
        rw [value?_spaced others, Option.getD_none]
      rw [behindName, List.nil_append, attributesFrom_name inName ⟨d, behind, next, stop⟩ bare,
        attributesFrom_spaced rest others fuel _ (shorter _)]
      dsimp only
      rw [lowered, List.map_cons, value]
      rfl
    | text s =>
      have quoted := value?_quoted (quote_not_mem_escapeValue s) (spaced entries ++ '>' :: rest)
      rw [behindName, List.cons_append, List.cons_append, List.append_assoc, List.singleton_append,
        attributesFrom_name inName ⟨'=', _, rfl, by decide⟩ (by rw [quoted, Option.getD_some]),
        attributesFrom_spaced rest others fuel _ (shorter _)]
      dsimp only
      rw [lowered, List.map_cons, value]
      rfl

/-- Attributes are decoded to what they were written from. -/
theorem decodeAttributes_map : ∀ entries : List (String × AttributeValue),
    decodeAttributes (entries.map fun e => (e.1, rawValue e.2)) =
      .ok (entries.map fun e => (e.1, readValue e.2))
  | [] => rfl
  | (name, value) :: entries => by
    have decoded : decodeValue (rawValue value) = .ok (readValue value).toList := by
      cases value with
      | switch on => rfl
      | text s => exact decodeValue_escapeValue s
    rw [List.map_cons, decodeAttributes, decoded, decodeAttributes_map entries]
    show Except.ok ((name, String.ofList (readValue value).toList) :: _) = _
    rw [String.ofList_toList]
    rfl

/-- A letter behind the bracket makes a start tag. -/
theorem readTag_of_isAsciiLetter {c : Char} (letter : isAsciiLetter c = true) (s : List Char) :
    readTag ('<' :: c :: s) = readStart ('<' :: c :: s) := by
  have other {d : Char} (h : isAsciiLetter d = false) : c ≠ d := by
    rintro rfl
    rw [letter] at h
    cases h
  unfold readTag
  split
  next same => exact absurd (List.cons.inj (List.cons.inj same).2).1 (other (by decide))
  next same => exact absurd (List.cons.inj (List.cons.inj same).2).1 (other (by decide))
  next same => exact absurd (List.cons.inj (List.cons.inj same).2).1 (other (by decide))
  next same =>
    obtain ⟨rfl, rfl⟩ := List.cons.inj (List.cons.inj same).2
    exact if_pos letter
  next no => exact absurd rfl (no c s)

/-- A start tag is scanned by itself. -/
theorem scans_startTag {name : String} (h : isElementName name = true)
    (plain : rawNames.contains name = false) (named : AreNamed entries) (rest : List Char) :
    Scans ('<' :: (name.toList ++ (spaced entries ++ '>' :: rest)))
      [.start name (entries.map fun e => (e.1, readValue e.2)) false] rest := by
  obtain ⟨c, behind, whole, letter, each⟩ := isNameLetter_of_isElementName h
  have inName : ∀ d ∈ name.toList, (!endsTagName d) = true := fun d hd => by
    rw [(isInName_of_isNameLetter (each d hd)).inTag, Bool.not_false]
  obtain ⟨d, more, space, next⟩ := exists_behind entries rest
  have stop : (!endsTagName d) = false := by
    rcases space with rfl | rfl <;> decide
  have read : readStart ('<' :: (name.toList ++ (spaced entries ++ '>' :: rest))) =
      .next [.start name (entries.map fun e => (e.1, readValue e.2)) false] none rest := by
    have run : (name.toList ++ (spaced entries ++ '>' :: rest)).takeWhile (!endsTagName ·) =
        name.toList := by
      rw [next, takeWhile_append_cons inName stop]
    have behindRun : (name.toList ++ (spaced entries ++ '>' :: rest)).dropWhile (!endsTagName ·) =
        spaced entries ++ '>' :: rest := by
      rw [next, dropWhile_append_cons inName stop]
    rcases gap : skipGap (name.toList.getLast?.getD 'a') (spaced entries ++ '>' :: rest) with
      ⟨before, left⟩
    have attributes := attributesFrom_spaced rest named left.length
      (name.toList.getLast?.getD 'a') (by rw [gap])
    rw [gap] at attributes
    unfold readStart
    rw [List.drop_succ_cons, List.drop_zero]
    dsimp only
    rw [run, behindRun, gap]
    dsimp only
    rw [attributes, lower_ofList_of_isNameLetter each]
    dsimp only
    rw [decodeAttributes_map, plain]
    rfl
  -- The first letter makes the bracket open an element.
  have tag : readTag ('<' :: (name.toList ++ (spaced entries ++ '>' :: rest))) =
      readStart ('<' :: (name.toList ++ (spaced entries ++ '>' :: rest))) := by
    rw [whole, List.cons_append]
    exact readTag_of_isAsciiLetter letter _
  refine Scans.of_readTag (tag.trans read) ?_
  simp only [List.length_cons, List.length_append]
  omega

end

end Componentry.Markup
