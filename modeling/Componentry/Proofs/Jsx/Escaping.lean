import Componentry.Jsx.Attribute
import Componentry.Markup.Reference
import Componentry.Proofs.Lists
import Componentry.Proofs.Text.Erasure
import Componentry.Proofs.Text.Trim

/-!
# Escaped texts and values

The references for special characters are put into a text one after the other, the one for the
ampersand first. None of them is changed by those that follow, so each character is escaped on its
own: what is escaped holds no character that would end it, and reading its references gives the text
back. A value in quotation marks therefore ends at its own mark, and reads as what was written.
-/

set_option autoImplicit false

namespace Componentry.Jsx
open Componentry.Text Componentry.Markup

/-! ## References -/

/-- The character of a name in a component, which knows the names of the older standard only. -/
def entity? (name : String) : Option Char :=
  ((legacyNames.lookup name).or (closedNames.lookup name)).map Char.ofNat

/-- The character of a reference, without its ampersand and its semicolon. -/
def referenced? : List Char → Option Char
  | '#' :: 'x' :: digits =>
    if !digits.isEmpty && digits.all isHexDigit then some (Char.ofNat (numberIn 16 digits))
    else none
  | '#' :: digits =>
    if !digits.isEmpty && digits.all Char.isDigit then some (Char.ofNat (numberIn 10 digits))
    else none
  | name => entity? (String.ofList name)

/-- The reference behind an ampersand, and how many characters it takes. -/
def reference? (s : List Char) : Option (Char × Nat) :=
  let name := s.takeWhile fun c => c != ';'
  if name.length < s.length then (referenced? name).map fun c => (c, name.length + 1) else none

/-- The characters of a text whose references are read; the count says how many characters the last
one still covers. -/
def unescapeFrom : Nat → List Char → List Char
  | _, [] => []
  | skip + 1, _ :: rest => unescapeFrom skip rest
  | 0, c :: rest =>
    match if c == '&' then reference? rest else none with
    | some (d, length) => d :: unescapeFrom length rest
    | none => c :: unescapeFrom 0 rest

/-- A text with its references read. -/
def unescape (s : List Char) : List Char := unescapeFrom 0 s

/-! ## Characters one by one -/

/-- The reference for a character that would end a text. -/
def escapeTextChar (c : Char) : List Char :=
  if c == '&' then "&amp;".toList
  else if c == '<' then "&lt;".toList
  else if c == '>' then "&gt;".toList
  else if c == '\x7b' then "&#123;".toList
  else if c == '\x7d' then "&#125;".toList
  else [c]

/-- The reference for a character that would end a value. -/
def escapeAttributeChar (c : Char) : List Char :=
  if c == '&' then "&amp;".toList
  else if c == '"' then "&quot;".toList
  else if c == '<' then "&lt;".toList
  else if c == '>' then "&gt;".toList
  else [c]

/-- The references of texts are those of their characters. -/
theorem replaceChar_textReferences (c : Char) :
    replaceChar textReferences c = escapeTextChar c := by
  simp only [replaceChar, textReferences, escapeTextChar, List.lookup_cons, List.lookup_nil]
  repeat' split
  all_goals simp_all

/-- The references of values are those of their characters. -/
theorem replaceChar_valueReferences (c : Char) :
    replaceChar valueReferences c = escapeAttributeChar c := by
  simp only [replaceChar, valueReferences, escapeAttributeChar, List.lookup_cons,
    List.lookup_nil]
  repeat' split
  all_goals simp_all

/-- A text is escaped character by character. -/
theorem toList_escapeText (s : String) :
    (escapeText s).toList = s.toList.flatMap escapeTextChar := by
  rw [escapeText, toList_replaceEach (by decide), funext replaceChar_textReferences]

/-! ## Reading references -/

/-- All references that are put in. -/
def writtenReferences : List (Char × String) := textReferences ++ valueReferences

/-- A reference that was put in is read as its character, whatever follows it. -/
theorem unescape_reference {e : Char × String} (h : e ∈ writtenReferences) (rest : List Char) :
    unescape (e.2.toList ++ rest) = e.1 :: unescape rest := by
  simp only [writtenReferences, textReferences, valueReferences, List.cons_append, List.nil_append,
    List.mem_cons, List.not_mem_nil, or_false] at h
  rcases h with rfl | rfl | rfl | rfl | rfl | rfl | rfl | rfl | rfl <;> rfl

/-- In a value of markup, too, a reference that was put in is read as its character. -/
theorem decodeFrom_reference {e : Char × String} (h : e ∈ writtenReferences) (rest : List Char) :
    Markup.decodeFrom 0 (e.2.toList ++ rest) =
      (Markup.decodeFrom 0 rest).map fun decoded => e.1 :: decoded := by
  simp only [writtenReferences, textReferences, valueReferences, List.cons_append, List.nil_append,
    List.mem_cons, List.not_mem_nil, or_false] at h
  rcases h with rfl | rfl | rfl | rfl | rfl | rfl | rfl | rfl | rfl <;> rfl

/-- A character that starts no reference is read as it stands. -/
theorem unescape_cons {c : Char} (h : c ≠ '&') (rest : List Char) :
    unescape (c :: rest) = c :: unescape rest := by
  rw [unescape, unescapeFrom, if_neg (by simpa using h)]
  rfl

section
variable {l : List (Char × String)} (known : l ⊆ writtenReferences)
  (ampersand : '&' ∈ l.map Prod.fst)
include known ampersand

/-- What is written for a character is read as it. -/
theorem unescape_replaceChar (c : Char) (rest : List Char) :
    unescape (replaceChar l c ++ rest) = c :: unescape rest := by
  rcases replaceChar_cases l c with ⟨by', entry, same⟩ | ⟨other, same⟩
  · rw [same]
    exact unescape_reference (known entry) rest
  · rw [same]
    exact unescape_cons (fun start : c = '&' => other (start ▸ ampersand)) rest

/-- What is written for a character is decoded as it. -/
theorem decodeFrom_replaceChar (c : Char) (rest : List Char) :
    Markup.decodeFrom 0 (replaceChar l c ++ rest) =
      (Markup.decodeFrom 0 rest).map fun decoded => c :: decoded := by
  rcases replaceChar_cases l c with ⟨by', entry, same⟩ | ⟨other, same⟩
  · rw [same]
    exact decodeFrom_reference (known entry) rest
  · have plain : ¬ (c == '&') = true := fun start => other (beq_iff_eq.1 start ▸ ampersand)
    rw [same, List.singleton_append, Markup.decodeFrom, if_neg plain]

/-- What was escaped is read back. -/
theorem unescape_flatMap (s : List Char) : unescape (s.flatMap (replaceChar l)) = s := by
  induction s with
  | nil => rfl
  | cons c s ih => rw [List.flatMap_cons, unescape_replaceChar known ampersand, ih]

/-- A value written with references is decoded as it was. -/
theorem decodeValue_flatMap (s : List Char) :
    decodeValue (s.flatMap (replaceChar l)) = .ok s := by
  rw [decodeValue]
  induction s with
  | nil => rfl
  | cons c s ih =>
    rw [List.flatMap_cons, decodeFrom_replaceChar known ampersand, ih]
    rfl

end

/-- A character that is replaced, and that nothing put in holds, is gone. -/
theorem not_mem_flatMap {l : List (Char × String)} {d : Char} (replaced : d ∈ l.map Prod.fst)
    (foreign : ∀ e ∈ l, d ∉ e.2.toList) (s : List Char) : d ∉ s.flatMap (replaceChar l) := by
  intro mem
  obtain ⟨c, -, mem⟩ := List.mem_flatMap.1 mem
  rcases replaceChar_cases l c with ⟨by', entry, same⟩ | ⟨other, same⟩
  · rw [same] at mem
    exact foreign _ entry mem
  · rw [same, List.mem_singleton] at mem
    exact other (mem ▸ replaced)

/-! ## Escaped texts -/

/-- A text is escaped: character by character, without characters that are barred, and so that
reading its references gives it back, in a component as in markup. -/
structure IsEscaped (each : Char → List Char) (barred : List Char) (s escaped : String) : Prop where
  each : escaped = String.ofList (s.toList.flatMap each)
  barred : ∀ c ∈ barred, c ∉ escaped.toList
  unescape : unescape escaped.toList = s.toList
  decodeValue : decodeValue escaped.toList = .ok s.toList

/-- One replacement after another comes to one pass, without the barred characters. -/
theorem isEscaped_replaceEach {l : List (Char × String)} {barred : List Char}
    (apart : l.Pairwise fun a b => b.1 ∉ a.2.toList) (known : l ⊆ writtenReferences)
    (ampersand : '&' ∈ l.map Prod.fst)
    (gone : ∀ c ∈ barred, c ∈ l.map Prod.fst ∧ ∀ e ∈ l, c ∉ e.2.toList) (s : String) :
    IsEscaped (replaceChar l) barred s (replaceEach s l) := by
  have whole := toList_replaceEach apart s
  refine ⟨by rw [← whole, String.ofList_toList], fun c hc => ?_, ?_, ?_⟩
  · rw [whole]
    exact not_mem_flatMap (gone c hc).1 (gone c hc).2 _
  · rw [whole, unescape_flatMap known ampersand]
  · rw [whole, decodeValue_flatMap known ampersand]

/-- A text is escaped without angle brackets and braces. -/
theorem isEscaped_escapeText (s : String) :
    IsEscaped escapeTextChar ['<', '>', '\x7b', '\x7d'] s (escapeText s) := by
  rw [← funext replaceChar_textReferences]
  exact isEscaped_replaceEach (by decide) (List.subset_append_left _ _) (by decide)
    (Lists.forall_mem_of_all (by decide)) s

/-- A value is escaped without quotes and angle brackets. -/
theorem isEscaped_escapeAttribute (s : String) :
    IsEscaped escapeAttributeChar ['"', '<', '>'] s (escapeAttribute s) := by
  rw [← funext replaceChar_valueReferences]
  exact isEscaped_replaceEach (by decide) (List.subset_append_right _ _) (by decide)
    (Lists.forall_mem_of_all (by decide)) s

/-! ## Values in quotation marks -/

/-- The value in quotation marks that a text starts with, and what follows behind them. The first
mark ends the value. -/
def quotedValue? : List Char → Option (List Char × List Char)
  | '"' :: rest =>
    match rest.dropWhile fun c => c != '"' with
    | [] => none
    | _ :: behind => some (unescape (rest.takeWhile fun c => c != '"'), behind)
  | _ => none

/-- A value without quotes is read up to the quote behind it. -/
theorem quotedValue?_quoted {body : List Char} (unmarked : '"' ∉ body) (behind : List Char) :
    quotedValue? ('"' :: (body ++ '"' :: behind)) = some (unescape body, behind) := by
  have within : ∀ c ∈ body, (c != '"') = true := fun c hc =>
    bne_iff_ne.2 fun same => unmarked (same ▸ hc)
  rw [quotedValue?, dropWhile_append_cons within rfl, takeWhile_append_cons within rfl]

/-- A property with a plain text is written as its name, an equals sign and the text in quotation
marks. -/
theorem writeProperty_of_text (renamesClass : Bool) {p : Property} {s : String}
    (text : p.value = .text s) (plain : expression? s.toList = none) (other : p.kind ≠ .event) :
    writeProperty renamesClass p =
      writtenName renamesClass p ++ "=" ++ ("\"" ++ escapeAttribute s ++ "\"") := by
  have noHandler : ¬ (p.kind == .event) = true := fun same => other (beq_iff_eq.1 same)
  rw [writeProperty, attributeText, text]
  have opening : "=\"" = "=" ++ "\"" := by decide
  simp only [plain, if_neg noHandler, opening, String.append_assoc]

/-- Escaping is faithful: a text and a value are escaped character by character, hold nothing that
would end them, and are read back; so a plain text that a property has for its value stands in
quotation marks, the first mark behind it is its own, and what it reads as is the text. -/
theorem escaping_is_faithful (s : String) :
    IsEscaped escapeTextChar ['<', '>', '\x7b', '\x7d'] s (escapeText s) ∧
      IsEscaped escapeAttributeChar ['"', '<', '>'] s (escapeAttribute s) ∧
      ∀ (renamesClass : Bool) (p : Property), p.value = .text s → expression? s.toList = none →
        p.kind ≠ .event → ∃ literal : String,
          writeProperty renamesClass p = writtenName renamesClass p ++ "=" ++ literal ∧
            ∀ behind, quotedValue? (literal.toList ++ behind) = some (s.toList, behind) := by
  have escaped := isEscaped_escapeAttribute s
  refine ⟨isEscaped_escapeText s, escaped, fun renamesClass p text plain other =>
    ⟨_, writeProperty_of_text renamesClass text plain other, fun behind => ?_⟩⟩
  have unmarked : '"' ∉ (escapeAttribute s).toList := escaped.barred '"' List.mem_cons_self
  have mark : "\"".toList = ['"'] := by decide
  rw [String.toList_append, String.toList_append, mark, List.append_assoc, List.append_assoc,
    List.singleton_append, List.singleton_append, quotedValue?_quoted unmarked, escaped.unescape]

/-- A title with marks, and with a reference that is to be read as it stands. -/
theorem escaping_is_faithful_of_title :
    expression? "\"a\" &lt; b".toList = none ∧ ∃ literal : String,
      writeProperty true { name := "title", value := .text "\"a\" &lt; b" } =
          "title" ++ "=" ++ literal ∧
        ∀ behind, quotedValue? (literal.toList ++ behind) = some ("\"a\" &lt; b".toList, behind) :=
  ⟨by decide, (escaping_is_faithful "\"a\" &lt; b").2.2 true _ rfl (by decide) (by decide)⟩

example : escapeAttribute "\"a\" &lt; b" = "&quot;a&quot; &amp;lt; b" := by decide

end Componentry.Jsx
