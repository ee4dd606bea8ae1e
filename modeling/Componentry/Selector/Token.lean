import Componentry.Fault
import Componentry.Selector
import Componentry.Selector.Mistake
import Componentry.Selector.Word

/-!
# Reading selector tokens

A selector is cut into tests, combinators and brackets, each with the place where it stands. Blanks
and comments count only as the combinator for "somewhere inside". The first text that forms no token
ends the reading.
-/

set_option autoImplicit false

namespace Componentry.Selector
open Componentry.Text

/-- The space that an element's name is looked up in. -/
inductive NameSpace where
  | any
  /-- The space of page elements by its own name, which selectors that keep to one page know. -/
  | page
  /-- A space that no element is in. -/
  | foreign
deriving Repr, DecidableEq

/-- A piece of a selector. -/
inductive Token where
  /-- The closing bracket of a pseudo-class with arguments. -/
  | close
  /-- A pseudo-class, by its name in lower case, with an opening bracket or without. -/
  | pseudo (name : String) (opens : Bool)
  /-- A position; one that is counted among the elements of a list is followed by the list. -/
  | nth (position : Position) (amongList : Bool)
  | language (ranges : List String)
  | direction (d : Direction)
  | text (test : TextTest)
  /-- A pseudo-class of the user's own. -/
  | custom (name : String)
  /-- A part of an element. -/
  | part
  /-- A rule that is no selector. -/
  | rule
  /-- The element that the search starts from. -/
  | here
  | id (s : String)
  | className (s : String)
  /-- An element name; none for any name. -/
  | name (space : NameSpace) (s : Option String)
  | value (name : String) (negated : Bool) (test : Option ValueTest)
  /-- A combinator; a comma separates alternatives. -/
  | comma
  | relation (r : Relation)
  /-- A piece whose words or numbers cannot be had; it may be an element name. -/
  | unusable (isName : Bool) (fault : Fault)
  | malformed (mistake : Mistake)
deriving Repr, DecidableEq

/-- A token with the places where it starts and where the next one does. -/
structure Lexeme where
  token : Token
  start : Nat
  stop : Nat

/-- A token built from what may be missing for an impossible character. -/
def orNoCharacter (isName : Bool) (t : Option Token) : Token :=
  t.getD (.unusable isName .noCharacter)

/-! ## Attributes -/

/-- The comparison before an equals sign, and what follows the sign. -/
def comparison? : List Char → Option (Comparison × Bool × List Char)
  | '=' :: rest => some (.equal, false, rest)
  | '!' :: '=' :: rest => some (.equal, true, rest)
  | '~' :: '=' :: rest => some (.word, false, rest)
  | '^' :: '=' :: rest => some (.starts, false, rest)
  | '|' :: '=' :: rest => some (.language, false, rest)
  | '*' :: '=' :: rest => some (.contains, false, rest)
  | '$' :: '=' :: rest => some (.ends, false, rest)
  | _ => none

/-- A written name that may have a space for names before it, and the space: nothing, any, or an
identifier before a bar. -/
def spacedName? (s : List Char) : Option (List Char × List Char × List Char) :=
  let plain := (rawIdentifier? false s).map fun (n, r) => ([], n, r)
  let after (space r : List Char) : Option (List Char × List Char × List Char) :=
    (rawIdentifier? false r).map fun (n, r) => (space, n, r)
  match s with
  | '|' :: r => after [] r
  | '*' :: '|' :: r => after [] r
  | _ =>
    match rawIdentifier? false s with
    | some (space, '|' :: r) => (after space r).or plain
    | _ => plain

/-- The letter after a value that asks for its case to count or not: whether it does not count, and
what follows. Letters that differ from `i` and `s` in case alone stand for the second, those two
capitals apart. -/
def caseMark? : List Char → Option (Bool × List Char)
  | [] => none
  | c :: rest =>
    if c == 'i' || c == 'I' then some (true, rest)
    else if foldChar c == 'i' || foldChar c == 's' then some (false, rest)
    else none

/-- The test of an attribute after its opening bracket, and what follows the closing one. The type
of a control is compared without regard to case, unless the selector says otherwise. -/
def attribute? (s : List Char) : Option (Token × List Char) := do
  let (space, rawName, rest) ← spacedName? (afterSpace s)
  let name? := (resolve? false space).bind fun _ => resolve? false rawName
  let next := afterSpace rest
  match next with
  | ']' :: after =>
    some (orNoCharacter false (name?.map fun name => .value name false none), after)
  | _ =>
    let (comparison, negated, r) ← comparison? next
    let (value, r) ← rawValue? false (afterSpace r)
    let test (fold? : Option Bool) : Token := orNoCharacter false do
      let name ← name?
      let value ← value.resolve?
      let fold := fold?.getD (asciiLower name == "type")
      some (.value name negated (some ⟨comparison, value, fold⟩))
    match afterSpace r with
    | ']' :: after => some (test none, after)
    | r =>
      let (fold, r) ← caseMark? r
      match afterSpace r with
      | ']' :: after => some (test (some fold), after)
      | _ => none

/-! ## Positions -/

/-- A literal at the start, case disregarded, and what follows it. -/
def literal? (word : String) (s : List Char) : Option (List Char) :=
  let n := word.toList.length
  if (s.take n).map Char.toLower == word.toList then some (s.drop n) else none

/-- The digits at the start, and what follows. -/
def digits? (s : List Char) : Option (List Char × List Char) :=
  let digits := s.takeWhile isAsciiDigit
  if digits.isEmpty then none else some (digits, s.drop digits.length)

/-- A signed number as written. -/
structure Signed where
  negative : Bool
  digits : List Char

namespace Signed

/-- A number that needs no reading. -/
def ofDigit (negative : Bool) (c : Char) : Signed := ⟨negative, [c]⟩

/-- The number; one with too many digits is not read. -/
def toInt (s : Signed) : Except Fault Int :=
  if mostDigits < s.digits.length then .error (.number (.long s.digits.length))
  else
    let n : Int := (natOfDigits? s.digits).getD 0
    .ok (if s.negative then -n else n)

end Signed

/-- The offset after the `n` of a position: a sign and a number, or nothing. -/
def offset (s : List Char) : Signed × List Char :=
  match afterSpace s with
  | sign :: rest =>
    if sign == '+' || sign == '-' then
      match digits? (afterSpace rest) with
      | some (b, after) => (⟨sign == '-', b⟩, after)
      | none => (.ofDigit false '0', s)
    else (.ofDigit false '0', s)
  | [] => (.ofDigit false '0', s)

/-- A position as step and offset: `even`, `odd`, a number, or a multiple of `n`. -/
def position? (s : List Char) : Option (Signed × Signed × List Char) :=
  let (negative, body) := match s with
    | '-' :: rest => (true, rest)
    | '+' :: rest => (false, rest)
    | rest => (false, rest)
  let zero : Signed := .ofDigit false '0'
  match digits? body with
  | some (a, c :: rest) =>
    if c == 'n' || c == 'N' then
      let (b, after) := offset rest
      some (⟨negative, a⟩, b, after)
    else some (zero, ⟨negative, a⟩, c :: rest)
  | some (a, []) => some (zero, ⟨negative, a⟩, [])
  | none =>
    match body with
    | c :: rest =>
      if c == 'n' || c == 'N' then
        let (b, after) := offset rest
        some (.ofDigit negative '1', b, after)
      else
        match literal? "even" s with
        | some after => some (.ofDigit false '2', zero, after)
        | none =>
          (literal? "odd" s).map fun after => (.ofDigit false '2', .ofDigit false '1', after)
    | [] => none

/-- The arguments of a pseudo-class that counts positions. -/
def nth? (ofType fromEnd : Bool) (s : List Char) : Option (Token × List Char) := do
  let (step, offset, rest) ← position? s
  let token (amongList : Bool) : Token :=
    match do return (← step.toInt, ← offset.toInt) with
    | .ok (step, offset) => .nth ⟨step, offset, ofType, fromEnd⟩ amongList
    | .error fault => .unusable false fault
  let (blank, next) := skipSpace rest
  match next with
  | ')' :: after => some (token false, after)
  | _ =>
    if ofType || !blank then none
    else do
      let after ← literal? "of" next
      let (blank, after) := skipSpace after
      if blank then some (token true, after) else none

/-! ## Pseudo-classes -/

/-- The values up to the closing bracket as written, and what follows the bracket. -/
def values? (s : List Char) : Option (List Char × List Char) :=
  (valuesEnd? s.length s).map fun (rest, after) => (before s rest, after)

/-- A text test. -/
def text? (own : Bool) (s : List Char) : Option (Token × List Char) :=
  (values? s).map fun (list, after) =>
    (orNoCharacter false ((resolveAll? list).map fun values => .text ⟨own, values⟩), after)

/-- The direction that is asked for. -/
def direction? (s : List Char) : Option (Token × List Char) := do
  let (d, rest) ← ((literal? "ltr" s).map fun r => (Direction.leftToRight, r)).or
    ((literal? "rtl" s).map fun r => (.rightToLeft, r))
  match afterSpace rest with
  | ')' :: after => some (.direction d, after)
  | _ => none

/-- A pseudo-class with arguments that have a form of their own. -/
def special? (name : String) (s : List Char) : Option (Token × List Char) :=
  match name with
  | "contains" | "-soup-contains" => text? false s
  | "-soup-contains-own" => text? true s
  | "nth-child" => nth? false false s
  | "nth-last-child" => nth? false true s
  | "nth-of-type" => nth? true false s
  | "nth-last-of-type" => nth? true true s
  | "lang" =>
    (values? s).map fun (list, after) =>
      (orNoCharacter false ((resolveAll? list).map .language), after)
  | "dir" => direction? s
  | _ => none

/-- The pseudo-class after its colon. -/
def pseudo? (s : List Char) : Option (Token × List Char) :=
  match rawIdentifier? false s with
  | some (word, rest) =>
    match (resolve? false word).map asciiLower with
    | none => some (.unusable false .noCharacter, rest)
    | some name =>
      let own := ['-', '-'].isPrefixOf s
      match rest with
      | '(' :: inside =>
        let inside := afterSpace inside
        match special? name inside with
        | some found => some found
        | none => if own then some (.custom name, rest) else some (.pseudo name true, inside)
      | _ => if own then some (.custom name, rest) else some (.pseudo name false, rest)
  | none =>
    match s with
    | ':' :: r => (rawIdentifier? false r).map fun (_, rest) => (.part, rest)
    | _ => none

/-! ## Tokens -/

/-- The combinator at the start, blanks and comments around it included. -/
def combinator? (s : List Char) : Option (Token × List Char) :=
  let (blank, next) := skipSpace s
  match next with
  | ',' :: r => some (.comma, afterSpace r)
  | '+' :: r => some (.relation .previous, afterSpace r)
  | '>' :: r => some (.relation .parent, afterSpace r)
  | '~' :: r => some (.relation .earlier, afterSpace r)
  | _ => if blank then some (.relation .ancestor, next) else none

/-- The name test at the start. -/
def name? (s : List Char) : Option (Token × List Char) :=
  let word (r : List Char) : Option (Option (List Char) × List Char) :=
    match r with
    | '*' :: after => some (none, after)
    | r => (rawIdentifier? false r).map fun (n, after) => (some n, after)
  let token (space : Option NameSpace) (n : Option (List Char)) : Token := orNoCharacter true do
    let space ← space
    match n with
    | none => some (.name space none)
    | some n => (resolve? false n).map fun n => .name space (some n)
  let plain := (word s).map fun (n, r) => (token (some .any) n, r)
  let spaced (space : Option NameSpace) (r : List Char) : Option (Token × List Char) :=
    (word r).map fun (n, after) => (token space n, after)
  match s with
  | '|' :: r => spaced (some .foreign) r
  | '*' :: '|' :: r => (spaced (some .any) r).or plain
  | _ =>
    match rawIdentifier? false s with
    | some (space, '|' :: r) =>
      let known := (resolve? false space).map fun n =>
        if n == "html" then NameSpace.page else .foreign
      (spaced known r).or plain
    | _ => plain

/-- The token at the start, and what follows it. -/
def token? (s : List Char) : Option (Token × List Char) :=
  let word (r : List Char) (make : String → Token) : Option (Token × List Char) :=
    (rawIdentifier? false r).map fun (n, rest) =>
      (orNoCharacter false ((resolve? false n).map make), rest)
  match afterSpace s with
  | ')' :: after => some (.close, after)
  | _ =>
    match s with
    | ':' :: r => pseudo? r
    | '&' :: r => some (.here, r)
    | '@' :: p :: r =>
      if p == 'p' || p == 'P' then (rawIdentifier? false r).map fun (_, rest) => (.rule, rest)
      else none
    | '#' :: r => word r .id
    | '.' :: r => word r .className
    | '[' :: r => attribute? r
    | s => (name? s).or (combinator? s)

/-- The mistake that a text which forms no token is taken for, by its first character. -/
def mistakeAt : Char → Mistake
  | '[' => .attribute
  | '.' => .className
  | '#' => .id
  | ':' => .pseudoClass
  | c => .strayCharacter c

/-- The tokens of a rest of a selector of a size, up to the blanks that end it, which are so many;
the fuel is the number of characters left. -/
def lexemesFrom (size blanks : Nat) : Nat → List Char → List Lexeme
  | 0, _ => []
  | fuel + 1, s =>
    if s.length ≤ blanks then []
    else
      let start := size - s.length
      match token? s, s with
      | some (t, rest), _ => ⟨t, start, size - rest.length⟩ :: lexemesFrom size blanks fuel rest
      | none, c :: _ => [⟨.malformed (mistakeAt c), start, start⟩]
      | none, [] => []

/-- A text is nothing but blanks and comments, and no comment seems to open within another; the fuel
is its length. -/
def isEnding : Nat → List Char → Bool
  | _, [] => true
  | 0, _ => false
  | fuel + 1, '/' :: '*' :: rest => ((afterPlainComment rest).map (isEnding fuel)).getD false
  | fuel + 1, c :: rest => isSpace c && isEnding fuel rest

/-- The number of blanks and characters of comments that end a text. -/
def endingBlanks : List Char → Nat
  | [] => 0
  | c :: rest =>
    if isEnding (rest.length + 1) (c :: rest) then rest.length + 1 else endingBlanks rest

/-- The tokens of a selector. -/
def Lexeme.scan (characters : List Char) : List Lexeme :=
  let size := characters.length
  lexemesFrom size (endingBlanks characters) (size + 1) (afterSpace characters)

end Componentry.Selector
