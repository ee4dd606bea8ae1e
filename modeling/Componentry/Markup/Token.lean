import Componentry.Markup.Reference
import Componentry.Text.Case
import Componentry.Text.Slice

/-!
# Markup tokens

The pieces that markup is read in: data, the start and end of elements, and the declarations that
stand between them. Names are in lower case and values decoded. Data may come in several pieces.
-/

set_option autoImplicit false

namespace Componentry.Markup

/-- A piece of markup. -/
inductive Token where
  /-- Characters of text, references decoded. -/
  | data (characters : List Char)
  /-- The start of an element, with its attributes as written; one closed by its own slash ends
  where it starts. -/
  | start (name : String) (attributes : List (String × String)) (closed : Bool)
  /-- The end of an element. -/
  | finish (name : String)
  | comment (characters : List Char)
  | cdata (characters : List Char)
  | doctype (characters : List Char)
  | instruction (characters : List Char)
  /-- A marked section that is no data. -/
  | declaration (characters : List Char)
deriving Repr, DecidableEq

/-- Elements whose content is data up to their end tag. -/
def rawNames : List String := ["script", "style"]

end Componentry.Markup

/-! ## Reading tokens

Markup is scanned from left to right: what does not form a tag, a declaration or a reference is
data. A construct cut off by the end of the text stops a pass. The first pass stops there; a second
pass goes over what is left and takes the cut-off construct as data up to its next closing bracket.
What the second pass leaves is data as it stands, unless it is the unfinished content of a raw
element, which is dropped. Only a marked section without a known word and a number that is too long
are refused.
-/

namespace Componentry.Markup
open Componentry.Text

/-- A character that ends the name of a tag. -/
def endsTagName (c : Char) : Bool :=
  c == '\t' || c == '\n' || c == '\r' || c == '\x0c' || c == ' ' || c == '/' || c == '>'
    || c == '\x00'

/-- A character after which an attribute may start. -/
def precedesAttribute (c : Char) : Bool := c == '\'' || c == '"' || c == '/' || isBlank c

/-- A character of an attribute's name, its first one apart, which may be an equals sign. -/
def isAttributeNameChar (c : Char) : Bool := !(isBlank c || c == '/' || c == '=' || c == '>')

/-- A character of a value without quotes. -/
def isBareValueChar (c : Char) : Bool := !(c == '>' || isBlank c)

/-- Passes blanks and slashes, but not the slash of a closing `/>`; the character before is kept. -/
def skipGap : Char → List Char → Char × List Char
  | before, [] => (before, [])
  | before, '/' :: '>' :: rest => (before, '/' :: '>' :: rest)
  | before, c :: rest =>
    if isBlank c || c == '/' then skipGap c rest else (before, c :: rest)

/-- The quoted characters, those after the closing quote. -/
def quoted? (quote : Char) : List Char → Option (List Char × List Char)
  | [] => none
  | c :: rest =>
    if c == quote then some ([], rest)
    else (quoted? quote rest).map fun (inside, after) => (c :: inside, after)

/-- A value without quotes, the character before what follows it and the rest. -/
def bareValue (before : Char) (s : List Char) : List Char × Char × List Char :=
  let value := s.takeWhile isBareValueChar
  (value, value.getLast?.getD before, s.dropWhile isBareValueChar)

/-- The value after an attribute's name, the character before what follows and the rest; none
where no value follows. A quote that never closes starts no value: blanks before it make the value
empty, a second equals sign before it becomes the start of a bare value. -/
def value? (s : List Char) : Option (List Char × Char × List Char) :=
  let s := s.dropWhile isBlank
  let signs := s.takeWhile (· == '=')
  if signs.isEmpty then none
  else
    let afterSigns := s.dropWhile (· == '=')
    let body := afterSigns.dropWhile isBlank
    match body with
    | [] => some ([], '=', [])
    | c :: rest =>
      if c == '\'' || c == '"' then
        match quoted? c rest with
        | some (inside, after) => some (inside, c, after)
        | none =>
          if body.length < afterSigns.length then some ([], ' ', body)
          else if 2 ≤ signs.length then some (bareValue '=' ('=' :: body))
          else none
      else some (bareValue '=' body)

/-- The attributes from here on as written, and what follows the last of them and its gap. The fuel
is the number of characters left. -/
def attributesFrom : Nat → Char → List Char → List (String × List Char) × List Char
  | 0, _, s => ([], s)
  | _ + 1, _, [] => ([], [])
  | fuel + 1, before, c :: rest =>
    if precedesAttribute before && !(isBlank c || c == '/' || c == '>') then
      let name := c :: rest.takeWhile isAttributeNameChar
      let afterName := rest.dropWhile isAttributeNameChar
      let (value, before', after) :=
        (value? afterName).getD ([], name.getLast?.getD c, afterName)
      let (before'', after) := skipGap before' after
      let (more, final) := attributesFrom fuel before'' after
      ((lower (String.ofList name), value) :: more, final)
    else ([], c :: rest)

/-- Attributes with their values decoded. -/
def decodeAttributes : List (String × List Char) → Except Fault (List (String × String))
  | [] => .ok []
  | (name, value) :: rest => do
    let value ← decodeValue value
    return (name, String.ofList value) :: (← decodeAttributes rest)

/-- How reading at one place goes on. -/
inductive Reading where
  /-- Tokens were read; the scan goes on at the rest, in the content of a raw element if one is
  named. -/
  | next (tokens : List Token) (raw : Option String) (rest : List Char)
  /-- The construct here is cut off by the end of the text. -/
  | cutOff
  /-- The pass stops, with what is left. -/
  | stop (tokens : List Token) (rest : List Char)
  /-- The markup is refused. -/
  | refused (f : Fault)

/-- A reading that goes on with a result, which a fault may stand in the place of. -/
def Reading.ofExcept {α : Type} (e : Except Fault α) (go : α → Reading) : Reading :=
  match e with
  | .ok a => go a
  | .error f => .refused f

/-- The start tag at `<` and a letter. -/
def readStart (s : List Char) : Reading :=
  let inside := s.drop 1
  let name := inside.takeWhile fun c => !endsTagName c
  let (before, gap) := skipGap (name.getLast?.getD 'a') (inside.dropWhile fun c => !endsTagName c)
  let (attributes, rest) := attributesFrom gap.length before gap
  let tag := lower (String.ofList name)
  let decoded (go : List (String × String) → Reading) : Reading :=
    Reading.ofExcept (decodeAttributes attributes) go
  match rest with
  | [] => .cutOff
  | '>' :: rest => decoded fun attributes =>
    .next [.start tag attributes false] (if rawNames.contains tag then some tag else none) rest
  | '/' :: '>' :: rest => decoded fun attributes => .next [.start tag attributes true] none rest
  | c :: _ =>
    if isAsciiLetter c || c == '=' || c == '/' then .cutOff
    else decoded fun _ => .next [.data (s.take (s.length - rest.length))] none rest

/-- A character of a plain end tag's name, its first one apart. -/
def isEndNameChar (c : Char) : Bool :=
  isAsciiAlnum c || c == '-' || c == '.' || c == ':' || c == '_'

/-- The name of a well-formed end tag after `</`, and what follows it. -/
def plainEnd? (s : List Char) : Option (String × List Char) :=
  match s.dropWhile isBlank with
  | [] => none
  | c :: rest =>
    if isAsciiLetter c then
      match (rest.dropWhile isEndNameChar).dropWhile isBlank with
      | '>' :: after => some (lower (String.ofList (c :: rest.takeWhile isEndNameChar)), after)
      | _ => none
    else none

/-- A comment up to the next closing bracket. -/
def readLooseComment (s : List Char) : Reading :=
  match cutAt ['>'] s with
  | none => .cutOff
  | some (inside, rest) => .next [.comment inside] none rest

/-- The end tag after `</`. -/
def readFinish (s : List Char) : Reading :=
  match plainEnd? s with
  | some (name, rest) => .next [.finish name] none rest
  | none =>
    match s with
    | [] => .cutOff
    | '>' :: rest => .next [] none rest
    | c :: _ =>
      if isAsciiLetter c then
        match cutAt ['>'] (s.dropWhile fun c => !endsTagName c) with
        | none => .cutOff
        | some (_, rest) =>
          .next [.finish (lower (String.ofList (s.takeWhile fun c => !endsTagName c)))] none rest
      else readLooseComment s

/-- What stands before the first place where an end matches, and what follows that end. -/
def untilEnd (close? : List Char → Option (List Char)) :
    List Char → Option (List Char × List Char)
  | [] => none
  | c :: rest =>
    match close? (c :: rest) with
    | some after => some ([], after)
    | none => (untilEnd close? rest).map fun (inside, after) => (c :: inside, after)

/-- The end of a comment: two dashes and a bracket, blanks allowed before the bracket. -/
def commentEnd? : List Char → Option (List Char)
  | '-' :: '-' :: rest =>
    match rest.dropWhile isBlank with
    | '>' :: after => some after
    | _ => none
  | _ => none

/-- The end of a data section: `]]>`, blanks allowed after each square bracket. -/
def sectionEnd? : List Char → Option (List Char)
  | ']' :: rest =>
    match rest.dropWhile isBlank with
    | ']' :: rest =>
      match rest.dropWhile isBlank with
      | '>' :: after => some after
      | _ => none
    | _ => none
  | _ => none

/-- The end of a conditional section: `]>`, blanks allowed after the square bracket. -/
def conditionEnd? : List Char → Option (List Char)
  | ']' :: rest =>
    match rest.dropWhile isBlank with
    | '>' :: after => some after
    | _ => none
  | _ => none

/-- A character of the word that a marked section starts with, its first one apart. -/
def isSectionNameChar (c : Char) : Bool := isAsciiAlnum c || c == '-' || c == '_' || c == '.'

/-- The words of marked sections that end like data. -/
def dataWords : List String := ["temp", "cdata", "ignore", "include", "rcdata"]

/-- The words of marked sections that end like a condition. -/
def conditionWords : List String := ["if", "else", "endif"]

/-- What a marked section holds: data behind its word and a square bracket, or anything else. -/
def sectionToken (inside : List Char) : Token :=
  if (inside.take 6).map Char.toLower == "cdata[".toList then .cdata (inside.drop 6)
  else .declaration inside

/-- What can be seen of a marked section that does not start with a word. -/
def sectionStart (s : List Char) : String := String.ofList (("<![".toList ++ s).take 20)

/-- The marked section after `<![`, which has to start with one of the words. -/
def readSection (s : List Char) : Reading :=
  let name := s.takeWhile isSectionNameChar
  let blanks := (s.dropWhile isSectionNameChar).takeWhile isBlank
  let word := lower (String.ofList name)
  let close? := if dataWords.contains word then some sectionEnd?
    else if conditionWords.contains word then some conditionEnd?
    else none
  match s with
  | [] => .cutOff
  | c :: _ =>
    if !isAsciiLetter c then .refused (.markup (.unnamedSection (sectionStart s)))
    else if name.length + blanks.length == s.length then .cutOff
    else match close? with
      | none => .refused (.markup (.unknownSection (String.ofList (name ++ blanks))))
      | some close? =>
        match untilEnd close? s with
        | none => .cutOff
        | some (inside, rest) => .next [sectionToken inside] none rest

/-- The declaration after `<!`. -/
def readDeclaration (s : List Char) : Reading :=
  match s with
  | '-' :: '-' :: inside =>
    match untilEnd commentEnd? inside with
    | none => .cutOff
    | some (inside, rest) => .next [.comment inside] none rest
  | '[' :: inside => readSection inside
  | _ =>
    if (s.take 7).map Char.toLower == "doctype".toList then
      match cutAt ['>'] s with
      | none => .cutOff
      | some (inside, rest) => .next [.doctype (inside.drop 8)] none rest
    else readLooseComment s

/-- The processing instruction after `<?`. -/
def readInstruction (s : List Char) : Reading :=
  match cutAt ['>'] s with
  | none => .cutOff
  | some (inside, rest) => .next [.instruction inside] none rest

/-- What starts at a `<`. -/
def readTag (s : List Char) : Reading :=
  match s with
  | '<' :: '/' :: rest => readFinish rest
  | '<' :: '!' :: rest => readDeclaration rest
  | '<' :: '?' :: rest => readInstruction rest
  | '<' :: c :: rest =>
    if isAsciiLetter c then readStart s else .next [.data ['<']] none (c :: rest)
  | _ => .stop [] s

/-- Drops one semicolon at the start. -/
def dropSemicolon : List Char → List Char
  | ';' :: rest => rest
  | s => s

/-- The numeric reference after `&#`: one that is not followed by a further character, or is
followed by a hexadecimal digit, stops the pass. -/
def readNumber (s : List Char) : Reading :=
  let (base, digits, rest) := match s with
    | 'x' :: r => (16, r.takeWhile isHexDigit, r.dropWhile isHexDigit)
    | 'X' :: r => (16, r.takeWhile isHexDigit, r.dropWhile isHexDigit)
    | r => (10, r.takeWhile Char.isDigit, r.dropWhile Char.isDigit)
  let bail : Reading :=
    if s.contains ';' then .stop [.data ['&', '#']] s else .stop [] ('&' :: '#' :: s)
  match digits, rest with
  | _ :: _, c :: _ =>
    if isHexDigit c then bail
    else
      let code := if base == 10 then decimalNumber digits else .ok (numberIn base digits)
      Reading.ofExcept code fun code => .next [.data [characterOf code]] none (dropSemicolon rest)
  | _, _ => bail

/-- A character of an entity name, its first one apart. -/
def isEntityNameChar (c : Char) : Bool := isAsciiAlnum c || c == '-' || c == '.'

/-- The longest entity name at the start that is followed by a character which is no letter or
digit, and what follows it. -/
def entityName? (s : List Char) : Option (List Char × List Char) :=
  let run := s.takeWhile isEntityNameChar
  let rest := s.dropWhile isEntityNameChar
  if !rest.isEmpty then some (run, rest)
  else
    -- at the end of the text the name ends before the last dash or dot
    let tail := run.reverse.takeWhile isAsciiAlnum
    match run.reverse.dropWhile isAsciiAlnum with
    | [] => none
    | mark :: before =>
      if before.isEmpty then none else some (before.reverse, mark :: tail.reverse)

/-- The named reference after `&`; with `final`, an ampersand and a letter that end the text give
the letter alone. -/
def readEntity (final : Bool) (s : List Char) : Reading :=
  match s with
  | [] => .stop [] ['&']
  | c :: rest =>
    if isAsciiLetter c then
      match entityName? s with
      | some (name, after) =>
        match named? (String.ofList name) with
        | some characters => .next [.data characters] none (dropSemicolon after)
        | none => .next [.data ('&' :: name)] none (dropSemicolon after)
      | none => .stop [] (if final && rest.isEmpty then s else '&' :: s)
    else .next [.data ['&']] none s

/-- What starts at a `&`. -/
def readReference (final : Bool) (s : List Char) : Reading :=
  match s with
  | '&' :: '#' :: rest => readNumber rest
  | '&' :: rest => readEntity final rest
  | _ => .stop [] s

/-- The end of a raw element: its end tag, blanks allowed around the name. -/
def rawEnd? (name : String) (s : List Char) : Option (List Char) :=
  match s with
  | '<' :: '/' :: rest =>
    let rest := rest.dropWhile isBlank
    let word := name.toList
    if (rest.take word.length).map Char.toLower == word then
      match (rest.drop word.length).dropWhile isBlank with
      | '>' :: after => some after
      | _ => none
    else none
  | _ => none

/-- The content of a raw element and its end tag. -/
def readRaw (name : String) (s : List Char) : Reading :=
  match untilEnd (rawEnd? name) s with
  | none => .stop [] s
  | some (inside, rest) => .next [.data inside, .finish name] none rest

/-- A cut-off construct taken as data: up to its next closing bracket, else up to the next opening
one, else its first character. -/
def readCutOff (s : List Char) : Reading :=
  let tail := s.drop 1
  match cutAt ['>'] tail with
  | some (inside, rest) => .next [.data (s.take 1 ++ inside ++ ['>'])] none rest
  | none =>
    match cutAt ['<'] tail with
    | some (inside, rest) => .next [.data (s.take 1 ++ inside)] none ('<' :: rest)
    | none => .next [.data (s.take 1)] none tail

/-- A character that starts a tag or a reference. -/
def startsMarkup (c : Char) : Bool := c == '<' || c == '&'

/-- One step of a pass. -/
def read (final : Bool) (raw : Option String) (s : List Char) : Reading :=
  match raw, s with
  | some name, s => readRaw name s
  | none, [] => .stop [] []
  | none, c :: rest =>
    if c == '<' then
      match readTag s with
      | .cutOff => if final then readCutOff s else .stop [] s
      | reading => reading
    else if c == '&' then readReference final s
    else .next [.data (c :: rest.takeWhile fun c => !startsMarkup c)] none
      (rest.dropWhile fun c => !startsMarkup c)

/-- What a pass leaves: the raw element it stopped in, and the characters. -/
abbrev Remainder : Type := Option String × List Char

/-- What a pass reads and leaves. -/
def pass (final : Bool) (raw : Option String) (s : List Char) :
    Except Fault (List Token × Remainder) :=
  match read final raw s with
  | .next tokens raw' rest =>
    if rest.length < s.length then
      match pass final raw' rest with
      | .ok (more, left) => .ok (tokens ++ more, left)
      | .error f => .error f
    else .ok (tokens, raw', rest)
  | .cutOff => .ok ([], raw, s)
  | .stop tokens rest => .ok (tokens, raw, rest)
  | .refused f => .error f
termination_by s.length

/-- The tokens of a text. -/
def Token.scan (s : List Char) : Except Fault (List Token) := do
  let (first, raw, rest) ← pass false none s
  let (second, raw, rest) ← pass true raw rest
  return first ++ second ++ (if raw.isNone && !rest.isEmpty then [.data rest] else [])

end Componentry.Markup
