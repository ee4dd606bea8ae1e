import Componentry.Selector.Known
import Componentry.Selector.Token

/-!
# Reading selectors

Tests that stand together must all hold; combinators ask for another element before the one meant;
commas separate alternatives. Inside `:has` the combinators look forward. A list that forgives may
have empty alternatives, which mean nothing, and unfinished ones, the last one only where none is
complete. The first mistake from left to right ends the reading. A selector that has been read may
still be too large.
-/

set_option autoImplicit false

namespace Componentry.Selector

/-- Where a list of alternatives stands. -/
inductive Setting where
  /-- The whole selector. -/
  | whole
  /-- The arguments of a pseudo-class. -/
  | arguments
  /-- Arguments that may be empty. -/
  | forgiving
  /-- Arguments that look forward from the element. -/
  | forward
deriving Repr, DecidableEq

/-- Why reading ends early. -/
inductive Refusal where
  | mistake (m : Mistake) (place : Nat)
  | fault (f : Fault)

/-- What has been read of a list of alternatives: the finished ones, whether one of them is
complete, the tests of the one at hand, whether there are any, and what was asked before it. For
lists that look forward the links already read are kept in order. One test that knows frames makes
the whole list keep to one page. -/
structure Draft where
  done : List Sized := []
  complete : Bool := false
  compound : Compound := {}
  started : Bool := false
  asked : Option (Relation × Sized) := none
  links : List (Relation × Compound) := []
  reach : Relation := .ancestor
  framed : Bool := false

/-- The sign of a combinator. -/
def signOf : Relation → Char
  | .parent | .child => '>'
  | .earlier | .later => '~'
  | .previous | .next => '+'
  | .ancestor | .descendant => ' '

/-- The relation that looks forward where a combinator looks back. -/
def forwardOf : Relation → Relation
  | .ancestor => .descendant
  | .parent => .child
  | .earlier => .later
  | .previous => .next
  | r => r

/-- A chain of links that look forward, none for no links; its size is that of what is nested in the
first one. -/
def chain? : List (Relation × Compound) → Option Sized
  | [] => none
  | (r, c) :: rest =>
    let rest := chain? rest
    some ⟨.related (forwardOf r) (c.toSelector (rest.map Sized.selector)), c.size rest⟩

namespace Draft

/-- Adds a test with lists nested in it to the alternative at hand. -/
def testSized (d : Draft) (turn : Turn) (s : Sized) : Draft :=
  { d with compound := d.compound.add turn s, started := true }

/-- Adds a test to the alternative at hand. -/
def test (d : Draft) (turn : Turn) (s : Selector) : Draft := d.testSized turn ⟨s, 0⟩

/-- Adds a test of the text. -/
def textTest (d : Draft) (t : TextTest) : Draft :=
  { d with compound := { d.compound with texts := d.compound.texts ++ [t] }, started := true }

/-- Makes the alternative at hand one that no element meets. -/
def fail (d : Draft) : Draft :=
  { d with compound := { d.compound with impossible := true }, started := true }

/-- Adds what a pseudo-class without arguments asks. -/
def mean (d : Draft) : Meaning → Draft
  | .impossible => d.fail
  | .tests l => l.foldl (fun d (turn, s) => d.testSized turn s) d

/-- Makes the whole list keep to one page. -/
def frame (d : Draft) : Draft := { d with framed := true }

/-- The alternative at hand together with what was asked before. -/
def whole (d : Draft) : Sized :=
  ⟨d.compound.toSelector (d.asked.map fun (r, s) => .related r s.selector),
    d.compound.size (d.asked.map Prod.snd)⟩

/-- The alternative at hand of a list that looks forward: no test, and a relation. -/
def ahead (d : Draft) : Sized :=
  match chain? (d.links ++ [(d.reach, d.compound)]) with
  | some s => ⟨s.selector, listSize [s.size]⟩
  | none => ⟨.any, 0⟩

/-- The finished alternative. -/
def alternative (setting : Setting) (d : Draft) : Sized :=
  if !d.started then ⟨.never, 0⟩ else if setting = .forward then d.ahead else d.whole

/-- The end of a list of alternatives. -/
def finish (setting : Setting) (d : Draft) : Sized :=
  let all := d.done ++ [d.alternative setting]
  let one := oneOf (all.map Sized.selector)
  ⟨if d.framed then .framed one else one, listSize (all.map Sized.size)⟩

/-- Takes in a comma. -/
def separate (setting : Setting) (place : Nat) (d : Draft) : Except Refusal Draft :=
  if d.started || setting = .forgiving then
    .ok { done := d.done ++ [d.alternative setting], complete := d.complete || d.started,
          framed := d.framed }
  else .error (.mistake (.lonelyCombinator ',') place)

/-- Takes in a combinator. -/
def combine (setting : Setting) (r : Relation) (place : Nat) (d : Draft) : Except Refusal Draft :=
  if setting = .forward then
    if d.started then
      .ok { d with links := d.links ++ [(d.reach, d.compound)], compound := {}, started := false,
                   reach := r }
    else if d.reach != .ancestor then .error (.mistake .severalCombinators place)
    else .ok { d with compound := {}, reach := r }
  else if d.started then
    .ok { d with compound := {}, started := false, asked := some (r, d.whole) }
  else .error (.mistake (.lonelyCombinator (signOf r)) place)

/-- The list may end with the alternative at hand. -/
def mayEnd (setting : Setting) (d : Draft) : Bool :=
  d.started || (setting = .forgiving && !(d.complete && d.asked.isSome))

/-- Takes in a token that stands for itself alone; the place is where the token before it ended. -/
def take (setting : Setting) (place : Nat) (l : Lexeme) (d : Draft) : Except Refusal Draft :=
  match l.token with
  | .here => .ok (d.test .scope (.feature .scope))
  | .id s => .ok (d.test .id (.feature (.id s)))
  | .className s => .ok (d.test .className (.feature (.className s)))
  | .name space s =>
    if d.started then .error (.mistake .lateName l.start)
    else
      let name : Selector := match s with
        | none => .any
        | some s => .feature (.name s)
      .ok (d.test .name (match space with
        | .any => name
        | .page => .both .whereFramed name
        | .foreign => .never))
  | .value name negated value =>
    let test : Selector := .feature (.value name value)
    .ok (if negated then d.testSized .nested ⟨.unless test, withoutSize⟩ else d.test .value test)
  | .language ranges => .ok (d.test .language (.language ranges))
  | .direction x => .ok (d.test .direction (.feature (.direction x))).frame
  | .text t => .ok (d.textTest t)
  | .nth position _ =>
    -- all siblings count by a list of one test, those of a name by an empty list
    .ok (d.testSized .position
      ⟨.nth position .any, plainSize (if position.ofType then 0 else 1)⟩)
  | .relation r => d.combine setting r place
  | .comma => d.separate setting place
  | .pseudo name opens =>
    match if opens then none else Meaning.ofKeyword? name with
    | some m => .ok (if name == "defined" then (d.mean m).frame else d.mean m)
    | none =>
      .error (.mistake (if isKnownName name then .misused (":" ++ name) else .unknown (":" ++ name))
        l.start)
  | .custom name => .error (.mistake (.undefined (":" ++ name)) l.stop)
  | .part => .error (.fault (.partOfElement l.start))
  | .rule => .error (.fault (.holdsRule l.start))
  | .unusable isName f =>
    if isName && d.started then .error (.mistake .lateName l.start) else .error (.fault f)
  | .malformed m => .error (.mistake m l.start)
  | .close =>
    if !d.mayEnd setting then .error (.mistake .missing l.start)
    else if setting = .whole then .error (.mistake .strayClose l.start)
    else .ok d

end Draft

/-- How the list after an opening bracket is read, and what it becomes; none where a pseudo-class
takes no list. -/
def opening? (name : String) : Option (Setting × (Sized → Draft → Draft)) :=
  let nested (s : Sized) (d : Draft) : Draft := d.testSized .nested s
  match name with
  | "is" | "where" => some (.forgiving, nested)
  | "has" => some (.forward, nested)
  | "matches" | "contains" | "-soup-contains" | "-soup-contains-own" => some (.arguments, nested)
  | "not" => some (.arguments, fun s => nested ⟨.unless s.selector, s.size⟩)
  | "current" | "host" | "host-context" => some (.arguments, fun _ d => d.fail)
  | _ => none

/-- Reads alternatives up to the closing bracket, or to the end for a whole selector, and gives
what follows. The place is where the token before ended, and the fuel is one more than the number
of tokens. -/
def readList : Nat → Setting → Draft → Nat → List Lexeme →
    Except Refusal (Sized × List Lexeme)
  | 0, _, _, place, _ => .error (.mistake .unclosed place)
  | fuel + 1, setting, d, place, lexemes =>
    match lexemes with
    | [] =>
      if setting != .whole then .error (.mistake .unclosed place)
      else if !d.started then .error (.mistake .missing place)
      else .ok (d.finish setting, [])
    | l :: rest =>
      -- the list that the token opens, and what becomes of it
      let inner := match l.token with
        | .nth position true =>
          some (Setting.arguments, fun (s : Sized) (d : Draft) =>
            d.testSized .position ⟨.nth position s.selector, s.size⟩)
        | .pseudo name true => opening? name
        | _ => none
      match inner with
      | some (inner, become) =>
        match readList fuel inner {} l.stop rest with
        | .ok (s, rest) => readList fuel setting (become s d) l.stop rest
        | .error e => .error e
      | none =>
        match d.take setting place l with
        | .error e => .error e
        | .ok d =>
          if l.token = Token.close then .ok (d.finish setting, rest)
          else readList fuel setting d l.stop rest

/-- The size of the largest selector. -/
def largestSize : Nat := 8192

/-- Reads a whole selector. -/
def parse (s : String) : Except Fault Selector :=
  let characters := s.toList.map fun c => if c == '\x00' then Char.ofNat 0xFFFD else c
  let lexemes := Lexeme.scan characters
  match readList (lexemes.length + 1) .whole {} 0 lexemes with
  | .ok (s, _) =>
    if largestSize < s.size then .error (.oversizedSelector largestSize) else .ok s.selector
  | .error (.mistake m place) => .error (.invalidSelector s (m.report characters place))
  | .error (.fault f) => .error f

end Componentry.Selector
