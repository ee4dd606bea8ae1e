import Componentry.Fault
import Componentry.Selector
import Componentry.Selector.Frame

/-!
# Languages

An element is in the language that it or the nearest element around it on its page names, else in
the one that the head of the page declares. Languages are asked for by ranges: the parts of a range
occur in the language in order, the first one at the start, and only single characters may not be
passed over.
-/

set_option autoImplicit false

/-! ## What a search remembers

A page that declares no language is found to be silent the first time it is searched. That is kept
for the rest of the search, where the page then counts as one of no language.

A question about the elements in an element is not looked into twice. Positions among the elements
that a selector means keep what was found of each, from one side on, as far as the search has gone;
the questions for a sibling before or after keep the first or the last one that is meant.
-/

namespace Componentry

/-- A question about the elements in an element, which is given by its path, if there is one. -/
abbrev Question := Option (List Nat) × Selector

/-- What is kept for the rest of a search. -/
structure Memory where
  /-- The paths to the tops of the pages found silent. -/
  silent : List (List Nat) := []
  /-- For a question, what was found of each element from one side on, the last one first. -/
  judged : List (Question × List Bool) := []
  /-- For a question, the number of the element that settles it, if there is one. -/
  settled : List (Question × Option Nat) := []

/-- A search: it may refuse, and it keeps what it finds. -/
abbrev Search := StateT Memory (Except Fault)

namespace Search

/-- The answer of a new search. -/
def answer (s : Search Bool) : Except Fault Bool :=
  match s.run {} with
  | .ok (answer, _) => .ok answer
  | .error f => .error f

/-- The page below a top was found silent. -/
def isSilent (top : List Nat) : Search Bool := return (← get).silent.contains top

/-- Keeps that the page below a top is silent. -/
def keepSilent (top : List Nat) : Search Unit :=
  modify fun m => { m with silent := top :: m.silent }

/-- What was found for a question so far. -/
def judged (asked : Question) : Search (List Bool) := return ((← get).judged.lookup asked).getD []

/-- Keeps what was found for a question. -/
def keepJudged (asked : Question) (found : List Bool) : Search Unit :=
  modify fun m => { m with judged := (asked, found) :: m.judged }

/-- What settles a question, looked for only if that is not known; whether it was known is said as
well. -/
def settle (asked : Question) (look : Search (Option Nat)) : Search (Bool × Option Nat) := do
  match (← get).settled.lookup asked with
  | some found => return (true, found)
  | none =>
    let found ← look
    modify fun m => { m with settled := (asked, found) :: m.settled }
    return (false, found)

/-- A new search gives the answer that needs no search. -/
@[simp] theorem answer_pure (b : Bool) : answer (pure b) = .ok b := rfl

end Search
end Componentry

/-! ## Asking for languages -/

namespace Componentry.Selector
open Componentry.Text Componentry.Markup

/-! ### Ranges -/

/-- A range without the wildcards after its first part, each of which leaves a dash; the flag says
that a wildcard was just left out. A line feed may end the range. -/
def dropWildcards : Bool → List Char → List Char
  | _, [] => []
  | _, ['-', '*'] => ['-']
  | _, ['-', '*', '\n'] => ['-', '\n']
  | _, '-' :: '*' :: '-' :: rest => '-' :: dropWildcards true rest
  | true, ['*'] => []
  | true, ['*', '\n'] => ['\n']
  | true, '*' :: '-' :: rest => dropWildcards true rest
  | _, c :: rest => c :: dropWildcards false rest

/-- The later parts of a range occur in those of a language. -/
def partsCovered : List (List Char) → List (List Char) → Bool
  | [], _ => true
  | _ :: _, [] => false
  | part :: parts, own :: others =>
    if part.isEmpty then false
    else if own == part then partsCovered parts others
    else if own.length == 1 then false
    else partsCovered (part :: parts) others

/-- A range takes in a language. -/
def rangeCovers (range language : String) : Bool :=
  let parts := splitWhere (· == '-') (lowerChars (dropWildcards false range.toList))
  let own := splitWhere (· == '-') (lowerChars language.toList)
  match parts, own with
  | [[]], [[]] => true
  | ['*'] :: _, [[]] => false
  | first :: parts, start :: others =>
    (first == ['*'] || first == start) && partsCovered parts others
  | _, _ => false

/-! ### The language of an element -/

/-- The language that an element is given by itself or by those around it on its page. One that is
given as nothing counts only where no other one is. -/
def givenLanguage? (p : Place) : Option String :=
  let given := (p :: pageAncestors p).filterMap fun q => valueOf? q "lang"
  (given.find? fun language => language != "").or given.head?

/-- The outermost element of the page of an element. -/
def pageTop (p : Place) : Place := (pageAncestors p).getLast?.getD p

/-- The first element of a name directly inside another on its page. -/
def firstInside? (name : String) (p : Place) : Option Place :=
  (relatives true .child p).find? fun q => nameOf q == name

/-- The head of the page below a top. -/
def pageHead? (top : Place) : Option Place :=
  (firstInside? "html" top).bind (firstInside? "head")

/-- The language that a head declares. -/
def declaredLanguage? (head : Place) : Option String :=
  head.inside.findSome? fun q =>
    if nameOf q == "meta" && asciiLower (valueOrNone q "http-equiv") == "content-language" then
      (valueOf? q "content").filter fun language => language != ""
    else none

/-- The language of an element, if it has one. -/
def languageOf? (p : Place) : Search (Option String) := do
  if let some given := givenLanguage? p then return some given
  let top := pageTop p
  if ← Search.isSilent top.path then return some ""
  match pageHead? top with
  | none => return none
  | some head =>
    match declaredLanguage? head with
    | some declared => return some declared
    | none =>
      Search.keepSilent top.path
      return none

/-- The language of an element is in one of some ranges. -/
def speaks (ranges : List String) (p : Place) : Search Bool := do
  match ← languageOf? p with
  | some found => return ranges.any fun range => rangeCovers range found
  | none => return false

end Componentry.Selector
