import Componentry.Text.Letters
import Componentry.Text.Slice

/-!
# Arguments of a command line

Arguments are options, which start with a hyphen and may have a value, and plain ones. A long option
may be cut short as long as only one can be meant, and takes its value behind an equals sign or as
the next argument; a short one may also take it directly. Negative numbers, and texts with a space,
are plain, and so is all behind two hyphens. Arguments are taken from left to right; what is wrong
first refuses them, and an option that asks for help ends the reading.
-/

set_option autoImplicit false

namespace Componentry.CommandLine
open Componentry.Text

/-- Why the reading of arguments ends early. -/
inductive Stop where
  /-- Help is asked for. -/
  | help
  /-- The arguments make no sense. -/
  | refused
deriving Repr, DecidableEq

/-- What an option does to what was read so far. -/
inductive Effect (α : Type) where
  | help
  | flag (set : α → α)
  /-- The option takes a value, which it may refuse. -/
  | value (set : String → α → Option α)

namespace Effect
variable {α : Type}

/-- The option takes a value. -/
def takesValue : Effect α → Bool
  | .value _ => true
  | _ => false

/-- Takes an option in. -/
def apply (e : Effect α) (value : String) (state : α) : Except Stop α :=
  match e with
  | .help => .error .help
  | .flag set => .ok (set state)
  | .value set =>
    match set value state with
    | some state => .ok state
    | none => .error .refused

end Effect

/-- Options by their names. -/
abbrev Options (α : Type) := List (String × Effect α)

/-- The plain arguments that are wanted. -/
inductive Wanted where
  /-- Exactly one. -/
  | one
  /-- Any number of them together. -/
  | several
  /-- One, and everything behind it. -/
  | command
deriving Repr, DecidableEq

/-- What an argument is. -/
inductive Mark (α : Type) where
  | plain
  /-- Two hyphens, behind which all is plain. -/
  | divider
  /-- An option by its name, with the value that stands in the same argument. -/
  | option (name : String) (effect : Effect α) (value : Option String)
  /-- What looks like an option but is none. -/
  | unknown

namespace Mark
variable {α : Type}

/-- The text of a negative number; the end of a line may follow it. -/
def isNegativeNumber (s : List Char) : Bool :=
  match s with
  | '-' :: rest =>
    let body := match rest.reverse with
      | '\n' :: before => before.reverse
      | _ => rest
    let front := body.takeWhile isDecimal
    match body.dropWhile isDecimal with
    | [] => !front.isEmpty
    | '.' :: places => !places.isEmpty && places.all isDecimal
    | _ => false
  | _ => false

/-- An argument cut at its first equals sign. -/
def cut (s : List Char) : List Char × Option String :=
  match cutAt ['='] s with
  | some (front, value) => (front, some (String.ofList value))
  | none => (s, none)

/-- The options that an argument may mean when it is not one by itself. -/
def candidates (options : Options α) (s : List Char) : List (Mark α) :=
  match s with
  | '-' :: '-' :: _ =>
    let (front, value) := cut s
    (options.filter fun o => front.isPrefixOf o.1.toList).map fun (name, e) =>
      .option name e value
  | _ =>
    let short := String.ofList (s.take 2)
    (options.filter fun o => o.1 == short || s.isPrefixOf o.1.toList).map fun (name, e) =>
      .option name e (if name == short then some (String.ofList (s.drop 2)) else none)

/-- What an argument is that starts with a hyphen and more. -/
def ofHyphen (options : Options α) (s : List Char) : Except Stop (Mark α) :=
  match options.lookup (String.ofList s) with
  | some e => .ok (.option (String.ofList s) e none)
  | none =>
    let (front, value) := cut s
    match value, options.lookup (String.ofList front) with
    | some value, some e => .ok (.option (String.ofList front) e (some value))
    | _, _ =>
      match candidates options s with
      | [m] => .ok m
      | [] => .ok (if isNegativeNumber s || s.contains ' ' then .plain else .unknown)
      | _ => .error .refused

/-- What an argument is. -/
def ofText (options : Options α) (s : String) : Except Stop (Mark α) :=
  match s.toList with
  | '-' :: c :: rest => ofHyphen options ('-' :: c :: rest)
  | _ => .ok .plain

/-- An argument that is plain. -/
def isPlain : Mark α → Bool
  | .plain => true
  | _ => false

/-- An argument that divides. -/
def isDivider : Mark α → Bool
  | .divider => true
  | _ => false

end Mark

/-- An argument with what it is. -/
abbrev Marked (α : Type) := String × Mark α

section
variable {α : Type}

/-- Says of every argument what it is. -/
def markAll (options : Options α) : List String → Except Stop (List (Marked α))
  | [] => .ok []
  | s :: rest =>
    if s == "--" then .ok ((s, .divider) :: rest.map fun r => (r, .plain))
    else do
      let m ← Mark.ofText options s
      return (s, m) :: (← markAll options rest)

/-- How many arguments at the start are those that are wanted. -/
def Wanted.count? (w : Wanted) (l : List (Marked α)) : Option Nat :=
  let dividers := (l.takeWhile fun a => a.2.isDivider).length
  match w, l.drop dividers with
  | .several, _ => some (l.takeWhile fun a => a.2.isPlain || a.2.isDivider).length
  | .one, a :: rest =>
    if a.2.isPlain then
      some (dividers + 1 + (rest.takeWhile fun a => a.2.isDivider).length)
    else none
  | .command, a :: _ => if a.2.isPlain then some l.length else none
  | _, [] => none

/-- The texts of plain arguments; without a command, the first two hyphens among them do not
count. -/
def Wanted.texts (w : Wanted) (l : List (Marked α)) : List String :=
  match w with
  | .command => l.map Prod.fst
  | .one | .several => (l.map Prod.fst).erase "--"

/-- Short options that take no value, written together with others: what they do, and the value of
the last one if it has one in the same argument. -/
def together (options : Options α) : String → Effect α → List Char →
    Except Stop (List (Effect α) × Option String)
  | _, e, [] => .ok ([e], none)
  | name, e, c :: rest =>
    if e.takesValue then .ok ([e], some (String.ofList (c :: rest)))
    else if name.toList.take 2 == ['-', '-'] then .error .refused
    else
      let next := String.ofList ['-', c]
      match options.lookup next with
      | none => .error .refused
      | some f => do
        let (more, value) ← together options next f rest
        return (e :: more, value)

/-- What an option does, with the value that stands in the same argument. -/
def effects (options : Options α) (name : String) (e : Effect α) (value : Option String) :
    Except Stop (List (Effect α) × Option String) :=
  match value with
  | none => .ok ([e], none)
  | some v =>
    if e.takesValue then .ok ([e], some v)
    else if v == "" then .error .refused
    else together options name e v.toList

/-- Takes options in, one after the other. -/
def applyAll (value : String) : List (Effect α) → α → Except Stop α
  | [], state => .ok state
  | e :: rest, state => (e.apply value state).bind (applyAll value rest)

/-- What is read of the arguments: the state, whether the wanted ones were found, and whether some
were left over. -/
structure Progress (α : Type) where
  state : α
  found : Bool := false
  leftOver : Bool := false

/-- Reads arguments; the fuel is more than their number. -/
def readMarked (options : Options α) (w : Wanted) (take : List String → α → Except Stop α) :
    Nat → Progress α → List (Marked α) → Except Stop (Progress α)
  | 0, p, _ => .ok p
  | _ + 1, p, [] => .ok p
  | fuel + 1, p, (_, .unknown) :: rest =>
    readMarked options w take fuel { p with leftOver := true } rest
  | fuel + 1, p, (_, .option name e value) :: rest => do
    let (es, value) ← effects options name e value
    if es.any Effect.takesValue && value.isNone then
      match rest with
      | (v, .plain) :: rest =>
        let state ← applyAll v es p.state
        readMarked options w take fuel { p with state } rest
      | _ => .error .refused
    else
      let state ← applyAll (value.getD "") es p.state
      readMarked options w take fuel { p with state } rest
  | fuel + 1, p, a :: rest =>
    match if p.found then none else w.count? (a :: rest) with
    | some (n + 1) => do
      let state ← take (w.texts ((a :: rest).take (n + 1))) p.state
      readMarked options w take fuel { p with state, found := true } (rest.drop n)
    | _ => readMarked options w take fuel { p with leftOver := true } rest

/-- Reads all arguments. -/
def readArguments (options : Options α) (w : Wanted) (take : List String → α → Except Stop α)
    (start : α) (arguments : List String) : Except Stop α := do
  let marked ← markAll options arguments
  let p ← readMarked options w take (marked.length + 1) { state := start } marked
  let p ← if p.found then .ok p
    else match w with
      | .one => .error .refused
      | .several => (take [] p.state).map fun state => { p with state }
      | .command => .ok p
  if p.leftOver then .error .refused else .ok p.state

end
end Componentry.CommandLine
