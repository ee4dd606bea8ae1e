import Componentry.Dict
import Componentry.Outcome
import Componentry.Setting
import Componentry.Text.Case

/-!
# Levels of records

How much records have to matter to be kept is set for the root of all sources and for single ones.
A level is a number or the name of one, or a switch; a name that means nothing gives way to a
fallback.
-/

set_option autoImplicit false

namespace Componentry
open Componentry.Text

/-- A least level: a number, or a switch, which is kept as it was given. -/
inductive LogLevel where
  | number (n : Int)
  | switch (on : Bool)
deriving Repr, DecidableEq

/-- The number of a level; a switch that is on counts as one. -/
def LogLevel.value : LogLevel → Int
  | .number n => n
  | .switch on => if on then 1 else 0

/-- The least levels of records, of the root and of single sources. -/
structure LogLevels where
  root : LogLevel := .number 30
  sources : Dict LogLevel := Dict.empty

namespace LogLevels

/-- The names of levels. -/
def named : List (String × Int) := [
  ("CRITICAL", 50), ("FATAL", 50), ("ERROR", 40), ("WARN", 30), ("WARNING", 30), ("INFO", 20),
  ("DEBUG", 10), ("NOTSET", 0)]

/-- Words that are known but mean no level, with the text they mean, if it is one. -/
def misnamed : List (String × Option String) := [
  ("BASIC_FORMAT", some "%(levelname)s:%(name)s:%(message)s"), ("_STYLES", none)]

/-- The level that is asked for, or the fallback. -/
def levelOf (asked : Setting) (fallback : Int) : Except Fault LogLevel :=
  match asked with
  | .null => .ok (.number fallback)
  | .whole n => .ok (.number n)
  | .switch on => .ok (.switch on)
  | .text s =>
    match named.lookup (upper s), misnamed.lookup (upper s) with
    | some n, _ => .ok (.number n)
    | none, some (some text) => .error (.unknownLevel text)
    | none, some none => .error .unusableValue
    | none, none => .ok (.number fallback)
  | _ => .error .unusableValue

/-- A name of the root. -/
def isRoot (source : String) : Bool := source == "" || source == "root"

/-- The level of a source. -/
def levelOf? (l : LogLevels) (source : String) : Option LogLevel :=
  if isRoot source then some l.root else l.sources.get? source

/-- Sets the level of a source. -/
def put (l : LogLevels) (source : String) (level : LogLevel) : LogLevels :=
  if isRoot source then { l with root := level }
  else { l with sources := l.sources.put source level }

/-- Sets the levels that are asked for, one after the other. -/
def putAll (fallback : Int) : List (String × Setting) → LogLevels → Except Fault LogLevels
  | [], l => .ok l
  | (source, asked) :: rest, l => do
    let level ← levelOf asked fallback
    putAll fallback rest (l.put source level)

/-- Sources that say too much otherwise. -/
def quiet : List (String × Setting) := [("bs4", .text "WARNING"), ("networkx", .text "WARNING")]

/-- The sources that are kept quiet, where some are given. -/
def silenced (given : List (String × Setting)) : List (String × Setting) :=
  given.foldl (fun all s => Dict.putEntry s.1 s.2 all) quiet

/-- The levels for a run: of the root, of single sources, and of those kept quiet. -/
def configure (general : Setting) (single given : List (String × Setting)) :
    Except Fault LogLevels := do
  let root ← levelOf general 30
  let levels ← putAll 20 single { root }
  putAll 50 (silenced given) levels

/-- The number of a record's level. -/
def number : Level → Int
  | .warning => 30
  | .error => 40

end LogLevels

namespace Outcome

/-- An outcome with the records that matter enough only. -/
def atLeast {α : Type} (least : Int) (o : Outcome α) : Outcome α :=
  { o with records := o.records.filter fun r => least ≤ LogLevels.number r.level }

end Outcome
end Componentry
