import Componentry.Dict
import Componentry.Outcome
import Componentry.Setting.Cast
import Componentry.Setting.Reader

/-!
# The settings of a run

All settings are one value, a section as a rule, in which a path leads through sections: its keys
are what stands between points. A new value is cast to the kind of the one it replaces. Nothing can
be put in the place of a section, or below what is none; missing sections on the way are made.
-/

set_option autoImplicit false

namespace Componentry
open Componentry.Text

namespace Setting

/-- What keys lead to through sections. Null is nothing. -/
def at? : List String → Setting → Option Setting
  | [], s => if s.isNull then none else some s
  | key :: rest, s => (s.get? key).bind (at? rest)

/-- Why nothing can be put in a place. -/
inductive PlaceFault where
  /-- The key on the way has a value that is no section. -/
  | blocked (key : String)
  /-- The place holds a section. -/
  | holdsSection
deriving Repr, DecidableEq

/-- Puts a value in the place of keys among entries; the value may depend on what it replaces.
Sections that are missing on the way are made at once, and stay where the value is refused. -/
def put (value : Option Setting → Setting) : List String → List (String × Setting) →
    List (String × Setting) × Option PlaceFault
  | [], entries => (entries, none)
  | [key], entries =>
    match entries.lookup key with
    | some (.group _) => (entries, some .holdsSection)
    | old => (Dict.putEntry key (value old) entries, none)
  | key :: rest, entries =>
    match entries.lookup key with
    | none =>
      let (made, refused) := put value rest []
      (Dict.putEntry key (.group made) entries, refused)
    | some (.group inside) =>
      let (made, refused) := put value rest inside
      (Dict.putEntry key (.group made) entries, refused)
    | some _ => (entries, some (.blocked key))

/-- A new value in the place of an old one, cast where it can be. -/
def replacing (new : Setting) : Option Setting → Setting
  | none => new
  | some old =>
    match castLike? old new with
    | .ok (some made) => made
    | _ => new

end Setting

/-- The settings of a run. -/
structure Settings where
  root : Setting

namespace Settings

/-- The keys of a path. -/
def keysOf (path : String) : List String := (splitWhere (· == '.') path.toList).map String.ofList

/-- The value at a path; null is none. -/
def get? (s : Settings) (path : String) : Option Setting := s.root.at? (keysOf path)

/-- The report of a value that nothing was done with. -/
def refusal (path : String) : Setting.PlaceFault → String
  | .blocked key => "Cannot set value: '" ++ key ++ "' is not a dictionary."
  | .holdsSection => "Cannot set value: '" ++ path ++ "' is a section, not a setting."

/-- What there is to say of the cast that a new value would need. -/
def castReport (s : Settings) (path : String) (new : Setting) : Outcome Unit :=
  match s.get? path with
  | none => .ok ()
  | some old =>
    match Setting.castLike? old new with
    | .ok (some _) => .ok ()
    | .ok none => .warn ("Could not cast new value for '" ++ path ++ "' to type " ++ old.kindName
        ++ ". Storing as string.")
    | .error fault => .fail fault

/-- Puts a value at a path, and tells whether that was done. -/
def set (s : Settings) (path : String) (new : Setting) : Outcome (Bool × Settings) :=
  match s.root with
  | .group entries =>
    match Setting.put (Setting.replacing new) (keysOf path) entries with
    | (made, none) => (s.castReport path new).bind fun _ => .ok (true, ⟨.group made⟩)
    | (made, some refused) => ⟨[⟨.error, refusal path refused⟩], .ok (false, ⟨.group made⟩)⟩
  | _ => .fail .unsuitedValue

/-- Puts values at paths, one after the other; those that cannot be put are left out. -/
def setAll (s : Settings) : List (String × Setting) → Outcome Settings
  | [] => .ok s
  | (path, new) :: rest => do
    let (_, s) ← s.set path new
    setAll s rest

/-- The settings that a text gives; a missing or malformed text gives none. -/
def ofText : Option String → Except Fault Settings
  | none => .ok ⟨.group []⟩
  | some text =>
    match Setting.read text with
    | .ok root => .ok ⟨root⟩
    | .error .malformed => .ok ⟨.group []⟩
    | .error (.number digits) => .error (.number (.long digits))

/-- The settings of a run to which nothing else is said. -/
def standard : Settings := ⟨.group [
  ("debug", .group [("level", .text "WARNING")]),
  ("parser", .group [
    ("max_depth", .whole 100),
    ("preserve_whitespace", .switch false),
    ("include_comments", .switch false)]),
  ("splitter", .group [
    ("enabled", .switch true),
    ("min_element_count", .whole 3),
    ("max_component_depth", .whole 5),
    ("detect_patterns", .switch true),
    ("naming_convention", .text "PascalCase"),
    ("min_pattern_occurrences", .whole 2),
    ("similarity_threshold", .decimal 0.7),
    ("custom_component_selectors", .list [])]),
  ("generator", .group [
    ("output_format", .text "jsx"),
    ("component_name", .text "App"),
    ("include_react_import", .switch true),
    ("include_prop_types", .switch true),
    ("convert_class_to_class_name", .switch true),
    ("formatting", .group [
      ("indent_style", .text "spaces"),
      ("indent_size", .whole 2),
      ("print_width", .whole 80),
      ("single_quote", .switch true),
      ("semi", .switch true),
      ("enabled", .switch true)])]),
  ("css", .group [
    ("strategy", .text "vanilla"),
    ("extract_to_separate_file", .switch false),
    ("class_prefix", .text ""),
    ("optimize", .switch true),
    ("use_css_variables", .switch false),
    ("target_filename", .text "styles")]),
  ("output", .group [("directory", .text "output")])]⟩

end Settings
end Componentry
