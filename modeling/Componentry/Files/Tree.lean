import Componentry.Fault
import Componentry.Text.Blank
import Componentry.Text.Slice

/-!
# Trees of files

A tree holds directories and files with text, each in its place below the root. A path is followed
part by part, through directories only; a double point goes up again. Paths without a root start
from the working directory. What cannot be done names the path it was asked for.
-/

set_option autoImplicit false

/-! ## Paths

A path is a root, which is empty for a relative path, and the parts behind it. Empty parts and
single points say nothing and are left out; a double point stays, as it goes up from where it
stands.
-/

namespace Componentry
open Componentry.Text

/-- A path of a file or directory. -/
structure FilePath where
  root : String := ""
  parts : List String := []
deriving Repr, DecidableEq

namespace FilePath

/-- The root that a text starts with: two slashes are one of their own, more are as one. -/
def rootOf : List Char → String
  | '/' :: '/' :: '/' :: _ => "/"
  | '/' :: '/' :: _ => "//"
  | '/' :: _ => "/"
  | _ => ""

/-- A part that says something. -/
def counts (part : List Char) : Bool := part != [] && part != ['.']

/-- The path of a text. -/
def ofText (s : String) : FilePath :=
  { root := rootOf s.toList
    parts := ((splitWhere (· == '/') s.toList).filter counts).map String.ofList }

/-- The text of a path. -/
def text (p : FilePath) : String :=
  if p.root == "" && p.parts.isEmpty then "." else p.root ++ join "/" p.parts

/-- The path holds a character that no path has. -/
def isImpossible (p : FilePath) : Bool := p.text.toList.contains '\x00'

/-- The path starts at a root. -/
def isAbsolute (p : FilePath) : Bool := p.root != ""

/-- The last part, empty where there is none. -/
def name (p : FilePath) : String := p.parts.getLastD ""

/-- The path without its last part. -/
def parent (p : FilePath) : FilePath := { p with parts := p.parts.dropLast }

/-- A path from a directory; an absolute one stays as it is. -/
def under (directory p : FilePath) : FilePath :=
  if p.isAbsolute then p else { directory with parts := directory.parts ++ p.parts }

end FilePath
end Componentry

/-! ## Trees -/

namespace Componentry
open Componentry.Text

/-- What stands in a place. -/
inductive FileEntry where
  | directory
  | file (content : String)
deriving Repr, DecidableEq

/-- A tree of files and its working directory, by their parts from the root. -/
structure FileTree where
  entries : List (List String × FileEntry) := []
  workingDirectory : List String := []

/-- Why a path does not lead on. -/
inductive Obstacle where
  | missing
  | notDirectory
  | nameTooLong
deriving Repr, DecidableEq

namespace Obstacle

/-- The fault of a path with an obstacle. -/
def toFault (path : FilePath) : Obstacle → FileFault
  | .missing => .missing path.text
  | .notDirectory => .notDirectory path.text
  | .nameTooLong => .nameTooLong path.text

end Obstacle

namespace FileTree

/-- What stands in a place; the root is a directory. -/
def entry? (t : FileTree) : List String → Option FileEntry
  | [] => some .directory
  | place => t.entries.lookup place

/-- Puts something in a place. -/
def put (t : FileTree) (place : List String) (e : FileEntry) : FileTree :=
  { t with entries := (t.entries.filter fun old => old.1 != place) ++ [(place, e)] }

/-- The most bytes of a name. -/
def longestName : Nat := 255

/-- The place that parts lead to from a place; nothing need stand there. -/
def follow (t : FileTree) : List String → List String → Except Obstacle (List String)
  | place, [] => .ok place
  | place, part :: rest =>
    match t.entry? place with
    | none => .error .missing
    | some (.file _) => .error .notDirectory
    | some .directory =>
      if part == ".." then follow t place.dropLast rest
      else if longestName < part.utf8ByteSize then .error .nameTooLong
      else follow t (place ++ [part]) rest

/-- The most bytes of a path. -/
def longestPath : Nat := 4095

/-- The place of a path. -/
def locate (t : FileTree) (path : FilePath) : Except FileFault (List String) :=
  if path.isImpossible then .error .impossible
  else if longestPath < path.text.utf8ByteSize then .error (.nameTooLong path.text)
  else match t.follow (if path.isAbsolute then [] else t.workingDirectory) path.parts with
  | .ok place => .ok place
  | .error obstacle => .error (obstacle.toFault path)

/-- The text of a file. -/
def read (t : FileTree) (path : FilePath) : Except FileFault String := do
  let place ← t.locate path
  match t.entry? place with
  | none => .error (.missing path.text)
  | some .directory => .error (.isDirectory path.text)
  | some (.file content) => .ok content

/-- A path is that of a directory. -/
def hasDirectory (t : FileTree) (path : FilePath) : Bool :=
  match t.locate path with
  | .ok place => t.entry? place == some .directory
  | .error _ => false

/-- Makes a directory where nothing stands. -/
def addDirectory (t : FileTree) (path : FilePath) : Except FileFault FileTree := do
  let place ← t.locate path
  match t.entry? place with
  | some _ => .error (.occupied path.text)
  | none => .ok (t.put place .directory)

/-- A directory that is there already is as good as a new one. -/
def orPresent (t : FileTree) (path : FilePath) (made : Except FileFault FileTree) :
    Except FileFault FileTree :=
  match made with
  | .error f => if t.hasDirectory path then .ok t else .error f
  | made => made

/-- A directory is made behind directories that are missing. -/
def isMissing : FileFault → Bool
  | .missing _ => true
  | _ => false

/-- Makes a directory, and first those that it stands in. The fuel is the number of its parts; what
was made before a fault stays. -/
def ensureFrom (root : String) : Nat → List String → FileTree → FileTree × Except FileFault Unit
  | 0, parts, t =>
    match t.orPresent ⟨root, parts⟩ (t.addDirectory ⟨root, parts⟩) with
    | .ok t => (t, .ok ())
    | .error f => (t, .error f)
  | fuel + 1, parts, t =>
    let path : FilePath := ⟨root, parts⟩
    match t.addDirectory path with
    | .ok t => (t, .ok ())
    | .error f =>
      if isMissing f then
        match ensureFrom root fuel parts.dropLast t with
        | (t, .error f) => (t, .error f)
        | (t, .ok ()) =>
          match t.addDirectory path with
          | .ok t => (t, .ok ())
          | .error f => if t.hasDirectory path then (t, .ok ()) else (t, .error f)
      else if t.hasDirectory path then (t, .ok ())
      else (t, .error f)

/-- Makes a directory with all that it stands in, unless it is there. -/
def ensure (t : FileTree) (path : FilePath) : FileTree × Except FileFault Unit :=
  ensureFrom path.root path.parts.length path.parts t

/-- Writes a file, over an old one or in a directory that is there. -/
def write (t : FileTree) (path : FilePath) (content : String) : Except FileFault FileTree := do
  let place ← t.locate path
  match t.entry? place with
  | some .directory => .error (.isDirectory path.text)
  | _ => .ok (t.put place (.file content))

/-- Writes a file with the directories it stands in, if its path allows that. -/
def add (t : FileTree) (path : FilePath) (content : String) : FileTree :=
  let (t, _) := t.ensure path.parent
  match t.write path content with
  | .ok t => t
  | .error _ => t

/-- The tree whose working directory holds files. -/
def ofFiles (workingDirectory : List String) (files : List (String × String)) : FileTree :=
  files.foldl (fun t f => t.add (FilePath.ofText f.1) f.2)
    { entries := [(workingDirectory, .directory)], workingDirectory }

/-- The files below the working directory, by their paths from there. -/
def files (t : FileTree) : List (String × String) :=
  t.entries.filterMap fun (place, e) =>
    match restOf? t.workingDirectory place, e with
    | some rest, .file content => some (join "/" rest, content)
    | _, _ => none
where
  /-- The parts behind those of a directory. -/
  restOf? : List String → List String → Option (List String)
    | [], place => some place
    | d :: ds, p :: ps => if d == p then restOf? ds ps else none
    | _ :: _, [] => none

end FileTree
end Componentry
