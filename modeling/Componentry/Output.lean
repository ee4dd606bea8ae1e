import Componentry.Files.Tree

/-!
# Generated files

A run gives files of four kinds, each with a name and its content. They are written below a base
directory, each in the directory for its kind and under the last part of its name only, so that no
name leads out of that directory.
-/

set_option autoImplicit false

namespace Componentry

/-- What a generated file holds. -/
inductive FileKind where
  | component
  | style
  | type
  | index
deriving Repr, DecidableEq

namespace FileKind

/-- All kinds. -/
def all : List FileKind := [.component, .style, .type, .index]

/-- The word for a kind. -/
def name : FileKind → String
  | .component => "component"
  | .style => "style"
  | .type => "type"
  | .index => "index"

/-- The kind of a word. -/
def ofName? (s : String) : Option FileKind := all.find? fun k => k.name == s

/-- The directory that files of a kind belong into. -/
def directory : FileKind → String
  | .component | .type | .index => "components"
  | .style => "styles"

end FileKind

/-- A generated file. -/
structure GeneratedFile where
  name : String
  content : String
  kind : FileKind := .component
deriving Repr, DecidableEq

/-! ## Placing -/

namespace GeneratedFile

/-- Where a file is written. -/
def target (base : FilePath) (f : GeneratedFile) : FilePath :=
  (base.under ⟨"", [f.kind.directory]⟩).under
    ⟨"", (FilePath.ofText f.name).parts.getLast?.toList⟩

end GeneratedFile

namespace FileTree

/-- Writes a generated file, making the directories it needs. -/
def place (t : FileTree) (base : FilePath) (f : GeneratedFile) :
    FileTree × Except FileFault FilePath :=
  let target := f.target base
  match t.ensure target.parent with
  | (t, .error fault) => (t, .error fault)
  | (t, .ok ()) =>
    match t.write target f.content with
    | .ok t => (t, .ok target)
    | .error fault => (t, .error fault)

/-- Writes generated files one after the other; those written before a fault stay. -/
def placeAll (base : FilePath) : List GeneratedFile → FileTree →
    FileTree × Except FileFault (List FilePath)
  | [], t => (t, .ok [])
  | f :: rest, t =>
    match t.place base f with
    | (t, .error fault) => (t, .error fault)
    | (t, .ok target) =>
      let (t, more) := placeAll base rest t
      (t, more.map (target :: ·))

end FileTree
end Componentry
