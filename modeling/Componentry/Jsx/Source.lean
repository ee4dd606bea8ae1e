import Componentry.Jsx.Parameter
import Componentry.Jsx.Rendering
import Componentry.Layout

/-!
# The source of components

A component is a source file: what it imports, for a typed component the type of its parameters,
and a function that gives the rendered page.
-/

set_option autoImplicit false

namespace Componentry
open Componentry.Text Componentry.Jsx

/-- What a typed component declares. -/
structure TypedOptions where
  declaresType : Bool := true
  detects : Bool := false
  isDefault : Bool := false
  parameters : List Parameter := []

/-- How the source of a component is written. -/
structure SourceOptions where
  name : String := "Component"
  layout : LayoutOptions := {}
  importsLibrary : Bool := true
  imports : List String := []
  renamesClass : Bool := true
  typed : Option TypedOptions := none

namespace SourceOptions

/-- The name of the component. -/
def componentName (o : SourceOptions) : String := if o.name == "" then "Component" else o.name

/-- The language of the source, which is also the ending of its file. -/
def language (o : SourceOptions) : String := if o.typed.isSome then "tsx" else "jsx"

/-- The name of the file. -/
def fileName (o : SourceOptions) : String := o.componentName ++ "." ++ o.language

/-- The lines that import, and an empty one. -/
def importText (o : SourceOptions) : String :=
  let imports := (if o.importsLibrary then ["import React from 'react';"] else []) ++ o.imports
  if imports.isEmpty then "" else join "\n" imports ++ "\n\n"

/-- The parameters that a page has for a component. -/
def detected (o : SourceOptions) (root : Node) : List Parameter :=
  match o.typed with
  | some t => if t.detects then detect root else []
  | none => []

/-- The function of a component, around the text of the page. -/
def functionText (head body : String) (ending : List String) : String :=
  join "\n" ([head ++ " \x7b", "  return (", body, "  );", "\x7d", ""] ++ ending)

/-- The source of a component, before it is laid out. -/
def sourceText (o : SourceOptions) (parameters : List Parameter) (body : String) : String :=
  let name := o.componentName
  match o.typed with
  | none =>
    o.importText
      ++ functionText ("function " ++ name ++ "()") body ["export default " ++ name ++ ";", ""]
  | some t =>
    let keyword := if t.isDefault then "export default function " else "export function "
    o.importText
      ++ (if t.declaresType then parameterType name parameters else "")
      ++ functionText
        (keyword ++ name ++ "(" ++ parameterList name t.declaresType parameters ++ ")") body []

end SourceOptions

/-- The figures of rendering and writing a component. -/
structure SourceFigures where
  components : Nat := 0
  elements : Nat := 0
  attributes : Nat := 0
  styles : Nat := 0
  lines : Nat := 0
deriving Repr, DecidableEq

namespace SourceFigures

/-- Figures taken together. -/
def add (f g : SourceFigures) : SourceFigures :=
  { components := f.components + g.components, elements := f.elements + g.elements,
    attributes := f.attributes + g.attributes, styles := f.styles + g.styles,
    lines := f.lines + g.lines }

end SourceFigures

/-- A rendered page: its text, the figures so far and what there is to say, and why the rendering
stopped, if it did. -/
structure Rendered where
  text : String
  figures : SourceFigures
  warnings : List String
  stopped : Option Fault

namespace SourceOptions

/-- The level of the rendered page within a component. -/
def bodyLevel : Int := 2

/-- The properties of a node; only elements have any. -/
def propertiesOf (rules : CustomRules) (n : Node) : Except Fault (List Property) :=
  if n.isElement then
    keptProperties rules (n.attributes.toMarkup.entries.map fun (name, value) =>
      (name, .ofAttribute value))
  else .ok []

/-- The attributes of an element as text. -/
def attributesOf (o : SourceOptions) (rules : CustomRules) (label : Label) : String :=
  match propertiesOf rules (.mk label []) with
  | .ok l => writeProperties o.renamesClass l
  | .error _ => ""

/-- The properties of nodes up to the first one that has a value which cannot be used. -/
def collect (rules : CustomRules) : List Node → List (List Property) × Option Fault
  | [] => ([], none)
  | n :: rest =>
    match propertiesOf rules n with
    | .error e => ([], some e)
    | .ok l =>
      let (more, stopped) := collect rules rest
      (l :: more, stopped)

/-- Renders a page at a level. -/
def render (o : SourceOptions) (rules : CustomRules) (level : Int) (root : Node) : Rendered :=
  let (properties, stopped) := collect rules root.metFromRoot
  let all := properties.flatten
  { text := root.rendered (o.attributesOf rules) level
    figures :=
      { elements := properties.length + (if stopped.isSome then 1 else 0)
        attributes := all.length
        styles := (all.filter isStyled).length }
    warnings := all.filterMap (warning? o.renamesClass)
    stopped }

/-- The content of the file of a component. -/
def content (o : SourceOptions) (parameters : List Parameter) (body : String) : String :=
  Layout.write o.layout o.language (o.sourceText parameters body)

end SourceOptions
end Componentry
