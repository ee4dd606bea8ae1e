import Componentry.Document.Reader
import Componentry.Jsx.Source

/-!
# Generators

A generator writes one component after another with the same options and rules. It keeps its
figures, the parameters found last, and those of the user, to which more can be added.
-/

set_option autoImplicit false

namespace Componentry
open Componentry.Text Componentry.Jsx

/-- A written component. -/
structure GeneratedSource where
  fileName : String
  content : String
  warnings : List String
  figures : SourceFigures

/-- A generator. -/
structure Generator where
  options : SourceOptions
  rules : CustomRules := Dict.empty
  own : List Parameter := []
  found : List Parameter := []
  figures : SourceFigures := {}

namespace Generator

/-- A generator that has written nothing. -/
def start (o : SourceOptions) (rules : CustomRules) : Generator :=
  { options := o, rules, own := (o.typed.map TypedOptions.parameters).getD [] }

/-- All parameters. -/
def parameters (g : Generator) : List Parameter := mergeParameters g.found g.own

/-- Writes the component of a page; the figures are counted anew. -/
def generate (g : Generator) (root : Node) : Except Fault GeneratedSource × Generator :=
  let g := { g with found := g.options.detected root }
  let page := g.options.render g.rules SourceOptions.bodyLevel root
  match page.stopped with
  | some fault => (.error fault, { g with figures := page.figures })
  | none =>
    let content := g.options.content g.parameters page.text
    let figures := page.figures.add { components := 1, lines := (lines content).length }
    (.ok { fileName := g.options.fileName, content, warnings := page.warnings, figures },
      { g with figures })

/-- Reads markup and writes its component. Where the markup cannot be read, the figures are counted
anew all the same. -/
def generateMarkup (g : Generator) (markup : String) :
    Outcome (Except Fault GeneratedSource × Generator) :=
  (Document.read {} (some markup)).attempt.bind fun
    | .ok d => .ok (g.generate d.root)
    | .error fault => .ok (.error fault, { g with figures := {} })

/-- Renders a page at a level, counting on. The indent of a level beyond all counts of characters
cannot be written, but the page has been met by then. -/
def render (g : Generator) (level : Int) (root : Node) : Except Fault String × Generator :=
  let beyond := Layout.isBeyondCounts level
  let page := g.options.render g.rules (if beyond then 0 else level) root
  let g := { g with figures := g.figures.add page.figures }
  match page.stopped with
  | some fault => (.error fault, g)
  | none => (if beyond then .error (.number .beyondCounts) else .ok page.text, g)

/-- Writes one property, counting a style. -/
def writeOne (g : Generator) (p : Property) : Except Fault String × Generator :=
  let g := if isStyled p then
      { g with figures := g.figures.add { styles := 1 } }
    else g
  match writable p with
  | .error e => (.error e, g)
  | .ok () => (.ok (writeProperty g.options.renamesClass p), g)

/-- Forgets the figures. -/
def resetFigures (g : Generator) : Generator := { g with figures := {} }

/-- Adds a parameter of the user. -/
def addParameter (g : Generator) (p : Parameter) : Generator := { g with own := g.own ++ [p] }

/-- Takes the parameters of a name away. -/
def removeParameter (g : Generator) (name : String) : Generator :=
  { g with
    own := g.own.filter fun p => p.name != name
    found := g.found.filter fun p => p.name != name }

/-- Makes the function of a typed component the default of its file, or not. -/
def exportAs (g : Generator) (isDefault : Bool) : Generator :=
  { g with options := { g.options with
      typed := g.options.typed.map fun t => { t with isDefault } } }

end Generator
end Componentry
