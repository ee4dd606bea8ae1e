import Componentry.Stylesheet.Conversion

/-!
# Style converters

A converter is used again and again, and keeps what its last run made: its rules, the class names
that are shared, the numbers in use behind class names, its figures, and the variables of the last
style sheet. It converts markup in one pass: each element that declares a style is given its
classes where it is met. A style sheet can also be written for styles that were found before.

A session converts one text after another with one converter, which can be changed. It keeps what
was converted.
-/

set_option autoImplicit false

namespace Componentry
open Componentry.Text Componentry.Markup Componentry.Stylesheet

/-- A converter, with what its last run made: figures, rules, the class names for keys of
declarations, how often a class name was made, and the variables of the style sheet. -/
structure StyleConverter where
  strategy : StyleStrategy
  figures : StyleFigures := {}
  rules : List Rule := []
  shared : Dict String := Dict.empty
  used : Dict Nat := Dict.empty
  sharedValues : Dict String := Dict.empty

namespace StyleConverter

/-- Forgets what was made, but for the variables. -/
def reset (c : StyleConverter) : StyleConverter :=
  { strategy := c.strategy, sharedValues := c.sharedValues }

/-- Adds the rule of a style under a class name. -/
def addRule (c : StyleConverter) (style : ElementStyle) (name : String) : StyleConverter :=
  { c with
    rules := c.rules ++ [{ selectors := ["." ++ name], declarations := style.declarations }]
    figures := { c.figures with
      classes := c.figures.classes + 1, rules := c.figures.rules + 1 } }

/-- The class of a rule for a style: the one that is shared for its key, or that of a new rule. -/
def ruleClass (o : StyleOptions) (style : ElementStyle) (c : StyleConverter) :
    String × StyleConverter :=
  let key := declarationKey style.declared
  match if o.shares then c.shared.get? key else none with
  | some name => (name, c)
  | none =>
    let base := c.strategy.baseClass o style key
    let count := (c.used.get? base).getD 0 + 1
    let name := if count == 1 then base else base ++ c.strategy.numberSeparator ++ natText count
    let c := { c with used := c.used.put base count }.addRule style name
    (name, if o.shares then { c with shared := c.shared.put key name } else c)

/-- The utility classes of a style, and what to say of its declarations without one. -/
def utilityNames (style : ElementStyle) (c : StyleConverter) :
    Except Fault (String × List String) × StyleConverter :=
  match style.declared.entries.mapM StyleStrategy.withUtility with
  | .error fault => (.error fault, c)
  | .ok found =>
    let classes := (found.filterMap Prod.snd).eraseDups
    let unsupported := found.filterMap fun ((property, value), class?) =>
      if class?.isNone then some ("Unsupported property: " ++ property ++ ": " ++ value) else none
    (.ok (join " " classes, unsupported),
      { c with figures := { c.figures with classes := c.figures.classes + classes.length } })

/-- The classes of a style, and what to say of it. -/
def classFor (o : StyleOptions) (style : ElementStyle) (c : StyleConverter) :
    Except Fault (String × List String) × StyleConverter :=
  match c.strategy with
  | .utility => c.utilityNames style
  | .scoped | .plain =>
    let (name, c) := c.ruleClass o style
    (.ok (name, []), c)

/-- The style sheet of the rules made so far. Its variables are those of the styles given, and stay
as they were where there is no rule. -/
def render (o : StyleOptions) (styles : List ElementStyle) (c : StyleConverter) :
    String × StyleConverter :=
  if c.rules.isEmpty then ("", c)
  else
    let c := { c with sharedValues := c.strategy.sharedValues o styles }
    (Stylesheet.write c.strategy.header c.sharedValues c.rules, c)

/-- Writes the style sheet for styles. A strategy without rules leaves everything as it is. -/
def generate (o : StyleOptions) (styles : List ElementStyle) (c : StyleConverter) :
    String × StyleConverter :=
  match c.strategy with
  | .utility => ("", c)
  | .scoped | .plain =>
    (styles.foldl (fun c style => (c.ruleClass o style).2) c.reset).render o styles

end StyleConverter

/-- A pass over markup: the converter as it stands, the styles met so far, the classes given to
them by the number of the element, and what there is to say. -/
structure StylePass where
  converter : StyleConverter
  styles : List ElementStyle := []
  classes : Dict String := Dict.empty
  warnings : List String := []

/-- A step of a pass, which a fault can end. -/
abbrev Styling : Type → Type := ExceptT Fault (StateM StylePass)

namespace StylePass

/-- An element with a style is met. -/
def meet (style : ElementStyle) (p : StylePass) : StylePass :=
  { p with
    styles := p.styles ++ [style]
    converter := { p.converter with figures := { p.converter.figures with
      elements := p.converter.figures.elements + 1 } } }

/-- The element met last is given classes. -/
def note (name : String) (p : StylePass) : StylePass :=
  if name == "" then p
  else { p with
    classes := p.classes.put ("el-" ++ natText p.converter.figures.elements) name
    converter := { p.converter with figures := { p.converter.figures with
      converted := p.converter.figures.converted + 1 } } }

/-- Asks the converter for the classes of a style. -/
def ask (o : StyleOptions) (style : ElementStyle) : Styling (String × List String) :=
  fun p => let (given, c) := p.converter.classFor o style
    (given, { p with converter := c })

/-- Gives a style its classes. -/
def give (o : StyleOptions) (style : ElementStyle) : Styling String := do
  modify (meet style)
  let (name, warnings) ← ask o style
  modify fun p => { p with warnings := p.warnings ++ warnings }
  modify (note name)
  return name

/-- Restyles an element that declares a style. -/
def visit (o : StyleOptions) (tag : Tag) : Styling Tag := do
  match ElementStyle.ofTag? tag with
  | none => return tag
  | some style => return tag.restyled o (← give o style)

mutual
/-- Restyles the elements of a tree in document order. -/
def tree (o : StyleOptions) : Tree → Styling Tree
  | .string kind text => return .string kind text
  | .element tag children => do
    let tag ← visit o tag
    return .element tag (← trees o children)

/-- Restyles the elements of the trees of a list. -/
def trees (o : StyleOptions) : List Tree → Styling (List Tree)
  | [] => return []
  | t :: rest => return (← tree o t) :: (← trees o rest)
end

end StylePass

namespace StyleConverter

/-- Converts the inline styles of markup. -/
def convert (o : StyleOptions) (markup : String) (c : StyleConverter) :
    Except Fault StyledMarkup × StyleConverter :=
  match Tree.parse markup with
  | .error fault => (.error fault, c.reset)
  | .ok tree =>
    match StylePass.trees o tree.children { converter := c.reset } with
    | (.error fault, p) => (.error fault, p.converter)
    | (.ok trees, p) =>
      let converted := if p.classes.isEmpty then markup else Tree.writeAll false trees
      let (sheet, c) := p.converter.render o p.styles
      let files := c.strategy.files o
      (.ok { strategy := c.strategy, markup := c.strategy.linked o converted, sheet,
             classes := p.classes, files, warnings := p.warnings },
        { c with figures := { c.figures with files := files.length } })

end StyleConverter

/-! ## Sessions -/

/-- A session. -/
structure StyleSession extends StyleConverter where
  history : List StyledMarkup := []

namespace StyleSession

/-- Converts a text. What is refused is counted as far as it went, and not kept. -/
def convert (s : StyleSession) (o : StyleOptions) (markup : String) :
    Except Fault StyledMarkup × StyleSession :=
  let (result, c) := s.toStyleConverter.convert o markup
  (result, { toStyleConverter := c, history := s.history ++ result.toOption.toList })

/-- Writes the style sheet for styles. -/
def generate (s : StyleSession) (o : StyleOptions) (styles : List ElementStyle) :
    String × StyleSession :=
  let (sheet, c) := s.toStyleConverter.generate o styles
  (sheet, { s with toStyleConverter := c })

/-- Goes on with a strategy anew. -/
def changeTo (s : StyleSession) (strategy : StyleStrategy) : StyleSession :=
  { strategy, history := s.history }

/-- Forgets what was converted. -/
def clear (s : StyleSession) : StyleSession := { s with history := [] }

/-- Forgets the figures, and the rules behind them. -/
def reset (s : StyleSession) : StyleSession :=
  { s with toStyleConverter := s.toStyleConverter.reset }

/-- The lines of a rule with the variables of the last style sheet, for a strategy with rules. -/
def ruleLines (s : StyleSession) (r : Rule) : Except Fault (List String) :=
  match s.strategy with
  | .utility => .error .noRules
  | .scoped | .plain => .ok (r.lines s.sharedValues)

end StyleSession
end Componentry
