import Componentry.Digest
import Componentry.Fault
import Componentry.Markup.Tree.Printer
import Componentry.Stylesheet.Rule
import Componentry.Stylesheet.Utility
import Componentry.Sum

/-!
# Converting inline styles

Inline styles become rules in a style sheet of its own, rules in a sheet whose class names are
scoped, or utility classes. Every element that declares a style is given class names for it, in
document order: those of a rule that is added to the style sheet, or utility classes. With sharing,
equal sets of declarations have one rule; otherwise every element has its own, and a class name that
is taken gets a number.
-/

set_option autoImplicit false

namespace Componentry

/-! ## Strategies -/

/-- A strategy for inline styles. -/
inductive StyleStrategy where
  | scoped
  | utility
  | plain
deriving Repr, DecidableEq

namespace StyleStrategy

/-- All strategies in the order of their names. -/
def all : List StyleStrategy := [.scoped, .utility, .plain]

/-- The name of a strategy. -/
def name : StyleStrategy → String
  | .scoped => "css-modules"
  | .utility => "tailwind"
  | .plain => "vanilla"

/-- The strategy of a name. -/
def ofName (s : String) : Except Fault StyleStrategy :=
  match all.find? fun k => k.name == s with
  | some k => .ok k
  | none => .error (.unknownStrategy s (all.map name))

/-- What the names of its style sheets end with; nothing where it writes none. -/
def fileEnding : StyleStrategy → String
  | .scoped => ".module.css"
  | .utility => ""
  | .plain => ".css"

/-- The lines that open a style sheet. -/
def header : StyleStrategy → List String
  | .scoped => ["CSS Modules - Auto-generated", "Class names are scoped to prevent conflicts"]
  | .utility => []
  | .plain => ["Vanilla CSS - Auto-generated", "Extracted from inline styles"]

/-- What stands between a class name and its number. -/
def numberSeparator : StyleStrategy → String
  | .scoped => "_"
  | .utility | .plain => "-"

end StyleStrategy

/-! ## Conversion -/

open Componentry.Text Componentry.Markup Componentry.Stylesheet

/-- How inline styles are converted. -/
structure StyleOptions where
  keepsInline : Bool := false
  separateFile : Bool := false
  classStart : String := ""
  usesVariables : Bool := false
  digits : Int := 6
  shares : Bool := false
  fileName : String := "styles"

/-- The figures of a conversion. -/
structure StyleFigures where
  elements : Nat := 0
  converted : Nat := 0
  classes : Nat := 0
  rules : Nat := 0
  files : Nat := 0

/-- The classes given to styles and the rules behind them. -/
structure Classing where
  given : List String := []
  rules : List Rule := []
  shared : Dict String := Dict.empty
  used : Dict Nat := Dict.empty
  unsupported : List String := []

namespace StyleStrategy

/-- A name as the start of a class name. -/
def classStartOf (tag : String) : String :=
  let plain := (lowerChars tag.toList).filter fun c => ('a' ≤ c && c ≤ 'z') || c.isDigit
  if plain.isEmpty then "class" else String.ofList (plain.take 10)

/-- The class name of a set of declarations, before it is numbered. -/
def baseClass (s : StyleStrategy) (o : StyleOptions) (style : ElementStyle) (key : String) :
    String :=
  match s with
  | .scoped =>
    let digest := Digest.start key (max o.digits 6)
    if o.classStart == "" then "_" ++ digest else o.classStart ++ "_" ++ digest
  | .plain | .utility =>
    let start := if o.classStart == "" then classStartOf style.tag else o.classStart
    start ++ "-" ++ Digest.start key o.digits

/-- Gives a style the class of a rule. -/
def giveRule (s : StyleStrategy) (o : StyleOptions) (c : Classing) (style : ElementStyle) :
    Classing :=
  let key := declarationKey style.declared
  match if o.shares then c.shared.get? key else none with
  | some name => { c with given := c.given ++ [name] }
  | none =>
    let base := s.baseClass o style key
    let count := (c.used.get? base).getD 0 + 1
    let name := if count == 1 then base else base ++ s.numberSeparator ++ natText count
    { c with
      given := c.given ++ [name]
      rules := c.rules ++ [{ selectors := ["." ++ name], declarations := style.declarations }]
      shared := if o.shares then c.shared.put key name else c.shared
      used := c.used.put base count }

/-- A declaration with its utility class, if it has one. -/
def withUtility (declaration : String × String) :
    Except Fault ((String × String) × Option String) :=
  (utilityClass? declaration.1 declaration.2).map fun class? => (declaration, class?)

/-- Gives a style its utility classes; declarations without one stay as they are. -/
def giveUtilities (c : Classing) (style : ElementStyle) : Except Fault Classing :=
  (style.declared.entries.mapM withUtility).map fun found =>
    { c with
      given := c.given ++ [join " " ((found.filterMap Prod.snd).eraseDups)]
      unsupported := c.unsupported ++ found.filterMap fun ((property, value), class?) =>
        if class?.isNone then some ("Unsupported property: " ++ property ++ ": " ++ value)
        else none }

/-- Gives styles their utility classes, one after the other, up to the first that is refused. -/
def giveAllUtilities (c : Classing) : List ElementStyle → Classing × Option Fault
  | [] => (c, none)
  | style :: rest =>
    match giveUtilities c style with
    | .ok c => giveAllUtilities c rest
    | .error fault => (c, some fault)

/-- Gives styles the classes of rules, one after the other. -/
def rulesFor (s : StyleStrategy) (o : StyleOptions) (styles : List ElementStyle) : Classing :=
  styles.foldl (s.giveRule o) {}

/-- Gives styles their classes, and the fault that ended this early. -/
def classing (s : StyleStrategy) (o : StyleOptions) (styles : List ElementStyle) :
    Classing × Option Fault :=
  match s with
  | .utility => giveAllUtilities {} styles
  | .scoped | .plain => (s.rulesFor o styles, none)

/-- The utility classes of declarations, for the strategy that knows them. -/
def utilityClasses (s : StyleStrategy) (declared : List (String × String)) :
    Except Fault (List String) :=
  match s with
  | .utility => (declared.mapM withUtility).map fun found => found.filterMap Prod.snd
  | .scoped | .plain => .error .noUtilities

/-- The variables of a style sheet. -/
def sharedValues (s : StyleStrategy) (o : StyleOptions) (styles : List ElementStyle) :
    Dict String :=
  if s == .scoped && o.usesVariables then repeatedValues styles else Dict.empty

/-- The style sheet for styles. -/
def sheet (s : StyleStrategy) (o : StyleOptions) (styles : List ElementStyle) : String :=
  match s with
  | .utility => ""
  | .scoped | .plain =>
    Stylesheet.write s.header (s.sharedValues o styles) (s.rulesFor o styles).rules

/-- The name of the style sheet. -/
def sheetName (s : StyleStrategy) (o : StyleOptions) : String :=
  (if o.fileName == "" then "styles" else o.fileName) ++ s.fileEnding

/-- The files that a conversion makes. -/
def files (s : StyleStrategy) (o : StyleOptions) : List String :=
  if o.separateFile && s.fileEnding != "" then [s.sheetName o] else []

/-- Markup that refers to the style sheet of its own, if it refers to none yet. -/
def linked (s : StyleStrategy) (o : StyleOptions) (markup : String) : String :=
  match s, s.files o with
  | .plain, file :: _ =>
    if contains markup "<link" then markup
    else "<link rel=\"stylesheet\" href=\"" ++ file ++ "\">\n" ++ markup
  | _, _ => markup

end StyleStrategy

namespace Stylesheet.ElementStyle

/-- The style of an element, if it declares any. -/
def ofTag? (tag : Tag) : Option ElementStyle :=
  (tag.value? "style").bind fun style =>
    let declared := Stylesheet.declarations style
    if declared.isEmpty then none else some { tag := tag.name, declared }

/-- The styles in a tree, in document order. -/
def ofTree (tree : Tree) : List ElementStyle :=
  ((Tree.elementsIn tree.children).filterMap Tree.tag?).filterMap ofTag?

/-- The styles in markup, in document order. -/
def ofMarkup (markup : String) : Except Fault (List ElementStyle) :=
  (Tree.parse markup).map ofTree

end Stylesheet.ElementStyle

namespace Markup.Tag

/-- Adds class names that an element does not have yet. -/
def addClasses (tag : Tag) (names : List String) : Tag :=
  let all := names.foldl (fun all n => if all.contains n then all else all ++ [n]) tag.classes
  { tag with attributes := tag.attributes.put "class" (join " " all) }

/-- Takes the inline style away. -/
def withoutStyle (tag : Tag) : Tag := { tag with attributes := tag.attributes.erase "style" }

/-- Gives an element its classes; without any it stays as it is. -/
def restyled (o : StyleOptions) (tag : Tag) (given : String) : Tag :=
  if given == "" then tag
  else (if o.keepsInline then tag else tag.withoutStyle).addClasses (words given)

end Markup.Tag

namespace Markup.Tree

mutual
/-- Gives the elements of a tree their classes in document order; those left over come with it. -/
def restyle (o : StyleOptions) (given : List String) : Tree → Tree × List String
  | .string kind text => (.string kind text, given)
  | .element tag children =>
    let (tag, given) :=
      match ElementStyle.ofTag? tag, given with
      | some _, name :: rest => (tag.restyled o name, rest)
      | _, given => (tag, given)
    let (children, given) := restyleAll o given children
    (.element tag children, given)

/-- Gives the elements of the trees of a list their classes. -/
def restyleAll (o : StyleOptions) (given : List String) : List Tree → List Tree × List String
  | [] => ([], given)
  | t :: rest =>
    let (t, given) := restyle o given t
    let (rest, given) := restyleAll o given rest
    (t :: rest, given)
end

end Markup.Tree

/-- Markup whose inline styles have been converted. -/
structure StyledMarkup where
  strategy : StyleStrategy
  markup : String
  sheet : String
  classes : Dict String
  files : List String
  warnings : List String

/-- What a conversion comes to: its figures, the styles it found, and what it gives unless it is
refused. -/
structure StyleRun where
  figures : StyleFigures := {}
  styles : List ElementStyle := []
  result : Except Fault StyledMarkup

namespace StyleStrategy

/-- The classes given to styled elements, by the element's number. -/
def classMap (given : List String) : Dict String :=
  Dict.ofList ((given.zipIdx.filter fun (name, _) => name != "").map fun (name, i) =>
    ("el-" ++ natText (i + 1), name))

/-- The number of classes that were made for styles. -/
def classCount (s : StyleStrategy) (c : Classing) : Nat :=
  match s with
  | .utility => sumOf (c.given.map fun names => (words names).length)
  | .scoped | .plain => c.rules.length

/-- The figures of a run over so many elements. -/
def figures (s : StyleStrategy) (c : Classing) (elements : Nat) : StyleFigures :=
  { elements, converted := (classMap c.given).size, classes := s.classCount c,
    rules := c.rules.length }

/-- Converts the inline styles of a tree and its markup. Markup in which no element gets a class
stays as it is. An element whose style is refused is counted as well. -/
def convertTree (s : StyleStrategy) (o : StyleOptions) (markup : String) (tree : Tree) :
    StyleRun :=
  let styles := ElementStyle.ofTree tree
  match s.classing o styles with
  | (c, some fault) =>
    { figures := s.figures c (c.given.length + 1), styles, result := .error fault }
  | (c, none) =>
    let classes := classMap c.given
    let converted :=
      if classes.isEmpty then markup
      else Tree.writeAll false (Tree.restyleAll o c.given tree.children).1
    let files := s.files o
    { figures := { s.figures c styles.length with files := files.length }
      styles
      result := .ok
        { strategy := s, markup := s.linked o converted, sheet := s.sheet o styles, classes, files,
          warnings := c.unsupported } }

/-- Converts the inline styles of markup. -/
def convert (s : StyleStrategy) (o : StyleOptions) (markup : String) : StyleRun :=
  match Tree.parse markup with
  | .ok tree => s.convertTree o markup tree
  | .error fault => { result := .error fault }

end StyleStrategy
end Componentry
