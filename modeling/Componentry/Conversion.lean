import Componentry.Conversion.Options
import Componentry.Conversion.Stage
import Componentry.Options
import Componentry.Jsx.Generator
import Componentry.Naming.Words

/-!
# Converting pages

A page becomes component files. First its inline styles are converted, so that the components refer
to classes; if that fails, the styles stay. Then the page is read and split, and every part is
written as a component of its own, or the page as one. A failure in one of these ends the conversion
without files. Parts whose names have the same identifier are told apart by numbers.
-/

set_option autoImplicit false

namespace Componentry
open Componentry.Text

/-- Markup after its styles were converted, and the style sheet if there is one. -/
structure StyledPage where
  markup : Option String
  sheet : Option GeneratedFile := none

/-- Something to write as a component: a name and the page it is written from. -/
structure ComponentSource where
  name : String
  page : Outcome Node

namespace ConversionOptions

/-- The names of strategies that leave inline styles as they are. -/
def keepingStrategies : List String := ["", "none", "inline"]

/-- How inline styles are converted. -/
def styles (o : ConversionOptions) : StyleOptions :=
  { separateFile := o.separateFile, classStart := o.classStart, shares := o.shares,
    usesVariables := o.usesVariables
    fileName := if o.fileName == "" then "styles" else o.fileName }

/-- What the names of style sheets with scoped class names end with. -/
def scopedEnding : String := ".module.css"

/-- The warnings about a style sheet of a name. -/
def sheetWarnings (sheet : String) : List String :=
  if endsWith sheet scopedEnding then
    ["CSS Modules classes are emitted as plain class names; import the module to map them."]
  else []

/-- Converts the inline styles of a page. -/
def convertStyles (o : ConversionOptions) (markup : Option String) :
    Outcome (StageResult StyledPage) :=
  let name := lower o.strategy
  match markup with
  | none => .ok ⟨⟨none, none⟩, "Inline styles kept", []⟩
  | some text =>
    if keepingStrategies.contains name then .ok ⟨⟨markup, none⟩, "Inline styles kept", []⟩
    else
      (Outcome.ofExcept (StyleStrategy.ofName name)).bind fun strategy =>
        let run := strategy.convert o.styles text
        (Outcome.ofExcept run.result).bind fun styled =>
          let sheet := strategy.sheetName o.styles
          let message := natText run.figures.converted ++ " inline styles converted using "
            ++ strategy.name
          if styled.sheet == "" then .ok ⟨⟨some styled.markup, none⟩, message, styled.warnings⟩
          else .ok
            ⟨⟨some styled.markup, some { name := sheet, content := styled.sheet, kind := .style }⟩,
              message, styled.warnings ++ sheetWarnings sheet⟩

/-- How pages are read, as the settings say. -/
def readOptions (settings : Settings) : Except Fault ReadOptions :=
  let said := Setting.group [
    ("max_depth", (settings.get? "parser.max_depth").getD .null),
    ("preserve_whitespace", (settings.get? "parser.preserve_whitespace").getD (.switch false)),
    ("include_comments", (settings.get? "parser.include_comments").getD (.switch false))]
  match ReadOptions.ofSetting? said with
  | some r => .ok r
  | none => .error (.invalidOptions "ParseOptions")

/-- Reads a page. -/
def readPage (settings : Settings) (markup : Option String) : Outcome (StageResult Document) :=
  (Outcome.ofExcept (readOptions settings)).bind fun r =>
    (Document.read r markup).bind fun d =>
      .ok ⟨d, "Parsed " ++ natText d.metadata.nodeCount ++ " nodes", []⟩

/-- What the settings say on splitting, nothing where that does not count. -/
def saidOnSplitting (settings : Settings) : Except SectionFault (List (String × Setting)) :=
  match settings.get? "splitter" with
  | some s => if s.counts then s.toEntries else .ok []
  | none => .ok []

/-- How pages are split, as the settings say, with the selectors of the conversion. -/
def splitOptions (settings : Settings) (o : ConversionOptions) :
    Except Fault (SplitOptions Float) :=
  match saidOnSplitting settings with
  | .error f => .error (.noSection f)
  | .ok said =>
    let selectors := Setting.list (o.selectors.map .text)
    match SplitOptions.ofSetting?
        (.group (Dict.putEntry "custom_component_selectors" selectors said)) with
    | some s => .ok s
    | none => .error (.invalidOptions "SplitterOptions")

/-- Splits a page, if that is wanted. -/
def splitPage (settings : Settings) (o : ConversionOptions) (d : Document) :
    Outcome (StageResult (Option (Split Float))) :=
  if !o.splits then .ok ⟨none, "Splitting disabled", []⟩
  else
    (Outcome.ofExcept (splitOptions settings o)).bind fun s =>
      (Split.ofRoot s d.root).bind fun split =>
        .ok ⟨some split, "Found " ++ natText split.components.length ++ " components",
          split.warnings⟩

/-- What is to be written: every component of a split page, or the page as one. -/
def sources (o : ConversionOptions) (d : Document) (split : Option (Split Float)) :
    List ComponentSource :=
  match (split.map Split.components).getD [] with
  | [] => [⟨if o.name == "" then "App" else o.name, .ok d.root⟩]
  | components => components.map fun c =>
      ⟨c.name, (Document.read {} (some c.markup)).bind fun d => .ok d.root⟩

/-- The identifiers for names, one after the other, each claimed before the next. -/
def identifiers : Namer → List String → List String
  | _, [] => []
  | namer, name :: rest =>
    let (claimed, namer) := namer.claim (Naming.identifier name) []
    Naming.identifier claimed :: identifiers namer rest

/-- The lines with which components import a style sheet. -/
def sheetImports (sheet : Option GeneratedFile) : List String :=
  match sheet with
  | some s => if endsWith s.name scopedEnding then [] else ["import '../styles/" ++ s.name ++ "';"]
  | none => []

/-- How the component with an identifier is written. -/
def source (o : ConversionOptions) (imports : List String) (identifier : String) : SourceOptions :=
  { name := identifier, layout := o.layout, importsLibrary := o.importsLibrary, imports,
    renamesClass := o.renamesClass,
    typed := if o.typed then some { declaresType := o.declaresTypes } else none }

/-- Writes a component. -/
def writeComponent (o : ConversionOptions) (imports : List String)
    (s : ComponentSource × String) : Outcome GeneratedSource :=
  s.1.page.bind fun page =>
    Outcome.ofExcept ((Generator.start (o.source imports s.2) Dict.empty).generate page).1

/-- The line of the index for an identifier. -/
def indexLine (o : ConversionOptions) (identifier : String) : String :=
  if o.typed then "export \x7b " ++ identifier ++ " \x7d from './" ++ identifier ++ "';\n"
  else "export \x7b default as " ++ identifier ++ " \x7d from './" ++ identifier ++ "';\n"

/-- The index of components, where there are several. -/
def index (o : ConversionOptions) (names : List String) : List GeneratedFile :=
  if names.length ≤ 1 then []
  else [{ name := if o.typed then "index.ts" else "index.js"
          content := concat (names.map o.indexLine), kind := .index }]

/-- Writes components and their index. -/
def generate (o : ConversionOptions) (sheet : Option GeneratedFile)
    (sources : List ComponentSource) : Outcome (StageResult (List GeneratedFile)) :=
  let names := identifiers {} (sources.map ComponentSource.name)
  ((sources.zip names).mapM (o.writeComponent (sheetImports sheet))).bind fun written =>
    let files := (written.map fun w => { name := w.fileName, content := w.content })
      ++ o.index names
    .ok ⟨files, "Generated " ++ natText files.length ++ " files",
      written.flatMap GeneratedSource.warnings⟩

/-- The warnings about components, up to the first one that cannot be written. -/
def warningsUpTo (o : ConversionOptions) (imports : List String) :
    List (ComponentSource × String) → List String
  | [] => []
  | s :: rest =>
    match (o.writeComponent imports s).result with
    | .ok written => written.warnings ++ warningsUpTo o imports rest
    | .error _ => []

/-- The warnings that writing components gives before it fails. -/
def warningsBefore (o : ConversionOptions) (sheet : Option GeneratedFile)
    (sources : List ComponentSource) : List String :=
  let names := identifiers {} (sources.map ComponentSource.name)
  o.warningsUpTo (sheetImports sheet) (sources.zip names)

/-- Converts a page. -/
def convert (settings : Settings) (o : ConversionOptions) (markup : Option String) :
    Outcome Conversion := do
  let (styled, c) ← Conversion.run {} .css (o.convertStyles markup)
  let styled := styled.getD ⟨markup, none⟩
  let (document, c) ← c.run .parse (readPage settings styled.markup)
  match document with
  | none => return c.failed
  | some d =>
    let (split, c) ← c.run .split (splitPage settings o d)
    match split with
    | none => return c.failed
    | some split =>
      let c := { c with split }
      let sources := o.sources d split
      let (files, c) ← c.run .generate (o.generate styled.sheet sources)
        fun _ => o.warningsBefore styled.sheet sources
      match files with
      | none => return c.failed
      | some files =>
        return { c with succeeded := true, files := files ++ styled.sheet.toList }

end ConversionOptions
end Componentry
