import Componentry.Options
import Componentry.Settings
import Componentry.Stylesheet.Conversion

/-!
# Options for a conversion

What is wished for in a conversion wins over the settings; what neither says is fixed. All that the
settings say in the place of a wish has to fit.
-/

set_option autoImplicit false

namespace Componentry
open Componentry.Text

/-- How a page is converted. -/
structure ConversionOptions where
  name : String := "App"
  typed : Bool := false
  splits : Bool := true
  strategy : String := "vanilla"
  importsLibrary : Bool := true
  declaresTypes : Bool := true
  renamesClass : Bool := true
  layout : LayoutOptions := {}
  separateFile : Bool := false
  classStart : String := ""
  shares : Bool := true
  usesVariables : Bool := false
  fileName : String := "styles"
  selectors : List String := []
  showsProgress : Bool := false

/-- What is wished for in a conversion. -/
structure ConversionWishes where
  name : Option String := none
  typed : Option Bool := none
  splits : Option Bool := none
  strategy : Option String := none
  importsLibrary : Option Bool := none
  declaresTypes : Option Bool := none
  renamesClass : Option Bool := none
  layout : Option LayoutOptions := none
  separateFile : Option Bool := none
  classStart : Option String := none
  shares : Option Bool := none
  usesVariables : Option Bool := none
  fileName : Option String := none
  selectors : Option (List String) := none
  showsProgress : Bool := false

namespace ConversionOptions

/-- The words for the kinds of source text. -/
def typed? : String → Option Bool
  | "jsx" => some false
  | "tsx" => some true
  | _ => none

/-- The word for the kind of source text. -/
def language (o : ConversionOptions) : String := if o.typed then "tsx" else "jsx"

end ConversionOptions

namespace Setting

/-- A reading of values in which one that does not count stands for a default. -/
def countingOr {α : Type} (read : Setting → Option α) (default : α) (s : Setting) : Option α :=
  if s.counts then read s else some default

end Setting

namespace ConversionWishes

/-- Wishes from a setting. -/
def ofSetting? (s : Setting) : Option ConversionWishes := do
  let text := Setting.orNull Setting.toText?
  let switch := Setting.orNull Setting.toBool?
  let name ← s.field "component_name" text none
  let typed ← s.field "output_format"
    (Setting.orNull (Setting.toWord? ConversionOptions.typed?)) none
  let splits ← s.field "split_components" switch none
  let strategy ← s.field "css_strategy" text none
  let importsLibrary ← s.field "include_react_import" switch none
  let declaresTypes ← s.field "include_prop_types" switch none
  let renamesClass ← s.field "convert_class_to_class_name" switch none
  let layout ← s.field "formatting" (Setting.orNull LayoutOptions.ofSetting?) none
  let separateFile ← s.field "extract_css_to_separate_file" switch none
  let classStart ← s.field "css_class_prefix" text none
  let shares ← s.field "optimize_css" switch none
  let usesVariables ← s.field "use_css_variables" switch none
  let fileName ← s.field "target_filename" text none
  let selectors ← s.field "custom_component_selectors"
    (Setting.orNull (Setting.toList? Setting.toText?)) none
  let showsProgress ← s.field "show_progress" Setting.toBool? false
  some { name, typed, splits, strategy, importsLibrary, declaresTypes, renamesClass, layout,
         separateFile, classStart, shares, usesVariables, fileName, selectors, showsProgress }

/-- A wish, or else what the settings say at a path, or else a default. -/
def choose {α : Type} (settings : Settings) (wish : Option α) (path : String)
    (read : Setting → Option α) (default : α) : Option α :=
  match wish with
  | some a => some a
  | none =>
    match settings.get? path with
    | some s => read s
    | none => some default

/-- The wishes completed by the settings. -/
def complete (settings : Settings) (w : ConversionWishes) : Option ConversionOptions := do
  let choose {α : Type} := @choose α settings
  let name ← choose w.name "generator.component_name" Setting.toText? "App"
  let typed ← choose w.typed "generator.output_format"
    (Setting.toWord? ConversionOptions.typed?) false
  let splits ← choose w.splits "splitter.enabled" Setting.toBool? true
  let strategy ← choose w.strategy "css.strategy" Setting.toText? "vanilla"
  let importsLibrary ← choose w.importsLibrary "generator.include_react_import" Setting.toBool? true
  let declaresTypes ← choose w.declaresTypes "generator.include_prop_types" Setting.toBool? true
  let renamesClass ←
    choose w.renamesClass "generator.convert_class_to_class_name" Setting.toBool? true
  let layout ← choose w.layout "generator.formatting"
    (Setting.countingOr LayoutOptions.ofSetting? {}) {}
  let separateFile ← choose w.separateFile "css.extract_to_separate_file" Setting.toBool? false
  let classStart ← choose w.classStart "css.class_prefix" Setting.toText? ""
  let shares ← choose w.shares "css.optimize" Setting.toBool? true
  let usesVariables ← choose w.usesVariables "css.use_css_variables" Setting.toBool? false
  let fileName ← choose w.fileName "css.target_filename" Setting.toText? "styles"
  let selectors ← choose w.selectors "splitter.custom_component_selectors"
    (Setting.countingOr (Setting.toList? Setting.toText?) []) []
  some { name, typed, splits, strategy, importsLibrary, declaresTypes, renamesClass, layout,
         separateFile, classStart, shares, usesVariables, fileName, selectors,
         showsProgress := w.showsProgress }

/-- The options of a conversion, refused where they do not fit. -/
def options (settings : Settings) (w : ConversionWishes) : Except Fault ConversionOptions :=
  match w.complete settings with
  | some o => .ok o
  | none => .error (.invalidOptions "ConversionOptions")

end ConversionWishes
end Componentry
