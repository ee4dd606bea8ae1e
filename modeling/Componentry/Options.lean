import Componentry.Document.Reader
import Componentry.Jsx.Source
import Componentry.Layout
import Componentry.Naming
import Componentry.Output
import Componentry.Setting
import Componentry.Splitting
import Componentry.Stylesheet.Conversion

/-!
# Options, from settings

How pages are read and split, components named and styled, and source text written and laid out, as
settings give it. What does not fit is refused. Only changes to a layout are taken as they are, a
switch being on where its value counts for something.
-/

set_option autoImplicit false

namespace Componentry

/-! ## Reading -/

namespace SectionRule

/-- A rule from a setting. -/
def ofSetting? (s : Setting) : Option SectionRule := do
  let kind ← s.required "type" (Setting.toWord? SectionKind.ofName?)
  let selector ← s.required "selector" Setting.toText?
  let leastConfidence ← s.field "min_confidence" Setting.toFloat? 0.0
  let componentName ← s.field "component_name_template" (Setting.orNull Setting.toText?) none
  some { kind, selector, leastConfidence, componentName }

end SectionRule

namespace ReadOptions

/-- Options from a setting. -/
def ofSetting? (s : Setting) : Option ReadOptions := do
  let maxDepth ← s.field "max_depth" (Setting.orNull Setting.toInt?) none
  let keepsBlanks ← s.field "preserve_whitespace" Setting.toBool? false
  let keepsComments ← s.field "include_comments" Setting.toBool? false
  let rules ← s.field "semantic_rules" (Setting.toList? SectionRule.ofSetting?) []
  some { maxDepth, keepsBlanks, keepsComments, rules }

end ReadOptions

/-! ## Splitting -/

namespace SplitOptions

/-- Options from a setting. -/
def ofSetting? (s : Setting) : Option (SplitOptions Float) := do
  let leastChildren ← s.field "min_element_count" Setting.toInt? 3
  let deepest ← s.field "max_component_depth" Setting.toInt? 5
  let findsPatterns ← s.field "detect_patterns" Setting.toBool? true
  let convention ← s.field "naming_convention" (Setting.toWord? NamingConvention.ofName?) .pascal
  let selectors ← s.field "custom_component_selectors" (Setting.toList? Setting.toText?) []
  let leastOccurrences ← s.field "min_pattern_occurrences" Setting.toInt? 2
  let threshold ← s.field "similarity_threshold" Setting.toFloat? 0.7
  some { leastChildren, deepest, findsPatterns, convention, selectors, leastOccurrences, threshold }

end SplitOptions

namespace BlockClass

/-- The parts of a class name from a setting. -/
def ofSetting? (s : Setting) : Option BlockClass := do
  let block ← s.required "block" Setting.toText?
  let element ← s.field "element" (Setting.orNull Setting.toText?) none
  let modifier ← s.field "modifier" (Setting.orNull Setting.toText?) none
  let whole ← s.field "full_class" Setting.toText? ""
  some { block, element, modifier, whole }

end BlockClass

namespace SuggestedProperty

/-- A suggested property from a setting. -/
def ofSetting? (s : Setting) : Option SuggestedProperty := do
  let name ← s.required "name" Setting.toText?
  let type ← s.required "type" (Setting.toWord? PropertyType.ofName?)
  let required ← s.field "required" Setting.toBool? false
  some { name, type, required }

end SuggestedProperty

namespace ComponentContent

/-- A setting describes the content of a component. -/
def fits? (s : Setting) : Option Unit := do
  let s ← s.toSection?
  let _ ← s.field "element_count" Setting.toInt? 0
  let _ ← s.field "text_length" Setting.toInt? 0
  let _ ← s.field "has_interactive" Setting.toBool? false
  let _ ← s.field "has_forms" Setting.toBool? false
  let _ ← s.field "has_images" Setting.toBool? false
  let _ ← s.field "child_types" (Setting.toList? Setting.toText?) []
  let _ ← s.field "is_pattern_item" Setting.toBool? false
  some ()

end ComponentContent

namespace Contained

/-- A share of one, from nothing to the whole. -/
def share? (s : Setting) : Option Float :=
  s.toFloat?.filter fun x => 0.0 ≤ x && x ≤ 1.0

/-- Where a component stands, from a setting that may describe the whole component. All that it
says has to fit. -/
def ofSetting? (s : Setting) : Option Contained := do
  let id ← s.required "id" Setting.toText?
  let children ← s.field "children" (Setting.toList? Setting.toText?) []
  let depth ← s.field "depth" Setting.toInt? 0
  let parentId ← s.field "parent_id" (Setting.orNull Setting.toText?) none
  let _ ← s.field "name" Setting.toText? id
  let _ ← s.field "type" Setting.toText? "div"
  let _ ← s.field "html" Setting.toText? ""
  let _ ← s.field "classes" (Setting.toList? Setting.toText?) []
  let _ ← s.field "bem_type" (Setting.orNull BlockClass.ofSetting?) none
  let _ ← s.field "role" (Setting.toWord? ComponentRole.ofName?) .unknown
  let _ ← s.field "pattern_id" (Setting.orNull Setting.toText?) none
  let _ ← s.field "suggested_props" (Setting.toList? SuggestedProperty.ofSetting?) []
  let _ ← s.field "metadata" ComponentContent.fits? ()
  let _ ← s.field "confidence" share? 0.0
  let _ ← s.field "reason" (Setting.toWord? ExtractReason.ofName?) .userDefined
  let _ ← s.field "source_node_id" (Setting.orNull Setting.toText?) none
  some { id, children, depth, parentId }

end Contained
/-! ## Naming -/

namespace ContentHints

/-- Hints from a setting. -/
def ofSetting? (s : Setting) : Option ContentHints := do
  let hasChildren ← s.field "has_children" Setting.toBool? false
  let childTypes ← s.field "child_types" (Setting.toList? Setting.toText?) []
  let childCount ← s.field "child_count" Setting.toInt? 0
  some { hasChildren, childTypes, childCount }

end ContentHints

/-! ## Styling -/

namespace StyleOptions

/-- A number of digits of a digest. -/
def digits? (s : Setting) : Option Int := s.toInt?.filter fun n => 1 ≤ n && n ≤ 40

/-- Options from a setting. -/
def ofSetting? (s : Setting) : Option StyleOptions := do
  let keepsInline ← s.field "preserve_inline" Setting.toBool? false
  let separateFile ← s.field "extract_to_separate_file" Setting.toBool? false
  let classStart ← s.field "class_prefix" Setting.toText? ""
  let usesVariables ← s.field "use_css_variables" Setting.toBool? false
  let digits ← s.field "min_class_name_length" digits? 6
  let shares ← s.field "optimize" Setting.toBool? false
  let fileName ← s.field "target_filename" Setting.toText? "styles"
  some { keepsInline, separateFile, classStart, usesVariables, digits, shares, fileName }

end StyleOptions

/-! ## Layout -/

namespace LayoutOptions

/-- The word for the style of indents. -/
def usesTabs? : String → Option Bool
  | "spaces" => some false
  | "tabs" => some true
  | _ => none

/-- Options from a setting. -/
def ofSetting? (s : Setting) : Option LayoutOptions := do
  let s ← s.toSection?
  let usesTabs ← s.field "indent_style" (Setting.toWord? usesTabs?) false
  let columns ← s.field "indent_size" Setting.toInt? 2
  let lineWidth ← s.field "print_width" Setting.toInt? 80
  let singleQuotes ← s.field "single_quote" Setting.toBool? true
  let semicolons ← s.field "semi" Setting.toBool? true
  let enabled ← s.field "enabled" Setting.toBool? true
  some { usesTabs, indentSize := .columns columns, lineWidth, singleQuotes, semicolons, enabled }

/-- A value taken as the width of an indent. -/
def indentSizeOf : Setting → IndentSize
  | .whole n => .columns n
  | .switch on => .columns (if on then 1 else 0)
  | s => .unusable s.kindName

/-- Options after changes. -/
def change (o : LayoutOptions) (changes : Setting) : LayoutOptions :=
  let switch (key : String) (old : Bool) : Bool := ((changes.get? key).map Setting.counts).getD old
  { usesTabs := match changes.get? "indent_style" with
      | some (.text s) => s == "tabs"
      | some _ => false
      | none => o.usesTabs
    indentSize := ((changes.get? "indent_size").map indentSizeOf).getD o.indentSize
    lineWidth := ((changes.get? "print_width").bind Setting.toInt?).getD o.lineWidth
    singleQuotes := switch "single_quote" o.singleQuotes
    semicolons := switch "semi" o.semicolons
    enabled := switch "enabled" o.enabled }

end LayoutOptions

/-! ## Source text -/

namespace Jsx.Parameter

/-- A parameter from a setting. -/
def ofSetting? (s : Setting) : Option Parameter := do
  let name ← s.required "name" Setting.toText?
  let type ← s.field "type" Setting.toText? "string"
  let required ← s.field "required" Setting.toBool? false
  let default ← s.field "default_value" (Setting.orNull Setting.toText?) none
  let description ← s.field "description" (Setting.orNull Setting.toText?) none
  some { name, type, required, default, description }

end Jsx.Parameter

namespace TypedOptions

/-- The words for how a component leaves its file. -/
def isDefault? : String → Option Bool
  | "named" => some false
  | "default" => some true
  | _ => none

/-- Options from a setting. -/
def ofSetting? (s : Setting) : Option TypedOptions := do
  let declaresType ← s.field "include_prop_types" Setting.toBool? true
  let detects ← s.field "detect_props_from_attributes" Setting.toBool? false
  let isDefault ← s.field "export_type" (Setting.toWord? isDefault?) false
  let parameters ← s.field "custom_props" (Setting.toList? Jsx.Parameter.ofSetting?) []
  some { declaresType, detects, isDefault, parameters }

end TypedOptions

namespace SourceOptions

/-- Options from a setting, for a typed component or a plain one. -/
def ofSetting? (typed : Bool) (s : Setting) : Option SourceOptions := do
  let name ← s.field "component_name" Setting.toText? "Component"
  let layout ← s.field "formatting" LayoutOptions.ofSetting? {}
  let importsLibrary ← s.field "include_react_import" Setting.toBool? true
  let imports ← s.field "custom_imports" (Setting.toList? Setting.toText?) []
  let renamesClass ← s.field "convert_class_to_class_name" Setting.toBool? true
  let typed ← if typed then (TypedOptions.ofSetting? s).map some else some none
  some { name, layout, importsLibrary, imports, renamesClass, typed }

end SourceOptions
/-! ## Files -/

namespace GeneratedFile

/-- A file from a setting. -/
def ofSetting? (s : Setting) : Option GeneratedFile := do
  let name ← s.required "file_name" Setting.toText?
  let content ← s.required "content" Setting.toText?
  let kind ← s.field "file_type" (Setting.toWord? FileKind.ofName?) .component
  some { name, content, kind }

end GeneratedFile

end Componentry
