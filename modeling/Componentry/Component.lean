import Componentry.Naming.BlockClass
import Componentry.Score

/-!
# Components

A component is an element of a page that stands on its own: its name, its markup, what it is for,
why it was taken out, and how it stands to the other components.
-/

set_option autoImplicit false

namespace Componentry

/-- What a component is for. -/
inductive ComponentRole where
  | semantic
  | layout
  | interactive
  | content
  | navigation
  | media
  | data
  | unknown
deriving Repr, DecidableEq

namespace ComponentRole

/-- All roles. -/
def all : List ComponentRole := [
  .semantic, .layout, .interactive, .content, .navigation, .media, .data, .unknown]

/-- The word for a role. -/
def name : ComponentRole → String
  | .semantic => "semantic"
  | .layout => "layout"
  | .interactive => "interactive"
  | .content => "content"
  | .navigation => "navigation"
  | .media => "media"
  | .data => "data"
  | .unknown => "unknown"

/-- The role of a word. -/
def ofName? (s : String) : Option ComponentRole := all.find? fun r => r.name == s

end ComponentRole

/-- Why an element becomes a component. -/
inductive ExtractReason where
  | semanticTag
  | customSelector
  | repeatingPattern
  | classPattern
  | complexStructure
  | userDefined
deriving Repr, DecidableEq

namespace ExtractReason

/-- All reasons. -/
def all : List ExtractReason := [
  .semanticTag, .customSelector, .repeatingPattern, .classPattern, .complexStructure, .userDefined]

/-- The word for a reason. -/
def name : ExtractReason → String
  | .semanticTag => "semantic-tag"
  | .customSelector => "custom-selector"
  | .repeatingPattern => "repeating-pattern"
  | .classPattern => "class-pattern"
  | .complexStructure => "complex-structure"
  | .userDefined => "user-defined"

/-- The reason of a word. -/
def ofName? (s : String) : Option ExtractReason := all.find? fun r => r.name == s

end ExtractReason

/-- The types of suggested properties. -/
inductive PropertyType where
  | string
  | number
  | boolean
  | node
  | function
  | object
  | array
  | any
deriving Repr, DecidableEq

namespace PropertyType

/-- All types. -/
def all : List PropertyType := [
  .string, .number, .boolean, .node, .function, .object, .array, .any]

/-- The name of a type. -/
def name : PropertyType → String
  | .string => "string"
  | .number => "number"
  | .boolean => "boolean"
  | .node => "ReactNode"
  | .function => "Function"
  | .object => "object"
  | .array => "array"
  | .any => "any"

/-- The type of a name. -/
def ofName? (s : String) : Option PropertyType := all.find? fun t => t.name == s

end PropertyType

/-- A property that a component might take. -/
structure SuggestedProperty where
  name : String
  type : PropertyType
  required : Bool := false
deriving Repr, DecidableEq

/-- What is in a component. -/
structure ComponentContent where
  elementCount : Nat := 0
  textLength : Nat := 0
  hasInteractive : Bool := false
  hasForms : Bool := false
  hasImages : Bool := false
  childTypes : List String := []
  isPatternItem : Bool := false
deriving Repr, DecidableEq

/-- A component. -/
structure Component (α : Type) where
  id : String
  name : String
  type : String
  markup : String
  depth : Nat
  classes : List String
  blockClass : Option BlockClass
  role : ComponentRole
  pattern : Option String
  properties : List SuggestedProperty
  content : ComponentContent
  children : List String
  parentId : Option String
  confidence : α
  reason : ExtractReason
  nodeId : String

end Componentry
