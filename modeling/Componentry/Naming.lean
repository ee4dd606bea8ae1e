import Componentry.Document.Node
import Componentry.Fault
import Componentry.Naming.BlockClass
import Componentry.Naming.Words

/-!
# Naming components

A component is named after what its element says of itself, what it is, and where it stands: the
first of these that gives a name counts. Names are written by one convention, between a fixed
beginning and end, and never given twice.
-/

set_option autoImplicit false

/-! ## Taken names

A name is claimed against the names already taken. A taken name gets a number, one more than the
highest number in use behind it; a name that is too long is cut and marked, and counted up until it
is free.
-/

namespace Componentry.Naming
open Componentry.Text

/-- The most characters of a name. -/
def longest : Nat := 49

/-- The mark of a name that was cut. -/
def cutMark : List Char := ['.', '.', '.']

/-- The digits that a taken name has behind a base; the end of a line may follow them. -/
def digitsBehind? (base taken : List Char) : Option (List Char) :=
  (restAfter? base taken).bind fun rest =>
    let digits := match rest.reverse with
      | '\n' :: before => before.reverse
      | _ => rest
    if !digits.isEmpty && digits.all isDecimal then some digits else none

/-- The number that a taken name has behind a base. -/
def numberBehind? (base taken : List Char) : Option Nat :=
  (digitsBehind? base taken).bind natOfDigits?

/-- The highest number in use behind a base, at least one. -/
def highestBehind (base : List Char) (taken : List String) : Nat :=
  (taken.filterMap fun t => numberBehind? base t.toList).foldl max 1

/-- A name that is not taken: the base itself or with the next number. -/
def numbered (base : String) (taken : List String) : String :=
  if taken.contains base then base ++ natText (highestBehind base.toList taken + 1) else base

/-- Why no number can be given behind a base that is taken: one in use is too long to be read, or
the next one too long to be written. -/
def refusal? (base : String) (taken : List String) : Option Fault :=
  if taken.contains base then
    let long := taken.findSome? fun t =>
      (digitsBehind? base.toList t.toList).filter fun digits => mostDigits < digits.length
    match long with
    | some digits => some (.number (.long digits.length))
    | none =>
      if mostDigits < size (natText (highestBehind base.toList taken + 1)) then
        some (.number .longToWrite)
      else none
  else none

/-- A name cut for a marker to fit in. -/
def cutWith (name marker : List Char) : String :=
  String.ofList (name.take (longest - cutMark.length - marker.length) ++ marker ++ cutMark)

/-- The first cut name from a number on that is not taken. -/
def cutFrom (name : List Char) (taken : List String) : Nat → Nat → String
  | 0, n => cutWith name (natText n).toList
  | fuel + 1, n =>
    let candidate := cutWith name (natText n).toList
    if taken.contains candidate then cutFrom name taken fuel (n + 1) else candidate

/-- A long name cut so that it is not taken. Numbers of one length cut at one place, so among ten
times as many numbers as there are taken names one is free. -/
def cutShort (name : String) (taken : List String) : String :=
  let plain := cutWith name.toList []
  if taken.contains plain then cutFrom name.toList taken (10 * (taken.length + 2)) 2 else plain

/-- The name that is claimed for a base. -/
def claim (base : String) (taken : List String) : String :=
  let name := numbered base taken
  if longest < size name then cutShort name taken else name

end Componentry.Naming

/-! ## Names of components -/

namespace Componentry
open Componentry.Text

/-- What is known of the content of a component. -/
structure ContentHints where
  hasChildren : Bool := false
  childTypes : List String := []
  childCount : Int := 0

/-- What a name is wanted for. -/
structure NameRequest where
  node : Option Node := none
  type : Option String := none
  parentName : Option String := none
  siblings : List String := []
  existing : List String := []
  hints : Option ContentHints := none

namespace NameRequest

/-- The class names of the element. -/
def classes (r : NameRequest) : List String :=
  match r.node with
  | some n => n.attributes.classes
  | none => []

/-- The name of the parent, nothing where there is none. -/
def parent (r : NameRequest) : String := r.parentName.getD ""

/-- What the component is: the given type, else the element name; none where this is empty. -/
def type? (r : NameRequest) : Option String :=
  match r.type.filter fun t => t != "" with
  | some t => some t
  | none => (r.node.bind Node.tag).filter fun t => t != ""

/-- The name that an element gives itself, put into words. -/
def explicitName? (r : NameRequest) : Option String :=
  r.node.bind fun n =>
    ["data-component", "data-name"].findSome? fun own =>
      (n.attributes.textOf? own).bind fun value =>
        if isBlankText value then none else some (Naming.pascalCase value)

end NameRequest

namespace Naming

/-- Names that mean something else where components are used. -/
def reservedWords : List String := [
  "abstract", "await", "boolean", "break", "byte", "case", "catch", "char", "class", "const",
  "continue", "debugger", "default", "delete", "do", "double", "else", "enum", "export", "extends",
  "false", "final", "finally", "float", "for", "function", "goto", "if", "implements", "import",
  "in", "instanceof", "int", "interface", "let", "long", "native", "new", "null", "package",
  "private", "protected", "public", "return", "short", "static", "super", "switch", "synchronized",
  "this", "throw", "throws", "transient", "true", "try", "typeof", "var", "void", "volatile",
  "while", "with", "yield", "render", "constructor", "component", "props", "state", "ref", "key",
  "children", "classname", "style", "onclick", "onchange"]

/-- Elements that name their component. -/
def elementNames : List (String × String) := [
  ("header", "Header"), ("nav", "Nav"), ("main", "Main"), ("footer", "Footer"),
  ("article", "Article"), ("section", "Section"), ("aside", "AsideSidebar"), ("figure", "Figure"),
  ("figcaption", "Figcaption"), ("dialog", "Dialog"), ("details", "Details"),
  ("summary", "Summary"), ("a", "Link"), ("img", "Image"), ("image", "Image")]

/-- What class names of buttons start with that say nothing more. -/
def plainButtonStarts : List String := [
  "clickable", "button", "btn-primary", "btn-secondary", "btn-default", "btn-large", "btn-small",
  "btn-", "button-"]

/-- Class names that say nothing where the content is known. -/
def plainClasses : List String := ["container", "wrapper", "content", "section", "area", "box"]

/-- What names of parts end with. -/
def partEndings : List String := [
  "Header", "Footer", "Body", "Sidebar", "Content", "Title", "Description", "Nav", "Navigation",
  "Aside", "Main", "Section", "Wrapper", "Container"]

/-- Names of elements, which are no names of components. -/
def elementTags : List String := [
  "div", "span", "p", "a", "img", "button", "input", "form", "ul", "ol", "li", "table", "tr", "td",
  "th"]

/-- A name is reserved, its case apart. -/
def isReserved (name : String) : Bool := reservedWords.contains (lower name)

/-- What comes before the first capital that a small letter follows, the first character apart. -/
def beforeHump : List Char → List Char → Option (List Char)
  | before, c :: d :: rest =>
    if !before.isEmpty && isUpper c && isLower d then some before.reverse
    else beforeHump (c :: before) (d :: rest)
  | _, _ => none

/-- The name of the whole that a part is named after: without an ending for parts, or else its
first word. -/
def wholeOfPart? (part : String) : Option String :=
  match partEndings.find? fun e => endsWith part e && size e < size part with
  | some e => some (dropLast part (size e))
  | none => (beforeHump [] part.toList).map String.ofList

/-- A class name that can give a name: no state, no number, no modifier. -/
def isTelling (c : String) : Bool :=
  1 < size c && !startsWith c "js-" && !startsWith c "is-" && !startsWith c "has-"
    && !isDigitText c && !contains c "--"

/-- A name by content and number alone. -/
def plainName (number : Nat) (hints : Option ContentHints) : String :=
  match hints with
  | none => "Component" ++ natText number
  | some h =>
    match h.childTypes with
    | type :: _ => pascalCase type ++ "Container" ++ natText number
    | [] =>
      if h.hasChildren || h.childCount != 0 then "Container" ++ natText number
      else "Component" ++ natText number

/-- The content is known by its types. -/
def hasChildTypes (hints : Option ContentHints) : Bool :=
  match hints with
  | some h => !h.childTypes.isEmpty
  | none => false

/-- A name by the first telling class name. -/
def ofClasses (number : Nat) (classes : List String) (hints : Option ContentHints) : String :=
  match classes.find? isTelling with
  | none => plainName number hints
  | some c =>
    if plainClasses.contains (lower c) && hasChildTypes hints then plainName number hints
    else
      let parts := BlockClass.parse c
      match parts.element with
      | some element => pascalCase (parts.block ++ " " ++ element)
      | none =>
        let name := pascalCase c
        if name == "" then plainName number hints else name

/-- The name of a button. -/
def ofButton (number : Nat) (r : NameRequest) : String :=
  match r.classes with
  | [] => "Button"
  | c :: rest =>
    if plainButtonStarts.any fun start => startsWith (lower c) start then "Button"
    else ofClasses number (c :: rest) r.hints

/-- The name of a part among its siblings. -/
def ofSiblings (number : Nat) (r : NameRequest) (sibling : String) : String :=
  let whole := if r.parent != "" then r.parent else (wholeOfPart? sibling).getD ""
  match r.classes with
  | [] => whole ++ "Section"
  | classes => whole ++ ofClasses number classes r.hints

/-- The name of a part by the name of the whole. -/
def ofParent (r : NameRequest) : String :=
  match r.hints with
  | some h =>
    r.parent ++ (if h.hasChildren || !h.childTypes.isEmpty then "Container" else "Section")
  | none => r.parent ++ "Section"

/-- The name by what an element is and where it stands, perhaps an empty one. -/
def ofPlace (number : Nat) (r : NameRequest) : String :=
  match r.type?.bind fun t => elementNames.lookup t with
  | some name => r.parent ++ name
  | none =>
    if r.type? == some "button" then ofButton number r
    else match r.siblings with
      | sibling :: _ => ofSiblings number r sibling
      | [] =>
        match r.classes with
        | c :: rest => r.parent ++ ofClasses number (c :: rest) r.hints
        | [] =>
          if r.parent != "" then ofParent r
          else match r.type? with
            | some t => pascalCase t
            | none => plainName number r.hints

/-- A name, or the plain one in place of an empty name. -/
def orPlain (number : Nat) (r : NameRequest) (name : String) : String :=
  if name == "" then plainName number r.hints else name

/-- The name that is proposed for a request. Only a name that an element gives itself may be a
reserved one. -/
def propose (number : Nat) (r : NameRequest) : String :=
  match r.explicitName? with
  | some name => orPlain number r name
  | none =>
    let name := orPlain number r (ofPlace number r)
    if isReserved name then name ++ "Component" else name

/-- A capital and then ASCII letters and digits; the end of a line may follow. -/
def isComponentName (name : String) : Bool :=
  let body := match name.toList.reverse with
    | '\n' :: rest => rest.reverse
    | _ => name.toList
  match body with
  | [] => false
  | c :: rest => c.isUpper && rest.all isAsciiAlnum

/-- A name that a component can have. -/
def isValid (name : String) : Bool :=
  !isReserved name && !elementTags.contains (lower name) && isComponentName name

end Naming

/-- A giver of names, with the names it has given. -/
structure Namer where
  convention : NamingConvention := .pascal
  beginning : String := ""
  ending : String := ""
  given : List String := []

namespace Namer

/-- The number that a plain name would get. -/
def number (n : Namer) : Nat := n.given.length + 1

/-- Gives a name that is neither given before nor among others. -/
def claim (n : Namer) (base : String) (others : List String) : String × Namer :=
  let name := Naming.claim base (others ++ n.given)
  (name, { n with given := n.given ++ [name] })

/-- The name that is wanted for a component. -/
def wanted (n : Namer) (r : NameRequest) : String :=
  n.beginning ++ n.convention.apply (Naming.propose n.number r) ++ n.ending

/-- Names a component. -/
def name (n : Namer) (r : NameRequest) : String × Namer := n.claim (n.wanted r) r.existing

/-- Gives a name like `claim`, unless another one has a number that is too long behind the base.
Given names are too short for that. -/
def claim? (n : Namer) (base : String) (others : List String) : Except Fault (String × Namer) :=
  match Naming.refusal? base (others ++ n.given) with
  | some fault => .error fault
  | none => .ok (n.claim base others)

/-- Names a component like `name`, unless another name has a number that is too long. -/
def name? (n : Namer) (r : NameRequest) : Except Fault (String × Namer) :=
  n.claim? (n.wanted r) r.existing

/-- Forgets the names given. -/
def forget (n : Namer) : Namer := { n with given := [] }

end Namer

namespace Naming

/-- The name of a class text, as a first name. -/
def ofClassText (s : String) (convention : NamingConvention) : String :=
  convention.apply (ofClasses 1 (words s) none)

end Naming
end Componentry
