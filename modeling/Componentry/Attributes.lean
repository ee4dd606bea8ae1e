import Componentry.Dict
import Componentry.Text.Blank

/-!
# Attribute bags

The attributes of an element, sorted by what they are: plain ones under their component names, the
inline style as a map, the class, and the event handlers. A plain attribute is a text or a switch.

Plain attributes are kept under the names that components use for them; one table gives these names
for the attributes of markup, and read backwards it leads back. Some attributes are switches, whose
presence alone counts.
-/

set_option autoImplicit false

namespace Componentry

/-! ## Names -/

/-- Markup names with a component name of their own. -/
def componentNames : List (String × String) := [
  ("class", "className"), ("for", "htmlFor"), ("tabindex", "tabIndex"), ("readonly", "readOnly"),
  ("maxlength", "maxLength"), ("cellpadding", "cellPadding"), ("cellspacing", "cellSpacing"),
  ("colspan", "colSpan"), ("rowspan", "rowSpan"), ("frameborder", "frameBorder"),
  ("allowfullscreen", "allowFullScreen"), ("autocomplete", "autoComplete"),
  ("autofocus", "autoFocus"), ("autoplay", "autoPlay"), ("charset", "charSet"),
  ("contenteditable", "contentEditable"), ("crossorigin", "crossOrigin"), ("enctype", "encType"),
  ("formaction", "formAction"), ("formenctype", "formEncType"), ("formmethod", "formMethod"),
  ("formnovalidate", "formNoValidate"), ("formtarget", "formTarget"), ("hreflang", "hrefLang"),
  ("inputmode", "inputMode"), ("minlength", "minLength"), ("novalidate", "noValidate"),
  ("srcdoc", "srcDoc"), ("srcset", "srcSet")]

/-- The component name of a markup name, if it has one of its own. -/
def componentName? (name : String) : Option String := componentNames.lookup name

/-- The markup name behind a component name, if the table has it. -/
def markupName? (name : String) : Option String :=
  (componentNames.find? fun e => e.2 == name).map Prod.fst

/-- Attributes that are on when they are present. -/
def switches : List String := [
  "allowfullscreen", "async", "autofocus", "autoplay", "checked", "controls", "default", "defer",
  "disabled", "download", "formnovalidate", "hidden", "ismap", "itemscope", "loop", "multiple",
  "muted", "nomodule", "novalidate", "open", "playsinline", "readonly", "required", "reversed",
  "selected"]

/-- Elements that are written without an end tag. -/
def voidElements : List String := [
  "area", "base", "br", "col", "embed", "hr", "img", "input", "link", "meta", "param", "source",
  "track", "wbr"]

open Componentry.Text

/-- The value of a plain attribute. -/
inductive AttributeValue where
  | switch (on : Bool)
  | text (s : String)
deriving Repr, DecidableEq

/-- An event handler: the attribute it stands in and its code. -/
structure Handler where
  event : String
  code : String
deriving Repr, DecidableEq

/-- The attributes of an element. -/
structure Attributes where
  plain : Dict AttributeValue := Dict.empty
  style : Option (Dict String) := none
  className : Option String := none
  events : List Handler := []
  rawMarkup : Bool := false

namespace Attributes

instance : Inhabited Attributes := ⟨{}⟩

/-- No attributes. -/
def empty : Attributes := {}

/-- The class names. -/
def classes (a : Attributes) : List String := words (a.className.getD "")

/-- The value of an attribute by name: the class, or a plain attribute. -/
def get? (a : Attributes) (name : String) : Option AttributeValue :=
  if name == "class" then a.className.map .text else a.plain.get? name

/-- The text of a plain attribute, if it has one that is not empty. -/
def textOf? (a : Attributes) (name : String) : Option String :=
  match a.plain.get? name with
  | some (.text s) => if s.isEmpty then none else some s
  | _ => none

/-- A plain attribute is there and counts: a text that is not empty, or a switch that is on. -/
def counts (a : Attributes) (name : String) : Bool :=
  match a.plain.get? name with
  | some (.text s) => !s.isEmpty
  | some (.switch on) => on
  | none => false

/-- The style, nothing where there is none. -/
def styleOrNone (a : Attributes) : Dict String := a.style.getD Dict.empty

/-- Two bags say the same: the order of plain attributes and of style entries does not count, an
absent style is an empty one. -/
def agrees (a b : Attributes) : Bool :=
  a.plain == b.plain && a.className == b.className && a.styleOrNone == b.styleOrNone
    && a.events == b.events

/-- Two bags are field by field the same, the order of entries apart. -/
def identical (a b : Attributes) : Bool :=
  a.plain == b.plain && a.style == b.style && a.className == b.className && a.events == b.events
    && a.rawMarkup == b.rawMarkup

end Attributes
end Componentry
