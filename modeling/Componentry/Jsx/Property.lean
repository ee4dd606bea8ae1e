import Componentry.Attributes
import Componentry.Attributes.Style
import Componentry.Fault
import Componentry.Setting

/-!
# Properties of rendered elements

The attributes of markup become properties of the elements that a component renders: most keep
their value under another name, handlers of events and switches are known by their name, a style
becomes a map, and a few attributes are left out. Rules of the user come first.
-/

set_option autoImplicit false

namespace Componentry.Jsx
open Componentry.Text

/-- A value of a property. -/
inductive PropertyValue where
  | none
  | switch (on : Bool)
  | whole (n : Int)
  | decimal (x : Float)
  | text (s : String)
  | map (entries : List (String × PropertyValue))
  /-- A list or a section within a map. -/
  | compound (s : Setting)

namespace PropertyValue

instance : Inhabited PropertyValue := ⟨.none⟩

/-- A value that counts for something: it is neither nothing, nor zero, nor empty. -/
def counts : PropertyValue → Bool
  | .none => false
  | .switch on => on
  | .whole n => n != 0
  | .decimal x => x != 0.0
  | .text s => s != ""
  | .map entries => !entries.isEmpty
  | .compound s => s.counts

mutual
/-- The value as one of a settings file. -/
def toSetting : PropertyValue → Setting
  | .none => .null
  | .switch on => .switch on
  | .whole n => .whole n
  | .decimal x => .decimal x
  | .text s => .text s
  | .map entries => .group (toEntries entries)
  | .compound s => s

/-- The entries of a map as those of a settings file. -/
def toEntries : List (String × PropertyValue) → List (String × Setting)
  | [] => []
  | (key, value) :: rest => (key, toSetting value) :: toEntries rest
end

/-- The value for one of a settings file that stands within a map. -/
def ofSetting : Setting → PropertyValue
  | .null => .none
  | .switch on => .switch on
  | .whole n => .whole n
  | .decimal x => .decimal x
  | .text s => .text s
  | s => .compound s

/-- A map of values; of two entries with the same key the last value counts. -/
def ofEntries (entries : List (String × Setting)) : PropertyValue :=
  .map ((Dict.ofList entries).entries.map fun (key, value) => (key, ofSetting value))

/-- The value of a plain attribute. -/
def ofAttribute : AttributeValue → PropertyValue
  | .switch on => .switch on
  | .text s => .text s

/-- A map of texts. -/
def ofStyle (style : Dict String) : PropertyValue :=
  .map (style.entries.map fun (name, value) => (name, .text value))

end PropertyValue

/-- What a property is. -/
inductive PropertyKind where
  | direct
  | event
  | style
  | boolean
  | custom
  | remove
deriving Repr, DecidableEq

namespace PropertyKind

/-- The word for a kind. -/
def name : PropertyKind → String
  | .direct => "direct"
  | .event => "event"
  | .style => "style"
  | .boolean => "boolean"
  | .custom => "custom"
  | .remove => "remove"

/-- The kind of a word. -/
def ofName? : String → Option PropertyKind
  | "direct" => some .direct
  | "event" => some .event
  | "style" => some .style
  | "boolean" => some .boolean
  | "custom" => some .custom
  | "remove" => some .remove
  | _ => none

end PropertyKind

/-- A property. -/
structure Property where
  name : String
  value : PropertyValue
  kind : PropertyKind := .direct

/-- A rule of the user for one attribute: the name of the property and what becomes of the value. -/
structure CustomRule where
  property : String
  convert : Option (PropertyValue → Except Fault PropertyValue) := none

/-- The rules of the user, by attribute. -/
abbrev CustomRules := Dict CustomRule

/-- Attributes that keep their value under another name. -/
def renamed : List (String × String) := [
  ("class", "className"), ("for", "htmlFor"), ("tabindex", "tabIndex"), ("readonly", "readOnly"),
  ("maxlength", "maxLength"), ("cellpadding", "cellPadding"), ("cellspacing", "cellSpacing"),
  ("colspan", "colSpan"), ("rowspan", "rowSpan"), ("frameborder", "frameBorder"),
  ("marginwidth", "marginWidth"), ("marginheight", "marginHeight"), ("noresize", "noResize"),
  ("enctype", "encType"), ("autocomplete", "autoComplete"),
  ("allowpaymentrequest", "allowPaymentRequest"), ("formaction", "formAction"),
  ("formenctype", "formEncType"), ("formmethod", "formMethod"),
  ("formnovalidate", "formNoValidate"), ("formtarget", "formTarget"), ("inputmode", "inputMode"),
  ("minlength", "minLength"), ("novalidate", "noValidate"), ("radiogroup", "radioGroup"),
  ("spellcheck", "spellCheck"), ("srcdoc", "srcDoc"), ("srclang", "srcLang")]

/-- The names of handlers. All but one are those of their attributes with capitals. -/
def handlerNames : List String := [
  "onClick", "onDoubleClick", "onChange", "onSubmit", "onLoad", "onError", "onKeyDown", "onKeyUp",
  "onKeyPress", "onMouseOver", "onMouseOut", "onMouseMove", "onMouseDown", "onMouseUp",
  "onMouseEnter", "onMouseLeave", "onFocus", "onBlur", "onScroll", "onInput", "onTouchStart",
  "onTouchEnd", "onTouchMove", "onTouchCancel", "onWheel", "onCopy", "onCut", "onPaste",
  "onCompositionStart", "onCompositionEnd", "onCompositionUpdate", "onDrag", "onDragEnd",
  "onDragEnter", "onDragExit", "onDragLeave", "onDragOver", "onDragStart", "onDrop", "onReset",
  "onSelect", "onToggle", "onBeforeInput", "onPointerDown", "onPointerMove", "onPointerUp",
  "onPointerCancel", "onPointerEnter", "onPointerLeave", "onPointerOver", "onPointerOut",
  "onGotPointerCapture", "onLostPointerCapture", "onContextMenu", "onAnimationStart",
  "onAnimationEnd", "onAnimationIteration", "onTransitionEnd", "onCanPlay", "onCanPlayThrough",
  "onDurationChange", "onEmptied", "onEncrypted", "onEnded", "onLoadedData", "onLoadedMetadata",
  "onPause", "onPlay", "onPlaying", "onProgress", "onRateChange", "onSeeked", "onSeeking",
  "onStalled", "onSuspend", "onTimeUpdate", "onVolumeChange", "onWaiting", "onAbort", "onMessage",
  "onClose", "onOpen"]

/-- Attributes of handlers. -/
def handlers : List (String × String) :=
  handlerNames.map fun name =>
    (if name == "onDoubleClick" then "ondblclick" else asciiLower name, name)

/-- Switches with their properties. -/
def switchNames : List (String × String) := [
  ("disabled", "disabled"), ("checked", "checked"), ("required", "required"),
  ("multiple", "multiple"), ("muted", "muted"), ("loop", "loop"), ("controls", "controls"),
  ("autoplay", "autoPlay"), ("autofocus", "autoFocus"), ("default", "default"),
  ("hidden", "hidden"), ("selected", "selected"), ("nomodule", "noModule"), ("async", "async"),
  ("defer", "defer"), ("reversed", "reversed"), ("open", "open"), ("download", "download")]

/-- Attributes that are left out. -/
def leftOut : List String := ["data-reactid", "data-reactroot", "reactid", "reactroot"]

/-- Attributes that are switches under whatever name. -/
def switchAttributes : List String := [
  "disabled", "checked", "required", "multiple", "muted", "loop", "controls", "autoplay", "default",
  "hidden", "selected", "autofocus", "allowfullscreen", "nomodule", "async", "defer", "reversed",
  "open", "download", "formnovalidate", "ismap", "noshade", "nowrap", "readonly", "seamless"]

/-- The attributes with a property of their own: the attribute, the property and its kind. -/
def standard : List (String × String × PropertyKind) :=
  (renamed.map fun (a, p) => (a, p, .direct))
    ++ (handlers.map fun (a, p) => (a, p, .event))
    ++ (switchNames.map fun (a, p) => (a, p, .boolean))
    ++ leftOut.map fun a => (a, "", .remove)

/-- The standard property of an attribute, by its name. -/
def standard? (name : String) : Option (String × PropertyKind) := standard.lookup name

/-- The map of a style attribute; a value that is no text is an empty style. -/
def styleMap : PropertyValue → Dict String
  | .text s => Style.parse s
  | _ => Dict.empty

/-- The property of an attribute that no rule of the user is for. -/
def standardProperty (name : String) (value : PropertyValue) : Property :=
  match standard? name with
  | some (_, .remove) => { name := "", value := .text "", kind := .remove }
  | some (property, .boolean) => { name := property, value := .switch true, kind := .boolean }
  | some (property, kind) => { name := property, value, kind }
  | none =>
    if name == "style" then
      { name := "style", value := .ofStyle (styleMap value), kind := .style }
    else if startsWith name "data-" || startsWith name "aria-" then { name, value }
    else if switchAttributes.contains name then { name, value := .switch true, kind := .boolean }
    else { name, value }

/-- The property of an attribute. -/
def propertyOf (rules : CustomRules) (name : String) (value : PropertyValue) :
    Except Fault Property :=
  match rules.get? name with
  | some rule => do
    let value ← match rule.convert with
      | some convert => convert value
      | none => .ok value
    .ok { name := rule.property, value, kind := .custom }
  | none => .ok (standardProperty name value)

/-- The properties of attributes, those that are left out not among them. -/
def keptProperties (rules : CustomRules) (attributes : List (String × PropertyValue)) :
    Except Fault (List Property) := do
  let all ← attributes.mapM fun (name, value) => propertyOf rules name value
  .ok (all.filter fun p => p.kind != .remove)

/-- An attribute is left out. -/
def isLeftOut (name : String) : Bool := leftOut.contains name

/-- An attribute is a switch. -/
def isSwitch (name : String) : Bool := switchAttributes.contains name

/-- An attribute holds a handler. -/
def isHandler (name : String) : Bool :=
  startsWith name "on" ||
    match standard? name with
    | some (_, .event) => true
    | _ => false

end Componentry.Jsx
