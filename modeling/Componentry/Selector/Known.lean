import Componentry.Selector.Compound

/-!
# Named selectors

Pseudo-classes that stand for a longer selector, mostly on form controls, and those that ask for a
state no document has. The longer selectors keep to one page: they do not look out of a frame.
-/

set_option autoImplicit false

namespace Componentry.Selector

/-- An element of a name. -/
def named (s : String) : Selector := .feature (.name s)

/-- An element of one of some names. -/
def namedOneOf (l : List String) : Selector := oneOf (l.map named)

/-- An element with an attribute. -/
def having (name : String) : Selector := .feature (.value name none)

/-- An element with an attribute of a value, case disregarded. -/
def valued (name value : String) : Selector :=
  .feature (.value name (some ⟨.equal, value, true⟩))

/-- An element with an attribute of exactly a value. -/
def valuedExactly (name value : String) : Selector :=
  .feature (.value name (some ⟨.equal, value, false⟩))

/-- An input of one of some types. -/
def inputOf (types : List String) : Selector :=
  .both (named "input") (oneOf (types.map (valued "type")))

/-- An input that is not hidden. -/
def visibleInput : Selector := .both (named "input") (.unless (valued "type" "hidden"))

/-- An area of a page that leads somewhere. -/
def link : Selector := .both (namedOneOf ["a", "area"]) (having "href")

/-- A box, a choice or an option that is set. -/
def checked : Selector :=
  .either (.both (inputOf ["checkbox", "radio"]) (having "checked"))
    (.both (named "option") (having "selected"))

/-- Controls that are set or would be sent by default. -/
def isDefault : Selector :=
  .either checked
    (allOf [namedOneOf ["button", "input"], valued "type" "submit",
      .related .ancestor (named "form"), .feature .firstSubmit])

/-- Controls in neither of two states. -/
def indeterminate : Selector :=
  oneOf [
    .both (inputOf ["checkbox"]) (having "indeterminate"),
    allOf [inputOf ["radio"], .either (.unless (having "name")) (valuedExactly "name" ""),
      .unless (having "checked")],
    .both (named "progress") (.unless (having "value")),
    allOf [inputOf ["radio"], having "name", .unless (valuedExactly "name" ""),
      .unless (having "checked"), .feature .unsetChoice]]

/-- Controls that a set of fields switches off with itself. -/
def fields : Selector :=
  .either visibleInput (namedOneOf ["button", "select", "textarea", "fieldset"])

/-- Controls that are switched off, by themselves or by what they are in. -/
def disabled : Selector :=
  let off (s : Selector) : Selector := .both s (having "disabled")
  let firstLegend : Selector := .both (named "legend") (.nth ⟨0, 1, true, false⟩ .any)
  oneOf [
    off (.either fields (namedOneOf ["optgroup", "option"])),
    .both (named "option") (.related .parent (off (named "optgroup"))),
    .both fields (.related .parent (off (named "fieldset"))),
    .both fields (.related .ancestor
      (.both (.unless firstLegend) (.related .parent (off (named "fieldset")))))]

/-- Controls that are not switched off. -/
def enabled : Selector :=
  .both (.either fields (namedOneOf ["optgroup", "option"])) (.unless disabled)

/-- Controls that take an input. -/
def entries : Selector := namedOneOf ["input", "select", "textarea"]

/-- Controls that show a placeholder. -/
def placeholderShown : Selector :=
  .either
    (allOf [named "input",
      .either (.unless (having "type")) (oneOf (["", "text", "search", "url", "tel", "email",
        "password", "number"].map (valued "type"))),
      having "placeholder", .unless (valuedExactly "placeholder" ""),
      .either (.unless (having "value")) (valuedExactly "value" "")])
    (allOf [named "textarea", having "placeholder", .unless (valuedExactly "placeholder" ""),
      .feature .unfilled])

/-- Elements whose content can be changed. -/
def readWrite : Selector :=
  .either
    (allOf [
      .either (named "textarea") (.both (named "input")
        (.either (.unless (having "type")) (oneOf (["", "date", "datetime-local", "email", "month",
          "number", "password", "search", "tel", "text", "time", "url", "week"].map
            (valued "type"))))),
      .unless (having "readonly"), .unless disabled])
    (.either (valuedExactly "contenteditable" "") (valued "contenteditable" "true"))

/-- Inputs with a limit, within it or not. Their value is looked at first. -/
def ranged (within : Bool) : Selector :=
  allOf [named "input", .feature (.inRange within),
    oneOf (["date", "month", "week", "time", "datetime-local", "number", "range"].map
      (valued "type")),
    .either (having "min") (having "max")]

/-- The position of a plain ordinal. -/
def ordinal (ofType fromEnd : Bool) : Selector := .nth ⟨0, 1, ofType, fromEnd⟩ .any

/-! ## Sizes -/

/-- The size of a list of so many groups of plain tests. -/
def plainSize (n : Nat) : Nat := listSize (List.replicate n 0)

/-- The size of an excluded test. -/
def withoutSize : Nat := plainSize 1

/-- The size of a list of so many groups, one of which excludes a test. -/
def excludingSize (n : Nat) : Nat := listSize (withoutSize :: List.replicate (n - 1) 0)

/-- The size of `checked`. -/
def checkedSize : Nat := listSize [plainSize 2, 0]

/-- The size of `disabled`; a set of fields is named twice among the fields that may be off by
themselves. -/
def disabledSize : Nat :=
  let firstLegend := listSize [plainSize 0]
  let inSet := plainSize 1
  listSize [excludingSize 8, inSet, excludingSize 5 + inSet,
    excludingSize 5 + listSize [firstLegend + inSet]]

/-- The size of `readWrite`. -/
def readWriteSize : Nat :=
  listSize [listSize [0, excludingSize 14] + listSize [0, disabledSize], plainSize 2]

/-! ## Pseudo-classes -/

/-- What a pseudo-class without arguments asks of an element. -/
inductive Meaning where
  /-- A state that no element of a document is in. -/
  | impossible
  | tests (l : List (Turn × Sized))

namespace Meaning

/-- A single test of the element alone. -/
def one (turn : Turn) (s : Selector) : Meaning := .tests [(turn, ⟨s, 0⟩)]

/-- A longer selector of a size. -/
def nested (s : Selector) (size : Nat) : Meaning := .tests [(.nested, ⟨.framed s, size⟩)]

/-- A place at the edge of the siblings; no test says which of them count. -/
def place (ofType fromEnd : Bool) : Turn × Sized :=
  (.position, ⟨ordinal ofType fromEnd, plainSize 0⟩)

/-- The first or last of its siblings. -/
def edge (ofType fromEnd : Bool) : Meaning := .tests [place ofType fromEnd]

/-- The only one of its siblings. -/
def only (ofType : Bool) : Meaning := .tests [place ofType false, place ofType true]

/-- What a pseudo-class without arguments means. -/
def ofKeyword? : String → Option Meaning
  | "any-link" | "link" => some (nested link (listSize [plainSize 2]))
  | "checked" => some (nested checked checkedSize)
  | "default" => some (nested isDefault (listSize [checkedSize, plainSize 2 + plainSize 1]))
  | "defined" => some (one .defined (.feature .defined))
  | "disabled" => some (nested disabled disabledSize)
  | "empty" => some (one .empty (.feature .empty))
  | "enabled" => some (nested enabled (listSize [excludingSize 8 + listSize [disabledSize]]))
  | "first-child" => some (edge false false)
  | "first-of-type" => some (edge true false)
  | "in-range" => some (nested (ranged true) (listSize [plainSize 7 + plainSize 2]))
  | "indeterminate" =>
    some (nested indeterminate
      (listSize [0, excludingSize 2 + withoutSize, withoutSize, withoutSize + withoutSize]))
  | "last-child" => some (edge false true)
  | "last-of-type" => some (edge true true)
  | "muted" =>
    some (nested (.both (namedOneOf ["video", "audio"]) (having "muted"))
      (listSize [plainSize 2]))
  | "only-child" => some (only false)
  | "only-of-type" => some (only true)
  | "open" =>
    some (nested (.both (namedOneOf ["details", "dialog"]) (having "open"))
      (listSize [plainSize 2]))
  | "optional" =>
    some (nested (.both entries (.unless (having "required")))
      (listSize [plainSize 3 + withoutSize]))
  | "out-of-range" => some (nested (ranged false) (listSize [plainSize 7 + plainSize 2]))
  | "placeholder-shown" =>
    some (nested placeholderShown
      (listSize [excludingSize 9 + withoutSize + excludingSize 2, withoutSize]))
  | "read-only" => some (nested (.unless readWrite) (listSize [listSize [readWriteSize]]))
  | "read-write" => some (nested readWrite readWriteSize)
  | "required" => some (nested (.both entries (having "required")) (listSize [plainSize 3]))
  | "root" => some (one .root (.feature .root))
  | "scope" => some (one .scope (.feature .scope))
  | "active" | "autofill" | "buffering" | "current" | "focus" | "focus-visible" | "focus-within"
  | "fullscreen" | "future" | "host" | "hover" | "local-link" | "past" | "paused"
  | "picture-in-picture" | "playing" | "popover-open" | "seeking" | "stalled" | "target"
  | "target-within" | "user-invalid" | "visited" | "volume-locked" => some .impossible
  | _ => none

end Meaning

/-- Pseudo-classes that take arguments. -/
def namesWithArguments : List String := [
  "contains", "-soup-contains", "-soup-contains-own", "has", "is", "matches", "not", "where",
  "current", "host", "host-context", "dir", "lang", "nth-child", "nth-last-child",
  "nth-last-of-type", "nth-of-type"]

/-- A pseudo-class has this name. -/
def isKnownName (name : String) : Bool :=
  (Meaning.ofKeyword? name).isSome || namesWithArguments.contains name

end Componentry.Selector
