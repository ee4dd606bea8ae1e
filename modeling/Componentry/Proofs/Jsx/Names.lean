import Componentry.Jsx.Source
import Componentry.Proofs.Attributes.Rereading

/-!
# Names that are printed

An attribute goes through tables of names before it is printed: markup names become component names
and go back, handlers and switches have names of their own, and the class has two. A name that a
table puts in place of another holds a capital, so no attribute in lower case had it before. Hence
attributes with different names in lower case are printed under different names, and each attribute
of an element is printed once.
-/

set_option autoImplicit false

namespace Componentry

/-- What a bag holds, by the names of markup: a class that is not empty, plain attributes, a style
with entries, and handlers. -/
inductive Attributes.Holds (a : Attributes) : String → AttributeValue → Prop where
  | className {c : String} : a.className = some c → c ≠ "" → Holds a "class" (.text c)
  | plain {key : String} {value : AttributeValue} : (key, value) ∈ a.plain.entries →
      Holds a ((markupName? key).getD key) value
  | style {style : Dict String} : a.style = some style → style.isEmpty = false →
      Holds a "style" (.text (Style.write style))
  | event {handler : Handler} : handler ∈ a.events → Holds a handler.event (.text handler.code)

namespace Attributes
variable {l : List (String × String)} {name : String} {value : AttributeValue}

/-- What is written for a bag is what it holds. -/
theorem mem_toMarkup_iff_holds (h : AreLowered l) :
    (name, value) ∈ (bagOf l).toMarkup.entries ↔ (bagOf l).Holds name value := by
  rw [(isWritten_toMarkup h).1, List.mem_append, List.mem_append, List.mem_append]
  constructor
  -- The four runs of what is written are the four ways a bag can hold something.
  · rintro (((isClass | isPlain) | isStyle) | isEvent)
    · unfold classEntries at isClass
      split at isClass
      next c found =>
        split at isClass
        · cases isClass
        next some_ =>
          cases List.mem_singleton.1 isClass
          exact .className found fun empty => some_ (String.isEmpty_iff.2 empty)
      · cases isClass
    · rw [plainEntries_bagOf] at isPlain
      obtain ⟨e, he, same⟩ := List.mem_map.1 isPlain
      cases same
      exact .plain he
    · unfold styleEntries at isStyle
      split at isStyle
      next style found =>
        split at isStyle
        · cases isStyle
        next some_ =>
          cases List.mem_singleton.1 isStyle
          exact .style found (Bool.eq_false_iff.2 some_)
      · cases isStyle
    · obtain ⟨handler, mem, same⟩ := List.mem_map.1 isEvent
      cases same
      exact .event mem
  · intro holds
    cases holds with
    | @className c found some_ =>
      have filled : c.isEmpty = false := by rwa [← Bool.not_eq_true, String.isEmpty_iff]
      exact .inl (.inl (.inl (by simp [classEntries, found, filled])))
    | @plain key value mem =>
      rw [plainEntries_bagOf]
      exact .inl (.inl (.inr (List.mem_map_of_mem
        (f := fun e : String × AttributeValue => ((markupName? e.1).getD e.1, e.2)) mem)))
    | @style style found some_ => exact .inl (.inr (by simp [styleEntries, found, some_]))
    | @event handler mem =>
      exact .inr (List.mem_map_of_mem
        (f := fun e : Handler => (e.event, AttributeValue.text e.code)) mem)

/-- What a bag holds is named in lower case. -/
theorem Holds.lowered (h : AreLowered l) (holds : (bagOf l).Holds name value) :
    Text.lower name = name := by
  have mem := mem_reread ((mem_toMarkup_iff_holds h).2 holds)
  exact (isWritten_toMarkup h).2.lowered (name, Markup.readValue value) mem

/-- A style that a bag holds has entries, and a switch is on and has a name. -/
theorem Holds.shape (h : AreLowered l) (holds : (bagOf l).Holds name value) :
    (name = "style" ∧ ∃ css, value = .text css ∧ (Style.parse css).isEmpty = false) ∨
      (name ≠ "style" ∧ ((∃ s, value = .text s) ∨ (name ≠ "" ∧ value = .switch true))) := by
  have styled : partOf "style" = .style := by decide
  cases holds with
  | className => exact .inr ⟨by decide, .inl ⟨_, rfl⟩⟩
  | plain mem =>
    obtain ⟨f, hf, part, same⟩ := exists_plain mem
    cases same
    rw [markupName?_keyOf (h.lowered f hf)]
    have other : f.1 ≠ "style" := fun same => by
      rw [same, styled] at part
      cases part
    refine .inr ⟨other, ?_⟩
    unfold kept
    split
    next on =>
      have filled : ∀ n ∈ switches, n ≠ "" := by decide
      rw [Bool.and_eq_true, List.contains_iff_mem] at on
      exact .inr ⟨filled f.1 on.1, rfl⟩
    · exact .inl ⟨f.2, rfl⟩
  | style found some_ =>
    obtain ⟨e, -, parsed⟩ := Option.map_eq_some_iff.1 found
    refine .inl ⟨rfl, _, rfl, ?_⟩
    rw [← parsed, Style.isEmpty_parse_write_parse, parsed]
    exact some_
  | event mem =>
    obtain ⟨e, he, rfl⟩ := List.mem_map.1 mem
    have part := (mem_ofPart.1 he).2
    refine .inr ⟨fun same => ?_, .inl ⟨_, rfl⟩⟩
    rw [show e.1 = "style" from same, styled] at part
    cases part

end Attributes

namespace Jsx
open Componentry.Text Componentry.Attributes

/-! ## Tables -/

/-- The name of the property of an attribute that is not left out. -/
def propertyName (name : String) : String := ((standard? name).map Prod.fst).getD name

section
variable {name other : String}

/-- What the table of names gives stands in it. -/
theorem mem_of_standard? {found : String × PropertyKind} (h : standard? name = some found) :
    (name, found) ∈ standard := by
  obtain ⟨before, after, whole, -⟩ := List.lookup_eq_some_iff.1 h
  rw [whole]
  simp

/-- The attribute that a property has its name from: but for three, the name in lower case. -/
def attributeName (property : String) : String :=
  if property = "className" then "class"
  else if property = "htmlFor" then "for"
  else if property = "onDoubleClick" then "ondblclick"
  else lower property

/-- What there is to know of the table: styles are not in it, what is left out is, and every other
name of a property leads back to its attribute. -/
theorem standard_checked : standard? "style" = none ∧
    (∀ n ∈ leftOut, standard? n = some ("", .remove)) ∧
    ∀ e ∈ standard, e.2.2 ≠ .remove → attributeName e.2.1 = e.1 := by
  decide +kernel

/-- The table leaves out what is left out, and nothing else. -/
theorem isLeftOut_iff :
    isLeftOut name = true ↔ ∃ property, standard? name = some (property, .remove) := by
  constructor
  · intro left
    exact ⟨"", standard_checked.2.1 name (List.contains_iff_mem.1 left)⟩
  · rintro ⟨property, found⟩
    have mem := mem_of_standard? found
    simp only [standard, List.mem_append, List.mem_map, Prod.mk.injEq, reduceCtorEq, and_false,
      exists_const, false_or] at mem
    obtain ⟨n, hn, rfl, -⟩ := mem
    exact List.contains_iff_mem.2 hn

/-- The name of an attribute is found again in the name of its property. -/
theorem attributeName_propertyName (lowered : lower name = name)
    (kept : isLeftOut name = false) : attributeName (propertyName name) = name := by
  unfold propertyName
  cases found : standard? name with
  | some entry =>
    obtain ⟨property, kind⟩ := entry
    refine standard_checked.2.2 _ (mem_of_standard? found) fun removed => ?_
    dsimp only at removed
    rw [removed] at found
    rw [isLeftOut_iff.2 ⟨property, found⟩] at kept
    cases kept
  | none =>
    have capital : ∀ p ∈ ["className", "htmlFor", "onDoubleClick"], lower p ≠ p := by decide
    have small : ∀ p ∈ ["className", "htmlFor", "onDoubleClick"], name ≠ p := by
      rintro p hp rfl
      exact capital _ hp lowered
    simp only [List.forall_mem_cons] at small
    rw [Option.map_none, Option.getD_none, attributeName, if_neg small.1, if_neg small.2.1,
      if_neg small.2.2.1, lowered]

/-- Attributes with different names in lower case have properties with different names. -/
theorem propertyName_inj (hn : lower name = name) (ho : lower other = other)
    (kn : isLeftOut name = false) (ko : isLeftOut other = false)
    (same : propertyName name = propertyName other) : name = other := by
  rw [← attributeName_propertyName hn kn, same, attributeName_propertyName ho ko]

/-- The word for the class in markup is no name of a property. -/
theorem propertyName_ne_class (lowered : lower name = name) (kept : isLeftOut name = false) :
    propertyName name ≠ "class" := by
  have renamed : propertyName "class" = "className" := by decide
  have word : attributeName "class" = "class" := by decide
  intro same
  have back := attributeName_propertyName lowered kept
  rw [same, word] at back
  rw [← back, renamed] at same
  revert same
  decide

/-- An attribute with a name that is not left out has a property with one. -/
theorem propertyName_ne_empty (lowered : lower name = name) (kept : isLeftOut name = false)
    (some_ : name ≠ "") : propertyName name ≠ "" := by
  have word : attributeName "" = "" := by decide
  intro same
  have back := attributeName_propertyName lowered kept
  rw [same, word] at back
  exact some_ back.symm

/-! ## Properties -/

/-- The table of names has no style, neither as a name nor as a kind. -/
theorem kind_of_standard? {property : String} {kind : PropertyKind}
    (found : standard? name = some (property, kind)) : kind ≠ .style ∧ name ≠ "style" := by
  constructor
  · have mem := mem_of_standard? found
    simp only [standard, List.mem_append, List.mem_map, Prod.mk.injEq] at mem
    rcases mem with ((⟨-, -, -, -, rfl⟩ | ⟨-, -, -, -, rfl⟩) | ⟨-, -, -, -, rfl⟩) |
      ⟨-, -, -, -, rfl⟩ <;> decide
  · rintro rfl
    rw [standard_checked.1] at found
    cases found

/-- A name that the table turns into a switch is not empty. -/
theorem ne_empty_of_boolean {property : String}
    (found : standard? name = some (property, .boolean)) : name ≠ "" := by
  have mem := mem_of_standard? found
  simp only [standard, List.mem_append, List.mem_map, Prod.mk.injEq, reduceCtorEq, and_false,
    exists_const, false_or, or_false] at mem
  obtain ⟨e, he, rfl, -⟩ := mem
  have each : ∀ e ∈ switchNames, e.1 ≠ "" := by decide
  exact each e he

/-- What becomes of an attribute that is not left out: a style is a map, any other value is kept or
becomes a switch that is on. -/
inductive Becomes (name : String) (value : PropertyValue) (p : Property) : Prop where
  | style : name = "style" → p.kind = .style → p.value = .ofStyle (styleMap value) →
      Becomes name value p
  | kept : name ≠ "style" → p.kind ≠ .style → p.value = value → Becomes name value p
  | on : name ≠ "style" → p.kind ≠ .style → name ≠ "" → p.value = .switch true →
      Becomes name value p

/-- An attribute that is not left out becomes the property of its name. -/
theorem becomes_standardProperty (value : PropertyValue) (kept : isLeftOut name = false) :
    (standardProperty name value).name = propertyName name ∧
      (standardProperty name value).kind ≠ .remove ∧
        Becomes name value (standardProperty name value) := by
  unfold standardProperty propertyName
  split
  next property found =>
    rw [isLeftOut_iff.2 ⟨property, found⟩] at kept
    cases kept
  next property found =>
    rw [found]
    exact ⟨rfl, by simp, .on (kind_of_standard? found).2 (by simp) (ne_empty_of_boolean found) rfl⟩
  next property kind notRemove _ found =>
    rw [found]
    obtain ⟨plain, other⟩ := kind_of_standard? found
    exact ⟨rfl, notRemove, .kept other plain rfl⟩
  next found =>
    rw [found]
    have filled : ∀ n ∈ switchAttributes, n ≠ "" := by decide
    split_ifs with style passed switch
    · exact ⟨(beq_iff_eq.1 style).symm, by simp, .style (beq_iff_eq.1 style) rfl rfl⟩
    · exact ⟨rfl, by simp, .kept (by simpa using style) (by simp) rfl⟩
    · exact ⟨rfl, by simp,
        .on (by simpa using style) (by simp) (filled name (List.contains_iff_mem.1 switch)) rfl⟩
    · exact ⟨rfl, by simp, .kept (by simpa using style) (by simp) rfl⟩

/-- An attribute that is left out becomes a property to remove. -/
theorem standardProperty_of_isLeftOut (value : PropertyValue) (left : isLeftOut name = true) :
    (standardProperty name value).kind = .remove := by
  obtain ⟨property, found⟩ := isLeftOut_iff.1 left
  rw [standardProperty, found]

end

/-! ## Printing -/

/-- The text of an attribute: its name, which is not empty, or its name with a value behind it. -/
def IsAttributeText (name text : String) : Prop :=
  (text = name ∧ name ≠ "") ∨ ∃ value, text = name ++ "=" ++ value

/-- The name that an attribute is printed under. -/
def printedName (renamesClass : Bool) (name : String) (value : AttributeValue) : String :=
  writtenName renamesClass (standardProperty name (.ofAttribute value))

/-- The text that an attribute is printed as. -/
def printedText (renamesClass : Bool) (name : String) (value : AttributeValue) : String :=
  writeProperty renamesClass (standardProperty name (.ofAttribute value))

section
variable {name other : String} {value otherValue : AttributeValue} {renamesClass : Bool}

/-- An attribute is printed with at least a character. -/
theorem IsAttributeText.ne_empty {text : String} (h : IsAttributeText name text) : text ≠ "" := by
  rcases h with ⟨rfl, some_⟩ | ⟨value, rfl⟩
  · exact some_
  · intro empty
    have chars := congrArg String.toList empty
    simp [String.toList_append] at chars

/-- The printed name is that of the property, but for a class that is not renamed. -/
theorem printedName_eq (kept : isLeftOut name = false) : printedName renamesClass name value =
    if propertyName name == "className" && !renamesClass then "class" else propertyName name := by
  rw [printedName, writtenName, (becomes_standardProperty _ kept).1]

/-- Attributes with different names in lower case are printed under different names. -/
theorem printedName_inj (hn : lower name = name) (ho : lower other = other)
    (kn : isLeftOut name = false) (ko : isLeftOut other = false)
    (same : printedName renamesClass name value = printedName renamesClass other otherValue) :
    name = other := by
  rw [printedName_eq kn, printedName_eq ko] at same
  refine propertyName_inj hn ho kn ko ?_
  split_ifs at same with cn co co
  · rw [Bool.and_eq_true, beq_iff_eq] at cn co
    rw [cn.1, co.1]
  · exact absurd same.symm (propertyName_ne_class ho ko)
  · exact absurd same (propertyName_ne_class hn kn)
  · exact same

/-- An attribute with a name that is not left out is printed with one. -/
theorem printedName_ne_empty (lowered : lower name = name) (kept : isLeftOut name = false)
    (some_ : name ≠ "") : printedName renamesClass name value ≠ "" := by
  rw [printedName_eq kept]
  split
  · decide
  · exact propertyName_ne_empty lowered kept some_

/-- A text is printed behind the name, whatever kind of property it is. -/
theorem isAttributeText_of_text {p : Property} {s : String} (text : p.value = .text s)
    (name : String) : IsAttributeText name (attributeText name p) := by
  refine .inr ?_
  unfold attributeText
  rw [text]
  dsimp only
  split
  next body _ =>
    have sign : "=\x7b" = "=" ++ "\x7b" := rfl
    exact ⟨"\x7b" ++ String.ofList body ++ "\x7d", by rw [sign]; simp only [String.append_assoc]⟩
  · split
    · have sign : "=\x7b() => \x7b " = "=" ++ "\x7b() => \x7b " := rfl
      exact ⟨"\x7b() => \x7b " ++ handlerBody s ++ "; \x7d\x7d", by
        rw [sign]
        simp only [String.append_assoc]⟩
    · have sign : "=\"" = "=" ++ "\"" := rfl
      exact ⟨"\"" ++ escapeAttribute s ++ "\"", by rw [sign]; simp only [String.append_assoc]⟩

/-- A switch that is on is printed as its name. -/
theorem isAttributeText_of_on {p : Property} {name : String} (on : p.value = .switch true)
    (some_ : name ≠ "") : IsAttributeText name (attributeText name p) := by
  refine .inl ⟨?_, some_⟩
  rw [attributeText, on]
  rfl

/-- A style with entries is printed as a literal. -/
theorem isAttributeText_of_style {p : Property} {style : Dict String} (kind : p.kind = .style)
    (value : p.value = .ofStyle style) (some_ : style.isEmpty = false) :
    IsAttributeText "style" (attributeText "style" p) := by
  have entries : (style.entries.map fun e => (e.1, PropertyValue.text e.2)).isEmpty = false := by
    rw [List.isEmpty_map]
    exact some_
  have sign : "style=\x7b" = "style" ++ "=" ++ "\x7b" := rfl
  refine .inr ⟨"\x7b" ++ literal ((texts? (style.entries.map fun e =>
    (e.1, PropertyValue.text e.2))).getD []) ++ "\x7d", ?_⟩
  simp only [attributeText, value, PropertyValue.ofStyle, kind, beq_self_eq_true, if_true, entries,
    Bool.false_eq_true, if_false, sign, String.append_assoc]

/-- Whatever a bag holds that is not left out is printed as an attribute. -/
theorem isAttributeText_printedText {l : List (String × String)} (h : AreLowered l)
    (holds : (bagOf l).Holds name value) (kept : isLeftOut name = false) :
    IsAttributeText (printedName renamesClass name value)
      (printedText renamesClass name value) := by
  obtain ⟨same, -, becomes⟩ := becomes_standardProperty (.ofAttribute value) kept
  rcases holds.shape h with ⟨rfl, css, rfl, some_⟩ | ⟨other, shape⟩
  · cases becomes with
    | style _ kind map =>
      have word : propertyName "style" = "style" := by rw [propertyName, standard_checked.1]; rfl
      have printed : printedName renamesClass "style" (.text css) = "style" := by
        rw [printedName_eq kept, word]
        rfl
      rw [printedText, writeProperty, ← printedName, printed]
      exact isAttributeText_of_style kind map some_
    | kept other => exact absurd rfl other
    | on other => exact absurd rfl other
  · cases becomes with
    | style same => exact absurd same other
    | kept _ _ as =>
      rcases shape with ⟨s, rfl⟩ | ⟨some_, rfl⟩
      · exact isAttributeText_of_text as _
      · exact isAttributeText_of_on as (printedName_ne_empty (holds.lowered h) kept some_)
    | on _ _ some_ as =>
      exact isAttributeText_of_on as (printedName_ne_empty (holds.lowered h) kept some_)

end

/-! ## Elements -/

/-- Without rules of the user the properties of attributes are the standard ones. -/
theorem keptProperties_empty (attributes : List (String × PropertyValue)) :
    keptProperties Dict.empty attributes =
      .ok ((attributes.filter fun e => !isLeftOut e.1).map fun e => standardProperty e.1 e.2) := by
  have each : attributes.mapM (fun e => propertyOf Dict.empty e.1 e.2) =
      (.ok (attributes.map fun e => standardProperty e.1 e.2) : Except Fault (List Property)) := by
    induction attributes with
    | nil => rfl
    | cons e rest ih =>
      rw [List.mapM_cons, ih]
      rfl
  have removed (e : String × PropertyValue) :
      ((standardProperty e.1 e.2).kind != .remove) = !isLeftOut e.1 := by
    cases left : isLeftOut e.1 with
    | true => simp [standardProperty_of_isLeftOut e.2 left]
    | false => simpa using (becomes_standardProperty e.2 left).2.1
  unfold keptProperties
  rw [each]
  show Except.ok _ = _
  rw [List.filter_map]
  exact congrArg (fun p => Except.ok ((attributes.filter p).map _)) (funext removed)

/-- The attributes of an element with names in lower case are printed one after the other: what the
bag holds, each once and without what is left out, each as an attribute under a name of its own. -/
theorem attributes_are_printed_once {t : Markup.Tag}
    (lowered : ∀ e ∈ t.attributes.entries, lower e.1 = e.1) {label : Label}
    (element : label.kind = .element) (bag : label.attributes = ofTag t) (o : SourceOptions) :
    ∃ held : List (String × AttributeValue), held.Nodup ∧
      (∀ e, e ∈ held ↔ (ofTag t).Holds e.1 e.2 ∧ isLeftOut e.1 = false) ∧
      o.attributesOf Dict.empty label =
        join " " (held.map fun e => printedText o.renamesClass e.1 e.2) ∧
      (∀ e ∈ held, IsAttributeText (printedName o.renamesClass e.1 e.2)
        (printedText o.renamesClass e.1 e.2)) ∧
      (held.map fun e => printedName o.renamesClass e.1 e.2).Nodup := by
  have h : AreLowered t.attributes.entries := ⟨lowered, t.attributes.distinct⟩
  rw [ofTag_eq lowered] at bag ⊢
  have member (e : String × AttributeValue) :
      e ∈ (bagOf t.attributes.entries).toMarkup.entries.filter (fun e => !isLeftOut e.1) ↔
        (bagOf t.attributes.entries).Holds e.1 e.2 ∧ isLeftOut e.1 = false := by
    rw [List.mem_filter, ← mem_toMarkup_iff_holds h, Bool.not_eq_true']
  -- A bag is written with distinct names, and no two of them are printed alike.
  have distinct : (((bagOf t.attributes.entries).toMarkup.entries.filter
      fun e => !isLeftOut e.1).map Prod.fst).Nodup :=
    (bagOf t.attributes.entries).toMarkup.distinct.sublist (List.filter_sublist.map Prod.fst)
  have printed : ∀ e ∈ (bagOf t.attributes.entries).toMarkup.entries.filter
      (fun e => !isLeftOut e.1), IsAttributeText (printedName o.renamesClass e.1 e.2)
        (printedText o.renamesClass e.1 e.2) := fun e he =>
    isAttributeText_printedText h ((member e).1 he).1 ((member e).1 he).2
  refine ⟨_, List.Nodup.of_map Prod.fst distinct, member, ?_, printed, ?_⟩
  · have properties := keptProperties_empty
      ((bagOf t.attributes.entries).toMarkup.entries.map fun e => (e.1, .ofAttribute e.2))
    rw [List.filter_map, List.map_map] at properties
    have isElement : (Node.mk label []).isElement = true := by
      rw [Node.isElement, beq_iff_eq]
      exact element
    have attributes : (Node.mk label []).attributes = bagOf t.attributes.entries := bag
    rw [SourceOptions.attributesOf, SourceOptions.propertiesOf, if_pos isElement, attributes,
      properties]
    show writeProperties _ _ = _
    rw [writeProperties, List.map_map, List.filter_eq_self.2]
    · rfl
    · intro text htext
      obtain ⟨e, he, rfl⟩ := List.mem_map.1 htext
      exact bne_iff_ne.2 (printed e he).ne_empty
  · refine List.Nodup.map_on (fun e he f hf same => ?_) (List.Nodup.of_map Prod.fst distinct)
    obtain ⟨holds, kept⟩ := (member e).1 he
    obtain ⟨holds', kept'⟩ := (member f).1 hf
    exact List.inj_on_of_nodup_map distinct he hf
      (printedName_inj (holds.lowered h) (holds'.lowered h) kept kept' same)

/-- A label with a class, names with two spellings, and something that is left out. -/
def spelledTag : Markup.Tag :=
  ⟨"label", Dict.ofList [("class", "wide"), ("for", "name"), ("data-reactid", "3"),
    ("ondblclick", "go()"), ("readonly", "readonly"), ("style", "color: red"), ("title", "")]⟩

/-- The tag with names spelled in several ways is printed once each. -/
theorem attributes_are_printed_once_spelledTag :
    ∃ held : List (String × AttributeValue), held.Nodup ∧
      (∀ e, e ∈ held ↔ (ofTag spelledTag).Holds e.1 e.2 ∧ isLeftOut e.1 = false) ∧
      (held.map fun e => printedName false e.1 e.2).Nodup := by
  have lowered : ∀ e ∈ spelledTag.attributes.entries, lower e.1 = e.1 := by decide +kernel
  let label : Label := { id := "n1", kind := .element, attributes := ofTag spelledTag }
  obtain ⟨held, distinct, member, -, -, names⟩ := attributes_are_printed_once lowered
    (rfl : label.kind = .element) rfl { renamesClass := false }
  exact ⟨held, distinct, member, names⟩

end Jsx
end Componentry
