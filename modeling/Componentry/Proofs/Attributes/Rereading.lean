import Componentry.Attributes.Extract
import Componentry.Proofs.Attributes.Style
import Componentry.Proofs.Markup.Building
import Componentry.Proofs.Markup.Scanning

/-!
# Bags read back

The name of an attribute says which part of a bag it goes to. What is written for a part goes to
that part again and says the same there: the table of component names leads back to the markup
names, a switch that is on stays on, and words that were tidied stay as they are. Only an empty
class, which is not written, and a style with names that are not ASCII can be lost.
-/

set_option autoImplicit false

namespace Componentry.Attributes
open Componentry.Text Componentry.Markup Componentry.Markup.Builder

/-! ## Parts -/

/-- The parts of a bag. -/
inductive Part where
  | event
  | style
  | className
  | plain
deriving DecidableEq

/-- The part that an attribute goes to. -/
def partOf (name : String) : Part :=
  if isEventName name then .event
  else if name == "style" then .style
  else if name == "class" then .className
  else .plain

/-- The name that a plain attribute is kept under. -/
def keyOf (name : String) : String := (componentName? name).getD name

/-- The value that a plain attribute is kept with. -/
def kept (name value : String) : AttributeValue :=
  if switches.contains name && (value == "" || value == name) then .switch true else .text value

/-- No name of the table starts like those that are passed through. -/
theorem keyOf_of_isPassedThrough {name : String} (h : isPassedThrough name = true) :
    keyOf name = name := by
  have each : ∀ e ∈ componentNames, isPassedThrough e.1 = false := by decide
  cases found : componentName? name with
  | none => rw [keyOf, found, Option.getD_none]
  | some key =>
    obtain ⟨before, after, whole, -⟩ := List.lookup_eq_some_iff.1 found
    have mem : (name, key) ∈ componentNames := by
      rw [whole]
      simp
    rw [each _ mem] at h
    cases h

/-- Sorting an attribute with a name in lower case changes the part that the name says. -/
theorem sort_eq {name : String} (lowered : lower name = name) (a : Attributes) (value : String) :
    a.sort name value = match partOf name with
      | .event => { a with events := a.events ++ [⟨name, value⟩] }
      | .style => { a with style := some (Style.parse value) }
      | .className => { a with className := some value }
      | .plain => { a with plain := a.plain.put (keyOf name) (kept name value) } := by
  unfold sort partOf
  rw [lowered]
  dsimp only
  split_ifs with event style className isSwitch on passed
  · rfl
  · rfl
  · rfl
  · rw [kept, isSwitch, Bool.true_and, if_pos on]
    rfl
  · rw [kept, isSwitch, Bool.true_and, if_neg on]
    rfl
  · rw [kept, Bool.eq_false_iff.2 isSwitch, Bool.false_and, if_neg Bool.false_ne_true,
      keyOf_of_isPassedThrough passed]
  · rw [kept, Bool.eq_false_iff.2 isSwitch, Bool.false_and, if_neg Bool.false_ne_true]
    rfl

/-- The attributes that go to a part. -/
def ofPart (p : Part) (l : List (String × String)) : List (String × String) :=
  l.filter fun e => partOf e.1 == p

/-- Whether the first attribute goes to a part is told by its name. -/
theorem ofPart_cons (p : Part) (e : String × String) (l : List (String × String)) :
    ofPart p (e :: l) = if partOf e.1 = p then e :: ofPart p l else ofPart p l := by
  rw [ofPart, List.filter_cons]
  simp only [beq_iff_eq]
  rfl

/-- The last one counts. -/
theorem getLast?_cons_or {α : Type} {f : String × String → α} (e : String × String)
    (l : List (String × String)) (old : Option α) :
    ((e :: l).getLast?.map f).or old = (l.getLast?.map f).or (some (f e)) := by
  rw [List.getLast?_cons]
  cases l.getLast? <;> rfl

/-- The attributes of a list are sorted part by part. -/
theorem foldl_sort : ∀ {l : List (String × String)}, (∀ e ∈ l, lower e.1 = e.1) →
    ∀ a : Attributes, l.foldl (fun a e => a.sort e.1 e.2) a =
      { a with
        plain := a.plain.putAll ((ofPart .plain l).map fun e => (keyOf e.1, kept e.1 e.2))
        style := ((ofPart .style l).getLast?.map fun e => Style.parse e.2).or a.style
        className := ((ofPart .className l).getLast?.map Prod.snd).or a.className
        events := a.events ++ (ofPart .event l).map fun e => ⟨e.1, e.2⟩ }
  | [], _, a => by
    show a = { a with events := a.events ++ [] }
    rw [List.append_nil]
  | e :: l, lowered, a => by
    have first := lowered e List.mem_cons_self
    rw [List.foldl_cons, foldl_sort (fun f hf => lowered f (List.mem_cons_of_mem e hf)),
      sort_eq first, ofPart_cons, ofPart_cons, ofPart_cons, ofPart_cons]
    cases partOf e.1 with
    | event => simp
    | style => simp [getLast?_cons_or]
    | className => simp [getLast?_cons_or]
    | plain => simp [Dict.putAll]

/-- The bag of a list of attributes, part by part. -/
def bagOf (l : List (String × String)) : Attributes where
  plain := Dict.ofList ((ofPart .plain l).map fun e => (keyOf e.1, kept e.1 e.2))
  style := (ofPart .style l).getLast?.map fun e => Style.parse e.2
  className := (ofPart .className l).getLast?.map Prod.snd
  events := (ofPart .event l).map fun e => ⟨e.1, e.2⟩

/-- The bag of a tag whose names are in lower case, part by part. -/
theorem ofTag_eq {t : Tag} (lowered : ∀ e ∈ t.attributes.entries, lower e.1 = e.1) :
    ofTag t = bagOf t.attributes.entries := by
  rw [ofTag, foldl_sort lowered, bagOf, Option.or_none, Option.or_none]
  rfl

/-! ## Attributes of an element -/

/-- Names in lower case, each once. -/
structure AreLowered (l : List (String × String)) : Prop where
  lowered : ∀ e ∈ l, lower e.1 = e.1
  distinct : (l.map Prod.fst).Nodup

/-- The words of a value that is a list of words stand with single spaces between them. -/
def IsTidyValue (element name value : String) : Prop :=
  isWordList element name = true → join " " (words value) = value

/-- Attributes as an element has them: names of attributes, each once, and tidy values. -/
structure AreAttributes (element : String) (l : List (String × String)) : Prop where
  named : ∀ e ∈ l, isAttributeName e.1 = true
  tidy : ∀ e ∈ l, IsTidyValue element e.1 e.2
  distinct : (l.map Prod.fst).Nodup

section
variable {element : String} {l : List (String × String)}

/-- An element keeps the last value under each name, lists of words with single spaces. -/
theorem entries_attributesOf (written : List (String × String)) :
    (attributesOf element written).entries = (Dict.ofList written).entries.map fun e =>
      (e.1, if isWordList element e.1 then join " " (words e.2) else e.2) :=
  rfl

/-- The attributes of an element that is written with names of attributes. -/
theorem areAttributes_attributesOf (element : String) {written : List (String × String)}
    (named : ∀ e ∈ written, isAttributeName e.1 = true) :
    AreAttributes element (attributesOf element written).entries where
  named e he := by
    rw [entries_attributesOf] at he
    obtain ⟨f, hf, rfl⟩ := List.mem_map.1 he
    exact named f (Dict.mem_of_mem_ofList hf)
  tidy e he := by
    rw [entries_attributesOf] at he
    obtain ⟨f, -, rfl⟩ := List.mem_map.1 he
    intro list
    dsimp only at list ⊢
    rw [if_pos list, words_join fun s hs => isWord_of_mem_words hs]
  distinct := (attributesOf element written).distinct

/-- Attributes as an element has them are its attributes when they are written for it. -/
theorem AreAttributes.entries_eq (h : AreAttributes element l) :
    (attributesOf element l).entries = l := by
  rw [entries_attributesOf, Dict.entries_ofList h.distinct]
  refine (List.map_congr_left fun e he => ?_).trans (List.map_id _)
  have tidy := h.tidy e he
  by_cases list : isWordList element e.1 = true
  · rw [if_pos list, tidy list]
    rfl
  · rw [if_neg list]
    rfl

/-- Names of attributes are in lower case. -/
theorem AreAttributes.areLowered (h : AreAttributes element l) : AreLowered l where
  lowered e he := by
    have lowered := lower_ofList_of_isNameLetter (isNameLetter_of_isAttributeName (h.named e he))
    rwa [String.ofList_toList] at lowered
  distinct := h.distinct

/-- The bag of an element with these attributes, part by part. -/
theorem AreAttributes.ofTag_eq (h : AreAttributes element l) :
    ofTag (tagOf element l) = bagOf l := by
  have entries : (tagOf element l).attributes.entries = l := h.entries_eq
  rw [Attributes.ofTag_eq (by rw [entries]; exact h.areLowered.lowered), entries]

end

/-! ## Parts that are written -/

/-- The attributes that are read for those that are written. -/
def reread (l : List (String × AttributeValue)) : List (String × String) :=
  l.map fun e => (e.1, readValue e.2)

/-- Attributes that are written for parts of a bag. -/
structure IsWritten (ps : List Part) (l : List (String × AttributeValue)) : Prop where
  part : ∀ e ∈ l, partOf e.1 ∈ ps
  attributes : AreLowered (reread l)

section
variable {element : String} {p : Part} {ps qs : List Part} {l : List (String × String)}

/-- Where nothing is written nothing is read. -/
theorem isWritten_nil : IsWritten ps [] where
  part _ he := absurd he List.not_mem_nil
  attributes := ⟨fun _ he => absurd he List.not_mem_nil, List.nodup_nil⟩

/-- One text, written under a name in lower case, is written for the part of that name. -/
theorem isWritten_singleton {name value : String} (part : partOf name = p)
    (lowered : lower name = name) : IsWritten [p] [(name, .text value)] where
  part e he := by
    rw [List.mem_singleton.1 he, List.mem_singleton]
    exact part
  attributes := by
    refine ⟨fun e he => ?_, List.nodup_singleton name⟩
    rw [List.mem_singleton.1 he]
    exact lowered

/-- The attributes of a part are those whose name goes there. -/
theorem mem_ofPart {e : String × String} : e ∈ ofPart p l ↔ e ∈ l ∧ partOf e.1 = p := by
  rw [ofPart, List.mem_filter, beq_iff_eq]

/-- The attributes of one part are in lower case and distinct too. -/
theorem AreLowered.ofPart (h : AreLowered l) (p : Part) : AreLowered (ofPart p l) where
  lowered e he := h.lowered e (mem_ofPart.1 he).1
  distinct := h.distinct.sublist (List.filter_sublist.map Prod.fst)

/-- Only one name goes to the part of classes. -/
theorem eq_class_of_partOf {name : String} (h : partOf name = .className) : name = "class" := by
  unfold partOf at h
  split_ifs at h with _ _ same
  exact beq_iff_eq.1 same

/-- The class of a bag is one of its attributes. -/
theorem exists_class {value : String} (h : (bagOf l).className = some value) :
    ("class", value) ∈ l := by
  obtain ⟨e, last, rfl⟩ := Option.map_eq_some_iff.1 h
  obtain ⟨mem, part⟩ := mem_ofPart.1 (List.mem_of_mem_getLast? last)
  rwa [← eq_class_of_partOf part]

/-- What is written for the classes goes to the classes. -/
theorem isWritten_classEntries (l : List (String × String)) :
    IsWritten [.className] (bagOf l).classEntries := by
  unfold classEntries
  split
  · split
    · exact isWritten_nil
    · exact isWritten_singleton (by decide) (by decide)
  · exact isWritten_nil

/-- What is written for the style goes to the style. -/
theorem isWritten_styleEntries (l : List (String × String)) :
    IsWritten [.style] (bagOf l).styleEntries := by
  unfold styleEntries
  split
  · split
    · exact isWritten_nil
    · exact isWritten_singleton (by decide) (by decide)
  · exact isWritten_nil

/-- The events are read as they were. -/
theorem reread_eventEntries : reread (bagOf l).eventEntries = ofPart .event l := by
  rw [reread, eventEntries, bagOf, List.map_map, List.map_map]
  exact (List.map_congr_left fun e _ => rfl).trans (List.map_id _)

/-- What was written is read under its name. -/
theorem mem_reread {m : List (String × AttributeValue)} {e : String × AttributeValue}
    (h : e ∈ m) : (e.1, readValue e.2) ∈ reread m :=
  List.mem_map_of_mem (f := fun e : String × AttributeValue => (e.1, readValue e.2)) h

/-- What is written for the events goes to the events. -/
theorem isWritten_eventEntries (h : AreLowered l) :
    IsWritten [.event] (bagOf l).eventEntries where
  part e he := by
    have mem := mem_reread he
    rw [reread_eventEntries] at mem
    exact List.mem_singleton.2 (mem_ofPart.1 mem).2
  attributes := by
    rw [reread_eventEntries]
    exact h.ofPart .event

/-! ## Plain attributes -/

/-- The table leads back from the name that an attribute is kept under. -/
theorem markupName?_keyOf {name : String} (lowered : lower name = name) :
    (markupName? (keyOf name)).getD (keyOf name) = name := by
  have back : ∀ e ∈ componentNames, markupName? e.2 = some e.1 := by decide +kernel
  -- every component name holds a capital
  have other : ∀ e ∈ componentNames, lower e.2 ≠ e.2 := by decide +kernel
  cases found : componentName? name with
  | some key =>
    obtain ⟨before, after, whole, -⟩ := List.lookup_eq_some_iff.1 found
    have mem : (name, key) ∈ componentNames := by
      rw [whole]
      simp
    rw [keyOf, found, Option.getD_some, back _ mem, Option.getD_some]
  | none =>
    have missing : markupName? name = none := by
      rw [markupName?, Option.map_eq_none_iff, List.find?_eq_none]
      intro e he same
      exact other e he (by rw [beq_iff_eq.1 same, lowered])
    rw [keyOf, found, Option.getD_none, missing, Option.getD_none]

/-- An attribute is kept as a switch that is on, as it is without a value, or with its value. -/
theorem kept_cases (name value : String) :
    (kept name value = .switch true ∧ kept name "" = .switch true) ∨
      kept name value = .text value := by
  by_cases on : (switches.contains name && (value == "" || value == name)) = true
  · have empty : (switches.contains name && ("" == "" || "" == name)) = true := by
      rw [(Bool.and_eq_true_iff.1 on).1]
      rfl
    exact .inl ⟨if_pos on, if_pos empty⟩
  · exact .inr (if_neg on)

/-- What is read for the value that is kept is kept again. -/
theorem kept_readValue (name value : String) :
    kept name (readValue (kept name value)) = kept name value := by
  rcases kept_cases name value with ⟨on, empty⟩ | text
  · rw [on]
    exact empty
  · rw [text]
    exact text

/-- A plain attribute comes from one of the attributes. -/
theorem exists_plain {e : String × AttributeValue} (h : e ∈ (bagOf l).plain.entries) :
    ∃ f ∈ l, partOf f.1 = .plain ∧ e = (keyOf f.1, kept f.1 f.2) := by
  obtain ⟨f, hf, rfl⟩ := List.mem_map.1 (Dict.mem_of_mem_ofList h)
  obtain ⟨mem, part⟩ := mem_ofPart.1 hf
  exact ⟨f, mem, part, rfl⟩

/-- No plain attribute is a switch that is off. -/
theorem plainEntries_bagOf : (bagOf l).plainEntries =
    (bagOf l).plain.entries.map fun e => ((markupName? e.1).getD e.1, e.2) := by
  have every : ∀ e ∈ (bagOf l).plain.entries, (e.2 != .switch false) = true := by
    intro e he
    obtain ⟨f, -, -, rfl⟩ := exists_plain he
    rcases kept_cases f.1 f.2 with ⟨on, -⟩ | text
    · dsimp only
      rw [on]
      decide
    · dsimp only
      rw [text]
      rfl
  rw [plainEntries, List.filter_eq_self.2 every]

/-- Where a plain attribute is written, it is read as what it was before or as a switch. -/
theorem exists_reread {e : String × AttributeValue} (h : AreLowered l)
    (he : e ∈ (bagOf l).plainEntries) : ∃ f ∈ l, partOf f.1 = .plain ∧ e.1 = f.1 ∧
      (readValue e.2 = "" ∨ readValue e.2 = f.2) := by
  rw [plainEntries_bagOf] at he
  obtain ⟨d, hd, rfl⟩ := List.mem_map.1 he
  obtain ⟨f, hf, part, rfl⟩ := exists_plain hd
  refine ⟨f, hf, part, markupName?_keyOf (h.lowered f hf), ?_⟩
  rcases kept_cases f.1 f.2 with ⟨on, -⟩ | text
  · exact .inl (by rw [on, readValue])
  · exact .inr (by rw [text, readValue])

/-- What is read for the plain attributes that are written is kept as they were. -/
theorem map_kept_reread (h : AreLowered l) :
    (reread (bagOf l).plainEntries).map (fun e => (keyOf e.1, kept e.1 e.2)) =
      (bagOf l).plain.entries := by
  rw [plainEntries_bagOf, reread, List.map_map, List.map_map]
  refine (List.map_congr_left fun e he => ?_).trans (List.map_id _)
  obtain ⟨f, hf, -, rfl⟩ := exists_plain he
  simp only [Function.comp, markupName?_keyOf (h.lowered f hf), kept_readValue, id]

/-- What is written for the plain attributes goes to the plain ones. -/
theorem isWritten_plainEntries (h : AreLowered l) :
    IsWritten [.plain] (bagOf l).plainEntries where
  part e he := by
    obtain ⟨f, -, part, same, -⟩ := exists_reread h he
    rw [same, List.mem_singleton]
    exact part
  attributes := by
    have names : ((reread (bagOf l).plainEntries).map Prod.fst).map keyOf =
        (bagOf l).plain.entries.map Prod.fst := by
      rw [← map_kept_reread h, List.map_map, List.map_map]
      rfl
    refine ⟨fun e he => ?_, List.Nodup.of_map keyOf ?_⟩
    · obtain ⟨d, hd, rfl⟩ := List.mem_map.1 he
      obtain ⟨f, hf, -, same, -⟩ := exists_reread h hd
      exact same ▸ h.lowered f hf
    · rw [names]
      exact (bagOf l).plain.distinct

/-! ## Bags that are written -/

/-- What is written in a row is read in a row. -/
theorem reread_append (l m : List (String × AttributeValue)) :
    reread (l ++ m) = reread l ++ reread m :=
  List.map_append

/-- What is written for different parts has different names. -/
theorem IsWritten.append {m k : List (String × AttributeValue)} (hm : IsWritten ps m)
    (hk : IsWritten qs k) (other : ∀ p ∈ ps, p ∉ qs) : IsWritten (ps ++ qs) (m ++ k) where
  part e he := by
    rw [List.mem_append] at he ⊢
    exact he.imp (hm.part e) (hk.part e)
  attributes := by
    rw [reread_append]
    refine ⟨fun e he => ?_, ?_⟩
    · exact (List.mem_append.1 he).elim (hm.attributes.lowered e) (hk.attributes.lowered e)
    · rw [List.map_append, List.nodup_append]
      refine ⟨hm.attributes.distinct, hk.attributes.distinct, fun name hn name' hn' same => ?_⟩
      rw [reread, List.map_map, List.mem_map] at hn hn'
      obtain ⟨e, he, rfl⟩ := hn
      obtain ⟨f, hf, rfl⟩ := hn'
      have part := hm.part e he
      have names : e.1 = f.1 := same
      rw [names] at part
      exact other _ part (hk.part f hf)

/-- All that is written for a bag. -/
theorem isWritten_toMarkup (h : AreLowered l) :
    (bagOf l).toMarkup.entries = (bagOf l).classEntries ++ (bagOf l).plainEntries ++
      (bagOf l).styleEntries ++ (bagOf l).eventEntries ∧
    AreLowered (reread (bagOf l).toMarkup.entries) := by
  have written := (((isWritten_classEntries l).append (isWritten_plainEntries h)
    (by decide)).append (isWritten_styleEntries l) (by decide)).append
      (isWritten_eventEntries h) (by decide)
  have names := written.attributes.distinct
  rw [reread, List.map_map] at names
  have entries := Dict.entries_ofList names
  exact ⟨entries, by rw [toMarkup, entries]; exact written.attributes⟩

/-- Apart from the style, what is written is read as one of the attributes or as a switch. -/
theorem exists_of_mem_toMarkup {e : String × AttributeValue} (h : AreLowered l)
    (he : e ∈ (bagOf l).toMarkup.entries) : e.1 = "style" ∨
      ∃ f ∈ l, e.1 = f.1 ∧ (readValue e.2 = "" ∨ readValue e.2 = f.2) := by
  rw [(isWritten_toMarkup h).1, List.mem_append, List.mem_append, List.mem_append] at he
  -- What is written falls into four runs, one for each part of the bag.
  rcases he with ((isClass | isPlain) | isStyle) | isEvent
  · unfold classEntries at isClass
    split at isClass
    next value found =>
      split at isClass
      · cases isClass
      · rw [List.mem_singleton.1 isClass]
        exact .inr ⟨_, exists_class found, rfl, .inr rfl⟩
    · cases isClass
  · obtain ⟨f, hf, -, same, read⟩ := exists_reread h isPlain
    exact .inr ⟨f, hf, same, read⟩
  · unfold styleEntries at isStyle
    split at isStyle
    · split at isStyle
      · cases isStyle
      · rw [List.mem_singleton.1 isStyle]
        exact .inl rfl
    · cases isStyle
  · have mem := mem_reread isEvent
    rw [reread_eventEntries] at mem
    exact .inr ⟨_, (mem_ofPart.1 mem).1, rfl, .inr rfl⟩

/-- What is written for the bag of an element's attributes is read as attributes of the element. -/
theorem areAttributes_reread (h : AreAttributes element l) :
    AreAttributes element (reread (bagOf l).toMarkup.entries) where
  named d hd := by
    obtain ⟨e, he, rfl⟩ := List.mem_map.1 hd
    rcases exists_of_mem_toMarkup h.areLowered he with same | ⟨f, hf, same, -⟩
    · rw [same]
      decide
    · rw [same]
      exact h.named f hf
  tidy d hd := by
    obtain ⟨e, he, rfl⟩ := List.mem_map.1 hd
    rcases exists_of_mem_toMarkup h.areLowered he with same | ⟨f, hf, same, read⟩ <;>
      dsimp only <;> rw [same]
    · intro list
      have plain : isWordList element "style" = false := rfl
      rw [plain] at list
      cases list
    · rcases read with read | read <;> rw [read]
      · exact fun _ => rfl
      · exact h.tidy f hf
  distinct := (isWritten_toMarkup h.areLowered).2.distinct

/-- The attributes of a part among two lists are those of the one, then those of the other. -/
theorem ofPart_append (p : Part) (l m : List (String × String)) :
    ofPart p (l ++ m) = ofPart p l ++ ofPart p m :=
  List.filter_append l m

/-- What was written for one part is read back into that part and into no other. -/
theorem IsWritten.ofPart {m : List (String × AttributeValue)} {q : Part}
    (h : IsWritten [q] m) (p : Part) :
    Attributes.ofPart p (reread m) = if q = p then reread m else [] := by
  have part : ∀ e ∈ reread m, partOf e.1 = q := by
    intro e he
    obtain ⟨d, hd, rfl⟩ := List.mem_map.1 he
    exact List.mem_singleton.1 (h.part d hd)
  split
  next same =>
    exact List.filter_eq_self.2 fun e he => beq_iff_eq.2 ((part e he).trans same)
  next other =>
    refine List.filter_eq_nil_iff.2 fun e he same => other ?_
    exact (part e he).symm.trans (beq_iff_eq.1 same)

/-- What is read for a bag that was written is read part by part. -/
theorem ofPart_reread (h : AreLowered l) (p : Part) :
    Attributes.ofPart p (reread (bagOf l).toMarkup.entries) = match p with
      | .className => reread (bagOf l).classEntries
      | .plain => reread (bagOf l).plainEntries
      | .style => reread (bagOf l).styleEntries
      | .event => reread (bagOf l).eventEntries := by
  rw [(isWritten_toMarkup h).1, reread_append, reread_append, reread_append, ofPart_append,
    ofPart_append, ofPart_append, (isWritten_classEntries l).ofPart,
    (isWritten_plainEntries h).ofPart, (isWritten_styleEntries l).ofPart,
    (isWritten_eventEntries h).ofPart]
  cases p <;> simp

/-- The plain attributes are read back. -/
theorem plain_reread (h : AreLowered l) :
    (bagOf (reread (bagOf l).toMarkup.entries)).plain = (bagOf l).plain := by
  show Dict.ofList ((Attributes.ofPart .plain _).map _) = _
  rw [ofPart_reread h, map_kept_reread h]
  exact Dict.ext_entries (Dict.entries_ofList (bagOf l).plain.distinct)

/-- The handlers are read back. -/
theorem events_reread (h : AreLowered l) :
    (bagOf (reread (bagOf l).toMarkup.entries)).events = (bagOf l).events := by
  show (Attributes.ofPart .event _).map _ = _
  rw [ofPart_reread h, reread_eventEntries]
  rfl

/-- A class that is not empty is read back. -/
theorem className_reread (h : AreLowered l) :
    (bagOf (reread (bagOf l).toMarkup.entries)).className =
      (bagOf l).className.filter fun c => !c.isEmpty := by
  show (Attributes.ofPart .className _).getLast?.map Prod.snd = _
  rw [ofPart_reread h]
  cases found : (bagOf l).className with
  | none => simp [classEntries, found, reread]
  | some c =>
    cases empty : c.isEmpty <;>
      simp [classEntries, found, empty, reread, readValue, Option.filter]

/-- A style that is not empty is read back, if its names are ASCII. -/
theorem style_reread (h : AreLowered l)
    (ascii : ∀ k ∈ (bagOf l).styleOrNone.keys, Style.IsAscii k) :
    (bagOf (reread (bagOf l).toMarkup.entries)).style =
      (bagOf l).style.filter fun s => !s.isEmpty := by
  show (Attributes.ofPart .style _).getLast?.map _ = _
  rw [ofPart_reread h]
  rw [styleOrNone] at ascii
  cases found : (bagOf l).style with
  | none => simp [styleEntries, found, reread]
  | some style =>
    rw [found, Option.getD_some] at ascii
    obtain ⟨e, -, parsed⟩ := Option.map_eq_some_iff.1 found
    have back : Style.parse (Style.write style) = style := by
      subst parsed
      exact Style.parse_write_parse ascii
    cases empty : style.isEmpty <;>
      simp [styleEntries, found, empty, reread, readValue, back, Option.filter]

/-- What is written for a bag is written again for the bag that is read for it. -/
theorem toMarkup_reread (h : AreLowered l)
    (ascii : ∀ k ∈ (bagOf l).styleOrNone.keys, Style.IsAscii k) :
    (bagOf (reread (bagOf l).toMarkup.entries)).toMarkup = (bagOf l).toMarkup := by
  have classes : (bagOf (reread (bagOf l).toMarkup.entries)).classEntries =
      (bagOf l).classEntries := by
    rw [classEntries, className_reread h, classEntries]
    cases (bagOf l).className with
    | none => rfl
    | some c => cases empty : c.isEmpty <;> simp [empty, Option.filter]
  have styles : (bagOf (reread (bagOf l).toMarkup.entries)).styleEntries =
      (bagOf l).styleEntries := by
    rw [styleEntries, style_reread h ascii, styleEntries]
    cases (bagOf l).style with
    | none => rfl
    | some style => cases empty : style.isEmpty <;> simp [empty, Option.filter]
  rw [toMarkup, classes, styles, plainEntries, plain_reread h, eventEntries, events_reread h]
  rfl

/-- A class that is not blank is read back, and so is one that is absent. -/
theorem className_reread_of_filled (h : AreLowered l)
    (filled : ∀ c ∈ (bagOf l).className, isBlankText c = false) :
    (bagOf (reread (bagOf l).toMarkup.entries)).className = (bagOf l).className := by
  rw [className_reread h]
  cases found : (bagOf l).className with
  | none => rfl
  | some c =>
    have some_ : c.isEmpty = false := by
      have := filled c found
      rw [← Bool.not_eq_true, String.isEmpty_iff]
      rintro rfl
      cases this
    simp [Option.filter, some_]

/-- A style with ASCII names is read back, and so is one that is absent or empty. -/
theorem styleOrNone_reread (h : AreLowered l)
    (ascii : ∀ k ∈ (bagOf l).styleOrNone.keys, Style.IsAscii k) :
    (bagOf (reread (bagOf l).toMarkup.entries)).styleOrNone = (bagOf l).styleOrNone := by
  rw [styleOrNone, style_reread h ascii, styleOrNone]
  cases (bagOf l).style with
  | none => rfl
  | some style =>
    cases empty : style.isEmpty with
    | false => simp [Option.filter, empty]
    | true =>
      have none_ : Dict.empty = style := (Dict.ext_entries (List.isEmpty_iff.1 empty)).symm
      simp [Option.filter, empty, none_]

/-- Bags with the same parts say the same. -/
theorem agrees_of_eq {a b : Attributes} (plain : a.plain = b.plain)
    (className : a.className = b.className) (style : a.styleOrNone = b.styleOrNone)
    (events : a.events = b.events) : a.agrees b = true := by
  rw [agrees, plain, className, style, events, Dict.beq_self, Dict.beq_self, beq_self_eq_true,
    beq_self_eq_true]
  rfl

/-- The attributes that are written for a bag are read as a bag that says the same, if its class is
absent or not blank and the names of its style are ASCII. -/
theorem agrees_bagOf_reread (h : AreLowered l)
    (filled : ∀ c ∈ (bagOf l).className, isBlankText c = false)
    (ascii : ∀ k ∈ (bagOf l).styleOrNone.keys, Style.IsAscii k) :
    (bagOf l).agrees (bagOf (reread (bagOf l).toMarkup.entries)) = true ∧
      (bagOf (reread (bagOf l).toMarkup.entries)).agrees (bagOf l) = true := by
  have className := className_reread_of_filled h filled
  have style := styleOrNone_reread h ascii
  exact ⟨agrees_of_eq (plain_reread h).symm className.symm style.symm (events_reread h).symm,
    agrees_of_eq (plain_reread h) className style (events_reread h)⟩

/-- The class of a bag is the value of the attribute of that name. -/
theorem className_bagOf (distinct : (l.map Prod.fst).Nodup) :
    (bagOf l).className = l.lookup "class" := by
  cases found : l.lookup "class" with
  | none =>
    cases have_ : (bagOf l).className with
    | none => rfl
    | some value =>
      rw [(Dict.lookup_eq_some_iff_mem distinct).2 (exists_class have_)] at found
      cases found
  | some value =>
    have part : partOf "class" = .className := by decide
    have mem : ("class", value) ∈ ofPart .className l :=
      mem_ofPart.2 ⟨(Dict.lookup_eq_some_iff_mem distinct).1 found, part⟩
    obtain ⟨last, is_last⟩ := Option.isSome_iff_exists.1
      (List.getLast?_isSome.2 (List.ne_nil_of_mem mem))
    obtain ⟨inside, part⟩ := mem_ofPart.1 (List.mem_of_mem_getLast? is_last)
    have read : (last.1, last.2) ∈ l := inside
    rw [eq_class_of_partOf part, ← Dict.lookup_eq_some_iff_mem distinct, found] at read
    show (ofPart .className l).getLast?.map Prod.snd = _
    rw [is_last, Option.map_some, Option.some.inj read]

/-- No plain attribute is kept under a name of the class. -/
theorem ne_class_of_mem_plain (h : AreLowered l) {k : String} (hk : k ∈ (bagOf l).plain.keys) :
    k ≠ "class" ∧ k ≠ "className" := by
  obtain ⟨e, he, rfl⟩ := List.mem_map.1 hk
  obtain ⟨f, hf, part, rfl⟩ := exists_plain he
  have back := markupName?_keyOf (h.lowered f hf)
  have other : f.1 ≠ "class" := fun same => by
    rw [same] at part
    revert part
    decide
  constructor <;> intro same <;> dsimp only at same <;> rw [same] at back <;>
    exact other (back.symm.trans (by decide))

end

/-! ## Elements that are written and read -/

/-- The element that is read where the bag of an element is written: a switch that is on has no
value there. -/
def rewritten (t : Tag) : Tag := ⟨t.name, (ofTag t).toMarkup.mapValues readValue⟩

/-- The bag of an element with names in lower case, written and read, is written as it was. It says
what it said if the class of the element is absent or not blank. Only a style with names that are
not ASCII may change. No plain attribute of a bag has a name of the class. -/
theorem ofTag_rewritten {t : Tag} (lowered : ∀ e ∈ t.attributes.entries, lower e.1 = e.1) :
    ((∀ k ∈ (ofTag t).styleOrNone.keys, Style.IsAscii k) →
      (ofTag (rewritten t)).toMarkup = (ofTag t).toMarkup ∧
      ((∀ c ∈ t.value? "class", isBlankText c = false) →
        (ofTag (rewritten t)).agrees (ofTag t) = true)) ∧
    ∀ k ∈ (ofTag t).plain.keys, k ≠ "class" ∧ k ≠ "className" := by
  have h : AreLowered t.attributes.entries := ⟨lowered, t.attributes.distinct⟩
  have read : ofTag (rewritten t) =
      bagOf (reread (bagOf t.attributes.entries).toMarkup.entries) := by
    have entries : (rewritten t).attributes.entries =
        reread (bagOf t.attributes.entries).toMarkup.entries := by
      rw [← ofTag_eq lowered]
      rfl
    rw [← entries]
    exact ofTag_eq (entries ▸ (isWritten_toMarkup h).2.lowered)
  rw [read, ofTag_eq lowered]
  refine ⟨fun ascii => ⟨toMarkup_reread h ascii, fun filled => ?_⟩, fun k hk =>
    ne_class_of_mem_plain h hk⟩
  have class_ : (bagOf t.attributes.entries).className = t.value? "class" :=
    className_bagOf h.distinct
  exact (agrees_bagOf_reread h (class_ ▸ filled) ascii).2

/-- A box with attributes for each part of a bag: an alias, a switch, a name that stays, names of a
style with capitals, a leading dash and two leading dashes, and a handler. -/
def markedTag : Tag :=
  ⟨"input", Dict.ofList [("class", "wide box"), ("readonly", ""), ("disabled", "no"),
    ("tabindex", "1"), ("data-id", "7"), ("style", "Color: red; -webkit-flex:1; --gap : 2px"),
    ("onclick", "go()")]⟩

/-- The tag with a class, a style, a switch and a handler is written as it was read. -/
theorem ofTag_rewritten_markedTag : (ofTag (rewritten markedTag)).toMarkup =
    (ofTag markedTag).toMarkup ∧ (ofTag (rewritten markedTag)).agrees (ofTag markedTag) = true ∧
      ∀ k ∈ (ofTag markedTag).plain.keys, k ≠ "class" ∧ k ≠ "className" := by
  have lowered : ∀ e ∈ markedTag.attributes.entries, lower e.1 = e.1 := by decide +kernel
  have ascii : ∀ k ∈ (ofTag markedTag).styleOrNone.keys, Style.IsAscii k := by decide +kernel
  have named : markedTag.value? "class" = some "wide box" := by decide +kernel
  have filled : ∀ c ∈ markedTag.value? "class", isBlankText c = false := by
    rw [named]
    rintro _ ⟨⟩
    decide +kernel
  obtain ⟨back, plain⟩ := ofTag_rewritten lowered
  exact ⟨(back ascii).1, (back ascii).2 filled, plain⟩

end Componentry.Attributes
