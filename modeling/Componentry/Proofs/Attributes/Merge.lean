import Componentry.Attributes.Merge
import Componentry.Proofs.Dict
import Componentry.Proofs.Text.Pieces
import Mathlib.Data.List.Forall2

/-!
# What a merge comes to

A merge gathers the parts of all bags: its plain attributes and its style entries are those of all
bags in a row, the last value of a key counting in the place of the first, and its class names, its
handlers and its mark are those of all bags. So bags may be merged in groups, where a class that is
not empty has a name in it. A merge in memory comes to the same and leaves the bags as they are.
-/

set_option autoImplicit false

/-! ## Merging values -/

attribute [ext] Componentry.Attributes

namespace Componentry.Attributes
open Componentry.Text

variable {a : Attributes} {bags more : List Attributes}

/-! ### Closed form -/

/-- The plain attributes of bags, in a row. -/
def plainsOf (bags : List Attributes) : List (String × AttributeValue) :=
  bags.flatMap fun a => a.plain.entries

/-- The style entries of bags, in a row. -/
def stylesOf (bags : List Attributes) : List (String × String) :=
  bags.flatMap fun a => a.styleOrNone.entries

/-- A bag has a class that is not empty. -/
def hasClass (a : Attributes) : Bool := a.className.getD "" != ""

/-- The parts of bags, gathered. -/
def gathered (bags : List Attributes) : Attributes where
  plain := Dict.ofList (plainsOf bags)
  style := if (stylesOf bags).isEmpty then none else some (Dict.ofList (stylesOf bags))
  className := if bags.any hasClass then some (join " " (bags.flatMap classes)) else none
  events := bags.flatMap events
  rawMarkup := bags.any rawMarkup

@[simp] theorem words_empty : words "" = [] := rfl

/-- A bag without a class has no class names. -/
theorem classes_of_not_hasClass (h : a.hasClass = false) : a.classes = [] := by
  have empty : a.className.getD "" = "" := by simpa [hasClass] using h
  rw [classes, empty, words_empty]

/-- The names of a class that names were joined to are these. -/
theorem words_join_classes (bags : List Attributes) :
    words (join " " (bags.flatMap classes)) = bags.flatMap classes := by
  refine words_join fun s hs => ?_
  obtain ⟨a, _, mem⟩ := List.mem_flatMap.1 hs
  exact isWord_of_mem_words mem

/-- The class names that were gathered are those of all bags in a row. -/
theorem classes_gathered (bags : List Attributes) :
    (gathered bags).classes = bags.flatMap classes := by
  rw [classes, gathered]
  by_cases named : bags.any hasClass = true
  · rw [if_pos named]
    exact words_join_classes bags
  · rw [if_neg named]
    refine (List.flatMap_eq_nil_iff.2 fun a ha => classes_of_not_hasClass ?_).symm
    rw [Bool.eq_false_iff]
    exact fun here => named (List.any_eq_true.2 ⟨a, ha, here⟩)

/-- The style that was gathered holds the entries of all bags in a row. -/
theorem styleOrNone_gathered (bags : List Attributes) :
    (gathered bags).styleOrNone = Dict.ofList (stylesOf bags) := by
  rw [styleOrNone, gathered]
  cases none : (stylesOf bags).isEmpty with
  | true =>
    rw [List.isEmpty_iff.1 none]
    rfl
  | false => rfl

/-- A style that is not empty goes on with the one before. -/
theorem style_mergeStep (merged a : Attributes) : (mergeStep merged a).style =
    if a.styleOrNone.isEmpty then merged.style
    else some (merged.styleOrNone.putAll a.styleOrNone.entries) := by
  unfold mergeStep styleOrNone
  cases a.style with
  | none => rfl
  | some style => rfl

/-- A class that is not empty goes on with the one before. -/
theorem className_mergeStep (merged a : Attributes) : (mergeStep merged a).className =
    if a.hasClass then some (join " " (merged.classes ++ a.classes)) else merged.className := by
  unfold mergeStep hasClass
  cases a.className with
  | none => rfl
  | some name =>
    by_cases empty : name = ""
    · rw [empty]
      rfl
    · simp [empty]

/-- One more bag is merged into what was gathered. -/
theorem mergeStep_gathered (bags : List Attributes) (a : Attributes) :
    mergeStep (gathered bags) a = gathered (bags ++ [a]) := by
  have entries : stylesOf (bags ++ [a]) = stylesOf bags ++ a.styleOrNone.entries := by
    simp only [stylesOf, List.flatMap_append, List.flatMap_singleton]
  ext1
  · simp only [mergeStep, gathered, plainsOf, List.flatMap_append, List.flatMap_singleton,
      Dict.ofList, Dict.putAll_append]
  -- The style stays absent until an entry comes in.
  · rw [style_mergeStep, styleOrNone_gathered]
    simp only [gathered, entries]
    by_cases none : a.styleOrNone.isEmpty = true
    · rw [if_pos none, List.isEmpty_iff.1 none, List.append_nil]
    · have filled : ¬ (stylesOf bags ++ a.styleOrNone.entries).isEmpty = true := by
        rw [List.isEmpty_iff, List.append_eq_nil_iff]
        exact fun both => none (List.isEmpty_iff.2 both.2)
      rw [if_neg none, if_neg filled, Dict.ofList, Dict.ofList, Dict.putAll_append]
  · rw [className_mergeStep, classes_gathered]
    simp only [gathered, List.any_append, List.any_cons, List.any_nil, Bool.or_false,
      List.flatMap_append, List.flatMap_singleton]
    cases named : a.hasClass with
    | true => rw [if_pos rfl, Bool.or_true, if_pos rfl]
    | false => rw [if_neg Bool.false_ne_true, Bool.or_false, classes_of_not_hasClass named,
        List.append_nil]
  · simp only [mergeStep, gathered, List.flatMap_append, List.flatMap_singleton]
  · simp only [mergeStep, gathered, List.any_append, List.any_cons, List.any_nil, Bool.or_false]

/-- A merge gathers the parts of all bags. -/
theorem merge_eq_gathered (bags : List Attributes) : merge bags = gathered bags := by
  have run (before : List Attributes) :
      bags.foldl mergeStep (gathered before) = gathered (before ++ bags) := by
    induction bags generalizing before with
    | nil => rw [List.foldl_nil, List.append_nil]
    | cons a bags ih =>
      rw [List.foldl_cons, mergeStep_gathered, ih, List.append_assoc, List.singleton_append]
  exact run []

/-! ### Merging in groups -/

/-- A class that is not empty has a name in it. -/
def NamesClasses (a : Attributes) : Prop := a.className.getD "" = "" ∨ a.classes ≠ []

/-- A bag that names classes has a class just when it has a class name. -/
theorem hasClass_iff (h : a.NamesClasses) : a.hasClass = true ↔ a.classes ≠ [] := by
  constructor
  · intro named
    exact h.resolve_left (by simpa [hasClass] using named)
  · intro some_
    rw [← Bool.not_eq_false]
    exact fun none => some_ (classes_of_not_hasClass none)

/-- What was gathered from such bags is such a bag. -/
theorem namesClasses_gathered (h : ∀ a ∈ bags, a.NamesClasses) : (gathered bags).NamesClasses := by
  by_cases named : bags.any hasClass = true
  · obtain ⟨a, ha, here⟩ := List.any_eq_true.1 named
    right
    rw [classes_gathered]
    exact fun none => (hasClass_iff (h a ha)).1 here (List.flatMap_eq_nil_iff.1 none a ha)
  · left
    rw [gathered, if_neg named, Option.getD_none]

/-- What was gathered has a class when one of the bags has. -/
theorem hasClass_gathered (h : ∀ a ∈ bags, a.NamesClasses) :
    (gathered bags).hasClass = bags.any hasClass := by
  rw [Bool.eq_iff_iff, hasClass_iff (namesClasses_gathered h), classes_gathered, Ne,
    List.flatMap_eq_nil_iff, List.any_eq_true]
  constructor
  · intro some_
    by_contra none
    refine some_ fun a ha => classes_of_not_hasClass ?_
    rw [Bool.eq_false_iff]
    exact fun here => none ⟨a, ha, here⟩
  · rintro ⟨a, ha, here⟩ none
    exact (hasClass_iff (h a ha)).1 here (none a ha)

/-- A style is what was gathered, unless that is empty. -/
theorem style_gathered (bags : List Attributes) : (gathered bags).style =
    if (Dict.ofList (stylesOf bags)).isEmpty then none
    else some (Dict.ofList (stylesOf bags)) := by
  rw [gathered, Dict.isEmpty_ofList]

/-- The class that was gathered joins the names of all bags. -/
theorem className_gathered (bags : List Attributes) : (gathered bags).className =
    if bags.any hasClass then some (join " " (bags.flatMap classes)) else none := rfl

/-- Bags may be merged in two groups first. -/
theorem merge_append (h : ∀ a ∈ bags ++ more, a.NamesClasses) :
    merge (bags ++ more) = merge [merge bags, merge more] := by
  have first : ∀ a ∈ bags, a.NamesClasses := fun a ha => h a (List.mem_append_left more ha)
  have second : ∀ a ∈ more, a.NamesClasses := fun a ha => h a (List.mem_append_right bags ha)
  have two {β : Type} (f : Attributes → List β) (a b : Attributes) :
      [a, b].flatMap f = f a ++ f b := by simp
  rw [merge_eq_gathered, merge_eq_gathered, merge_eq_gathered, merge_eq_gathered]
  -- The groups are gathered once more, field by field; only the class depends on its names being
  -- there.
  ext1
  · simp only [gathered, plainsOf, two, Dict.ofList_append_ofList, List.flatMap_append]
  · have entries : Dict.ofList (stylesOf [gathered bags, gathered more]) =
        Dict.ofList (stylesOf (bags ++ more)) := by
      simp only [stylesOf, two, styleOrNone_gathered, Dict.ofList_append_ofList,
        List.flatMap_append]
    rw [style_gathered, style_gathered, entries]
  · have named : [gathered bags, gathered more].any hasClass = (bags ++ more).any hasClass := by
      simp only [List.any_cons, List.any_nil, Bool.or_false, List.any_append,
        hasClass_gathered first, hasClass_gathered second]
    have names : [gathered bags, gathered more].flatMap classes =
        (bags ++ more).flatMap classes := by
      rw [two, classes_gathered, classes_gathered, List.flatMap_append]
    rw [className_gathered, className_gathered, named, names]
  · simp only [gathered, two, List.flatMap_append]
  · simp only [gathered, List.any_cons, List.any_nil, Bool.or_false, List.any_append]

/-! ### The empty bag -/

/-- A bag with the class names set apart by single spaces, in which an empty class and an empty
style are absent. -/
def normal (a : Attributes) : Attributes :=
  { a with
    style := a.style.filter fun style => !style.isEmpty
    className := if a.hasClass then some (join " " a.classes) else none }

/-- One bag, gathered, is that bag in its normal form. -/
theorem gathered_singleton (a : Attributes) : gathered [a] = a.normal := by
  ext1
  · simp only [gathered, plainsOf, List.flatMap_singleton, Dict.ofList_entries, normal]
  · rw [style_gathered]
    simp only [stylesOf, List.flatMap_singleton, Dict.ofList_entries, normal, styleOrNone]
    cases a.style with
    | none => rfl
    | some style => cases empty : style.isEmpty <;> simp [Option.filter, empty]
  · simp only [gathered, normal, List.any_cons, List.any_nil, Bool.or_false,
      List.flatMap_singleton]
  · simp only [gathered, normal, List.flatMap_singleton]
  · simp only [gathered, normal, List.any_cons, List.any_nil, Bool.or_false]

/-- The empty bag adds nothing. -/
theorem merge_empty (a : Attributes) : merge [a, {}] = a.normal ∧ merge [{}, a] = a.normal := by
  rw [merge_eq_gathered, merge_eq_gathered, ← gathered_singleton]
  constructor
  · rfl
  · rfl

/-- A bag is changed at most in the spacing of its class, and in how nothing is shown. -/
theorem normal_says_the_same (a : Attributes) : a.normal.classes = a.classes ∧
    a.normal.styleOrNone = a.styleOrNone := by
  rw [← gathered_singleton, classes_gathered, styleOrNone_gathered]
  simp [stylesOf, Dict.ofList_entries]

end Componentry.Attributes

/-! ## Merging in memory

A merge in memory changes nothing that was there before it: what it changes in place is its own.
What stands in the new bag in the end is the merge of the bags. The bag under construction is
followed from step to step, with all that was there before.
-/

namespace Componentry
open Componentry.Text Attributes

/-! ### Lists that grow -/

section
variable {α : Type} {l m : List α} {n : Nat}

/-- What stands in a list stands there when the list grows at its end. -/
theorem getElem?_mono {x : α} (h : l <+: m) (known : l[n]? = some x) : m[n]? = some x := by
  obtain ⟨rest, rfl⟩ := h
  obtain ⟨bound, _⟩ := List.getElem?_eq_some_iff.1 known
  rw [List.getElem?_append_left bound, known]

/-- What is changed behind the start of a list leaves the start as it is. -/
theorem prefix_modify (h : l <+: m) (behind : l.length ≤ n) (f : α → α) : l <+: m.modify n f := by
  rw [List.prefix_iff_getElem?] at h ⊢
  intro i hi
  rw [List.getElem?_modify_ne f m (by omega : n ≠ i), h i hi]

end

/-- A bag without its mark. -/
def Attributes.unmarked (a : Attributes) : Attributes := { a with rawMarkup := false }

namespace BagHeap

variable {start h h' : BagHeap} {r i : Nat} {b m : HeldBag} {a acc acc' : Attributes}

/-! ### What stands in memory -/

/-- What a bag in memory shows: what stands in its dictionaries, and the handlers of its list. -/
structure Shows (h : BagHeap) (b : HeldBag) (a : Attributes) : Prop where
  plain : h.plains[b.plain]? = some a.plain
  style : Option.Rel (fun i style => h.styles[i]? = some style) b.style a.style
  className : b.className = a.className
  events : ∃ refs, h.events[b.events]? = some refs ∧
    List.Forall₂ (fun i e => h.handlers[i]? = some e) refs a.events
  rawMarkup : b.rawMarkup = a.rawMarkup

/-- A bag stands at a place in memory. -/
def Holds (h : BagHeap) (r : Nat) (a : Attributes) : Prop := ∃ b, h.bags[r]? = some b ∧ h.Shows b a

/-- All that is in memory stands there later as well, unchanged, with what is new behind it. -/
structure IsKeptIn (h h' : BagHeap) : Prop where
  bags : h.bags <+: h'.bags
  plains : h.plains <+: h'.plains
  styles : h.styles <+: h'.styles
  events : h.events <+: h'.events
  handlers : h.handlers <+: h'.handlers

/-- A bag in memory shows what it showed when memory grows. -/
theorem Shows.mono (shows_ : h.Shows b a) (plains : h.plains <+: h'.plains)
    (styles : h.styles <+: h'.styles) (events : h.events <+: h'.events)
    (handlers : h.handlers <+: h'.handlers) : h'.Shows b a where
  plain := getElem?_mono plains shows_.plain
  style := by
    have known := shows_.style
    generalize b.style = place, a.style = style at known ⊢
    cases known with
    | some here => exact .some (getElem?_mono styles here)
    | none => exact .none
  className := shows_.className
  events := by
    obtain ⟨refs, list, known⟩ := shows_.events
    exact ⟨refs, getElem?_mono events list, known.imp fun _ _ => getElem?_mono handlers⟩
  rawMarkup := shows_.rawMarkup

/-- A bag that was there is there later, as it was. -/
theorem IsKeptIn.holds (kept : h.IsKeptIn h') (held : h.Holds r a) : h'.Holds r a := by
  obtain ⟨b, place, shows_⟩ := held
  exact ⟨b, getElem?_mono kept.bags place,
    shows_.mono kept.plains kept.styles kept.events kept.handlers⟩

/-- The plain attributes in memory are those that are shown. -/
theorem Shows.plainEntries_eq (shows_ : h.Shows b a) : h.plainEntries b = a.plain.entries := by
  rw [plainEntries, shows_.plain, Option.getD_some]

/-- The style in memory is the one that is shown, an absent one empty. -/
theorem Shows.styleOf?_getD (shows_ : h.Shows b a) :
    (h.styleOf? b).getD Dict.empty = a.styleOrNone := by
  have known := shows_.style
  rw [styleOf?, styleOrNone]
  generalize b.style = place, a.style = style at known ⊢
  cases known with
  | some here =>
    rw [Option.bind_some, here]
  | none => rfl

/-- The handlers in memory are those that are shown. -/
theorem Shows.handlersOf_eq (shows_ : h.Shows b a) : h.handlersOf b = a.events := by
  obtain ⟨refs, list, known⟩ := shows_.events
  rw [handlersOf, list, Option.getD_some]
  clear list shows_
  generalize a.events = events at known
  induction known with
  | nil => rfl
  | cons here _ ih => rw [List.filterMap_cons, here, ih]

/-! ### The bag under construction -/

/-- A new bag under construction: all that was there at the start is as it was, and the dictionary
of plain attributes and the list of handlers that are changed in place are its own. -/
structure Building (start : BagHeap) (r : Nat) (acc : Attributes) (h : BagHeap) : Prop where
  kept : start.IsKeptIn h
  new : start.bags.length ≤ r
  held : ∃ m, h.bags[r]? = some m ∧ h.Shows m acc ∧
    start.plains.length ≤ m.plain ∧ start.events.length ≤ m.events

/-- A new bag has nothing in it. -/
theorem building_newBag (h : BagHeap) : Building h h.newBag.1 {} h.newBag.2 where
  kept := ⟨List.prefix_append _ _, List.prefix_append _ _, List.prefix_rfl, List.prefix_append _ _,
    List.prefix_rfl⟩
  new := Nat.le_refl _
  held := by
    refine ⟨_, List.getElem?_concat_length, ⟨?_, .none, rfl, ⟨[], ?_, .nil⟩, rfl⟩, Nat.le_refl _,
      Nat.le_refl _⟩
    · exact List.getElem?_concat_length
    · exact List.getElem?_concat_length

namespace Building

/-- A step takes the new bag and another one as they stand in memory. -/
theorem withBags (building : Building start r acc h) (held : start.Holds i a)
    {f : HeldBag → HeldBag → BagHeap → BagHeap}
    (step : ∀ m b, h.bags[r]? = some m → h.Shows m acc → h.Shows b a →
      start.plains.length ≤ m.plain → start.events.length ≤ m.events →
      Building start r acc' (f m b h)) :
    Building start r acc' (h.withBags r i f) := by
  obtain ⟨m, here, shows_, plains, events⟩ := building.held
  obtain ⟨b, there, shown⟩ := building.kept.holds held
  rw [BagHeap.withBags, here, there]
  exact step m b here shows_ shown plains events

/-- The new bag may be changed in place where it goes on with its own things. -/
theorem changeBag (building : Building start r acc h) {f : HeldBag → HeldBag}
    (plain : ∀ m, (f m).plain = m.plain) (events : ∀ m, (f m).events = m.events)
    (shows_ : ∀ m, h.Shows m acc → h.Shows (f m) acc') :
    Building start r acc' (h.changeBag r f) where
  kept :=
    { building.kept with bags := prefix_modify building.kept.bags building.new f }
  new := building.new
  held := by
    obtain ⟨m, here, shown, ownPlain, ownEvents⟩ := building.held
    have now := shows_ m shown
    refine ⟨f m, ?_, ⟨now.plain, now.style, now.className, now.events, now.rawMarkup⟩, ?_, ?_⟩
    · rw [BagHeap.changeBag, List.getElem?_modify_eq, here]
      rfl
    · rwa [plain]
    · rwa [events]

/-- The new bag takes the plain attributes of one more. -/
theorem takePlain (building : Building start r acc h) (held : start.Holds i a) :
    Building start r { acc with plain := acc.plain.putAll a.plain.entries }
      (h.withBags r i takePlain) := by
  refine building.withBags held fun m b here shows_ shown ownPlain ownEvents => ?_
  refine ⟨{ building.kept with plains := ?_ }, building.new, m, here, ?_, ownPlain, ownEvents⟩
  · exact prefix_modify building.kept.plains ownPlain _
  · refine { shows_ with plain := ?_ }
    rw [BagHeap.takePlain, List.getElem?_modify_eq, shows_.plain, shown.plainEntries_eq]
    rfl

/-- The new bag takes the style of one more, in a dictionary of its own. -/
theorem takeStyle (building : Building start r acc h) (held : start.Holds i a) :
    Building start r { acc with style := (mergeStep acc a).style }
      (h.withBags r i (takeStyle r)) := by
  refine building.withBags held fun m b here shows_ shown ownPlain ownEvents => ?_
  rw [BagHeap.takeStyle, shown.styleOf?_getD, shows_.styleOf?_getD, style_mergeStep]
  by_cases empty : a.styleOrNone.isEmpty = true
  · rw [if_pos empty, if_pos empty]
    exact building
  · rw [if_neg empty, if_neg empty]
    have grown : h.styles <+: h.styles ++ [acc.styleOrNone.putAll a.styleOrNone.entries] :=
      List.prefix_append _ _
    have kept : Building start r acc
        { h with styles := h.styles ++ [acc.styleOrNone.putAll a.styleOrNone.entries] } := by
      refine ⟨{ building.kept with styles := building.kept.styles.trans grown }, building.new, m,
        here, ?_, ownPlain, ownEvents⟩
      exact shows_.mono List.prefix_rfl grown List.prefix_rfl List.prefix_rfl
    refine kept.changeBag (fun _ => rfl) (fun _ => rfl) fun m shown => ?_
    exact { shown with style := .some List.getElem?_concat_length }

/-- The new bag takes the class names of one more. -/
theorem takeClass (building : Building start r acc h) (held : start.Holds i a) :
    Building start r { acc with className := (mergeStep acc a).className }
      (h.withBags r i (takeClass r)) := by
  refine building.withBags held fun m b _ shows_ shown _ _ => ?_
  have empty : (a.className.getD "").isEmpty = !a.hasClass := by
    rw [hasClass, bne, Bool.not_not, Bool.eq_iff_iff, String.isEmpty_iff, beq_iff_eq]
  rw [BagHeap.takeClass, shown.className, shows_.className, className_mergeStep, empty]
  cases a.hasClass with
  | false => exact building
  | true =>
    refine building.changeBag (fun _ => rfl) (fun _ => rfl) fun m shown => ?_
    exact { shown with className := rfl }

/-- The new bag takes the handlers of one more. -/
theorem takeEvents (building : Building start r acc h) (held : start.Holds i a) :
    Building start r { acc with events := acc.events ++ a.events }
      (h.withBags r i takeEvents) := by
  refine building.withBags held fun m b here shows_ shown ownPlain ownEvents => ?_
  have grown : h.handlers <+: h.handlers ++ a.events := List.prefix_append _ _
  rw [BagHeap.takeEvents, shown.handlersOf_eq]
  refine ⟨{ building.kept with
    events := prefix_modify building.kept.events ownEvents _
    handlers := building.kept.handlers.trans grown },
    building.new, m, here, ?_, ownPlain, ownEvents⟩
  obtain ⟨refs, list, known⟩ := shows_.events
  refine { shows_ with events := ⟨refs ++ List.range' h.handlers.length a.events.length, ?_, ?_⟩ }
  · rw [List.getElem?_modify_eq, list]
    rfl
  · refine List.rel_append (known.imp fun _ _ => getElem?_mono grown) ?_
    rw [List.forall₂_iff_get]
    refine ⟨List.length_range', fun n hn hn' => ?_⟩
    simp [List.getElem?_append_right]

/-- A bag is merged into the new one, but for its mark. -/
theorem mergeBag (building : Building start r acc.unmarked h) (held : start.Holds i a) :
    Building start r (mergeStep acc a).unmarked (h.mergeBag r i) := by
  have merged := (((building.takePlain held).takeStyle held).takeClass held).takeEvents held
  exact merged

/-- Bags are merged into the new one, one after the other. -/
theorem foldl_mergeBag {refs : List Nat} {bags : List Attributes}
    (building : Building start r acc.unmarked h) (held : List.Forall₂ start.Holds refs bags) :
    Building start r (bags.foldl mergeStep acc).unmarked (refs.foldl (BagHeap.mergeBag r) h) := by
  induction held generalizing acc h with
  | nil => exact building
  | cons here _ ih => exact ih (building.mergeBag here)

end Building

/-! ### Merged bags -/

/-- The marks in memory are those of the bags that are shown. -/
theorem any_rawMarkup {refs : List Nat} {bags : List Attributes}
    (held : List.Forall₂ h.Holds refs bags) :
    (refs.any fun i => (h.bags[i]?).any HeldBag.rawMarkup) = bags.any rawMarkup := by
  induction held with
  | nil => rfl
  | cons here _ ih =>
    obtain ⟨b, place, shows_⟩ := here
    rw [List.any_cons, List.any_cons, ih, place, Option.any_some, shows_.rawMarkup]

/-- A merge in memory puts the merge of the bags in a place of its own, and leaves everything else
as it was. -/
theorem merge_holds {refs : List Nat} {bags : List Attributes}
    (held : List.Forall₂ h.Holds refs bags) :
    h.IsKeptIn (h.merge refs).2 ∧ h.bags.length ≤ (h.merge refs).1 ∧
      (h.merge refs).2.Holds (h.merge refs).1 (Attributes.merge bags) := by
  have started : Building h h.newBag.1 ({} : Attributes).unmarked h.newBag.2 := building_newBag h
  have building := started.foldl_mergeBag held
  have marks := any_rawMarkup (held.imp fun _ _ => building.kept.holds)
  have marked : Building h h.newBag.1 (Attributes.merge bags) (h.merge refs).2 := by
    refine building.changeBag (fun _ => rfl) (fun _ => rfl) fun m shown => ?_
    refine { shown with rawMarkup := ?_ }
    rw [merge_eq_gathered]
    exact marks
  obtain ⟨m, place, shown, _⟩ := marked.held
  exact ⟨marked.kept, marked.new, m, place, shown⟩

end BagHeap

namespace Attributes

/-- Bags whose classes are empty or have a name in them may be merged in groups. The empty bag
changes a bag at most in the spacing of its class and in how an empty class or style is shown. And a
merge in memory leaves all that was there as it was, the bags that are merged among it. -/
theorem merge_in_groups :
    (∀ bags more : List Attributes, (∀ a ∈ bags ++ more, a.NamesClasses) →
      merge (bags ++ more) = merge [merge bags, merge more]) ∧
    (∀ a : Attributes, merge [a, {}] = a.normal ∧ merge [{}, a] = a.normal ∧
      a.normal.classes = a.classes ∧ a.normal.styleOrNone = a.styleOrNone) ∧
    ∀ (h : BagHeap) (refs : List Nat) (bags : List Attributes), List.Forall₂ h.Holds refs bags →
      h.IsKeptIn (h.merge refs).2 ∧ (∀ i a, h.Holds i a → (h.merge refs).2.Holds i a) ∧
        (h.merge refs).2.Holds (h.merge refs).1 (merge bags) := by
  refine ⟨fun _ _ => merge_append, fun a => ?_, fun h refs bags held => ?_⟩
  · obtain ⟨before, behind⟩ := merge_empty a
    exact ⟨before, behind, normal_says_the_same a⟩
  · obtain ⟨kept, _, merged⟩ := BagHeap.merge_holds held
    exact ⟨kept, fun _ _ => kept.holds, merged⟩

/-- Two bags with attributes of one name, one of them without a class and merged twice. -/
theorem merge_in_groups_overlapping :
    let a : Attributes :=
      { plain := Dict.ofList [("id", .text "x"), ("title", .text "t")]
        style := some (Dict.ofList [("color", "red")]), className := some " p  q " }
    let b : Attributes :=
      { plain := Dict.ofList [("id", .text "y")], style := some Dict.empty, className := some ""
        events := [⟨"onClick", "f()"⟩], rawMarkup := true }
    let memory : BagHeap :=
      { bags := [{ plain := 0, style := some 0, className := some " p  q ", events := 0 },
          { plain := 1, style := some 1, className := some "", events := 1, rawMarkup := true }]
        plains := [a.plain, b.plain], styles := [a.styleOrNone, Dict.empty], events := [[], [0]]
        handlers := [⟨"onClick", "f()"⟩] }
    (∀ c ∈ [a] ++ [b, a], c.NamesClasses) ∧
      merge ([a] ++ [b, a]) = merge [merge [a], merge [b, a]] ∧
      List.Forall₂ memory.Holds [0, 1, 0] [a, b, a] ∧
      (memory.merge [0, 1, 0]).2.Holds (memory.merge [0, 1, 0]).1 (merge [a, b, a]) ∧
      memory.IsKeptIn (memory.merge [0, 1, 0]).2 := by
  intro a b memory
  have named : ∀ c ∈ [a] ++ [b, a], c.NamesClasses := by
    have first : a.NamesClasses := .inr (by decide)
    have second : b.NamesClasses := .inl rfl
    simp [first, second]
  have first : memory.Holds 0 a := ⟨_, rfl, rfl, .some rfl, rfl, ⟨_, rfl, .nil⟩, rfl⟩
  have second : memory.Holds 1 b := ⟨_, rfl, rfl, .some rfl, rfl, ⟨_, rfl, .cons rfl .nil⟩, rfl⟩
  have held : List.Forall₂ memory.Holds [0, 1, 0] [a, b, a] :=
    .cons first (.cons second (.cons first .nil))
  obtain ⟨groups, _, stands⟩ := merge_in_groups
  obtain ⟨kept, _, merged⟩ := stands memory [0, 1, 0] [a, b, a] held
  exact ⟨named, groups [a] [b, a] named, held, merged, kept⟩

end Attributes
end Componentry
