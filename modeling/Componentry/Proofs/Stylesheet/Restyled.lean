import Componentry.Proofs.Dict
import Componentry.Proofs.Markup.Tags
import Componentry.Proofs.Text.Pieces
import Componentry.Stylesheet.Conversion

/-!
# Restyled elements

The styled elements of a tree are given their classes in document order, and all other elements stay
as they are. A restyled element has the class it is given and those it had; its style is gone unless
it is to be kept, and nothing else about it changes.
-/

set_option autoImplicit false

namespace Componentry
open Componentry.Text Componentry.Markup Componentry.Stylesheet

/-- How an element stands once it is given a class. -/
structure IsRestyled (o : StyleOptions) (before : Tag) (name : String) (after : Tag) : Prop where
  named : after.name = before.name
  given : name ∈ after.classes
  classes : before.classes ⊆ after.classes
  style : after.value? "style" = if o.keepsInline then before.value? "style" else none
  others : ∀ a, a ≠ "class" → a ≠ "style" → after.value? a = before.value? a

/-- Elements before and after the styled ones among them are given classes, one after the other. -/
inductive Restyles (o : StyleOptions) : List Tag → List String → List Tag → Prop
  | nil : Restyles o [] [] []
  | kept {tag : Tag} {before after : List Tag} {names : List String} :
      ElementStyle.ofTag? tag = none → Restyles o before names after →
      Restyles o (tag :: before) names (tag :: after)
  | styled {tag tag' : Tag} {style : ElementStyle} {name : String} {before after : List Tag}
      {names : List String} : ElementStyle.ofTag? tag = some style →
      IsRestyled o tag name tag' → Restyles o before names after →
      Restyles o (tag :: before) (name :: names) (tag' :: after)

/-- Elements before and after each of the styled ones among them has been restyled with its name. -/
inductive RestyledBy (o : StyleOptions) : List Tag → List String → List Tag → Prop
  | nil : RestyledBy o [] [] []
  | kept {tag : Tag} {before after : List Tag} {names : List String} :
      ElementStyle.ofTag? tag = none → RestyledBy o before names after →
      RestyledBy o (tag :: before) names (tag :: after)
  | styled {tag : Tag} {style : ElementStyle} {name : String} {before after : List Tag}
      {names : List String} : ElementStyle.ofTag? tag = some style →
      RestyledBy o before names after →
      RestyledBy o (tag :: before) (name :: names) (tag.restyled o name :: after)

variable {o : StyleOptions}

namespace Markup.Tag

/-- The class names of a tag are words. -/
theorem isWord_of_mem_classes {tag : Tag} {c : String} (h : c ∈ tag.classes) : IsWord c :=
  isWord_of_mem_words h

@[simp] theorem value?_withoutStyle (tag : Tag) (a : String) :
    tag.withoutStyle.value? a = if a = "style" then none else tag.value? a :=
  Dict.get?_erase tag.attributes "style" a

/-- A tag without its style has the classes it had. -/
theorem classes_withoutStyle (tag : Tag) : tag.withoutStyle.classes = tag.classes := by
  simp [classes]

/-- The class names of an element that is given one more. -/
theorem classes_addClasses {tag : Tag} {c : String} (hc : IsWord c) :
    (tag.addClasses [c]).classes =
      if tag.classes.contains c then tag.classes else tag.classes ++ [c] := by
  have put : (tag.addClasses [c]).value? "class" = some (join " "
      (if tag.classes.contains c then tag.classes else tag.classes ++ [c])) := by
    simp [addClasses, value?]
  rw [classes, put, Option.getD_some]
  refine words_join fun d hd => ?_
  split at hd
  · exact isWord_of_mem_classes hd
  · rcases List.mem_append.1 hd with old | new
    · exact isWord_of_mem_classes old
    · rwa [List.mem_singleton.1 new]

/-- Adding classes changes no other attribute. -/
theorem value?_addClasses {tag : Tag} {names : List String} {a : String} (h : a ≠ "class") :
    (tag.addClasses names).value? a = tag.value? a := by
  simp [addClasses, value?, h]

/-- A tag with one class more, and with its style or without, is restyled. -/
theorem isRestyled_addClasses {tag base : Tag} {c : String} (hc : IsWord c)
    (named : base.name = tag.name) (classes : base.classes = tag.classes)
    (values : ∀ a, base.value? a =
      if a = "style" ∧ o.keepsInline = false then none else tag.value? a) :
    IsRestyled o tag c (base.addClasses [c]) where
  named := named
  given := by
    rw [classes_addClasses hc]
    split
    · next known => exact List.contains_iff_mem.1 known
    · exact List.mem_append_right _ (List.mem_singleton_self c)
  classes := by
    rw [classes_addClasses hc, classes]
    split
    · exact List.Subset.refl _
    · exact List.subset_append_left _ _
  style := by
    rw [value?_addClasses (by decide), values]
    cases o.keepsInline <;> simp
  others := by
    intro a notClass notStyle
    rw [value?_addClasses notClass, values, if_neg fun h => notStyle h.1]

/-- An element is given the class that is a word. -/
theorem isRestyled_restyled {tag : Tag} {c : String} (hc : IsWord c) :
    IsRestyled o tag c (tag.restyled o c) := by
  have some_ : (c == "") = false := beq_eq_false_iff_ne.2 hc.some_
  have words : words c = [c] := words_of_isWord hc
  simp only [restyled, some_, words, Bool.false_eq_true, if_false]
  cases kept : o.keepsInline with
  | false =>
    simp only [Bool.false_eq_true, if_false]
    refine isRestyled_addClasses hc rfl (classes_withoutStyle tag) fun a => ?_
    simp [kept]
  | true =>
    simp only [if_true]
    refine isRestyled_addClasses hc rfl rfl fun a => ?_
    simp [kept]

end Markup.Tag

/-- An element that is given a name keeps no style unless it is to be kept. -/
theorem Markup.Tag.ofTag?_restyled {tag : Tag} {name : String} (gone : o.keepsInline = false)
    (some_ : name ≠ "") : ElementStyle.ofTag? (tag.restyled o name) = none := by
  have style : (tag.restyled o name).value? "style" = none := by
    rw [restyled, if_neg (by simpa using some_), gone, if_neg Bool.false_ne_true,
      value?_addClasses (by decide), value?_withoutStyle, if_pos rfl]
  rw [ElementStyle.ofTag?, style, Option.bind_none]

/-- Without a class a tag is not restyled. -/
theorem Markup.Tag.restyled_empty (o : StyleOptions) (tag : Tag) : tag.restyled o "" = tag := rfl

namespace RestyledBy

variable {before after before' after' : List Tag} {names names' : List String}

/-- Tags in a row are restyled by the names in a row. -/
theorem append (h : RestyledBy o before names after) (h' : RestyledBy o before' names' after') :
    RestyledBy o (before ++ before') (names ++ names') (after ++ after') := by
  induction h with
  | nil => exact h'
  | kept plain _ ih => exact .kept plain ih
  | styled found _ ih => exact .styled found ih

/-- There are as many names as there are styled elements. -/
theorem length_eq (h : RestyledBy o before names after) :
    (before.filterMap ElementStyle.ofTag?).length = names.length := by
  induction h with
  | nil => rfl
  | kept plain _ ih => rw [List.filterMap_cons_none plain, ih]
  | styled found _ ih =>
    rw [List.filterMap_cons_some found, List.length_cons, ih, List.length_cons]

/-- Names that are words are given as classes. -/
theorem restyles (h : RestyledBy o before names after) (words : ∀ c ∈ names, IsWord c) :
    Restyles o before names after := by
  induction h with
  | nil => exact .nil
  | kept plain _ ih => exact .kept plain (ih words)
  | @styled tag style name before after names found _ ih =>
    have word := words name List.mem_cons_self
    refine .styled found (Tag.isRestyled_restyled word) (ih fun c hc => ?_)
    exact words c (List.mem_cons_of_mem name hc)

/-- The styles that are left are those of elements without a name. -/
theorem mem_zip_of_left (h : RestyledBy o before names after) (gone : o.keepsInline = false) :
    ∀ style ∈ after.filterMap ElementStyle.ofTag?,
      (style, "") ∈ (before.filterMap ElementStyle.ofTag?).zip names := by
  induction h with
  | nil => exact fun _ left => absurd left List.not_mem_nil
  | kept plain _ ih =>
    rw [List.filterMap_cons_none plain, List.filterMap_cons_none plain]
    exact ih
  | @styled tag style name before after names found _ ih =>
    intro left mem
    rw [List.filterMap_cons_some found, List.zip_cons_cons]
    by_cases empty : name = ""
    · rw [empty, Tag.restyled_empty, List.filterMap_cons_some found] at mem
      rcases List.mem_cons.1 mem with rfl | mem
      · rw [empty]
        exact List.mem_cons_self
      · exact List.mem_cons_of_mem _ (ih left mem)
    · rw [List.filterMap_cons_none (Tag.ofTag?_restyled gone empty)] at mem
      exact List.mem_cons_of_mem _ (ih left mem)

end RestyledBy

namespace Markup.Tree

/-- An element without a style takes no name. -/
theorem restyleAll_kept {tag : Tag} (plain : ElementStyle.ofTag? tag = none)
    (given : List String) (children rest : List Tree) :
    restyleAll o given (.element tag children :: rest) =
      (.element tag (restyleAll o given children).1 ::
          (restyleAll o (restyleAll o given children).2 rest).1,
        (restyleAll o (restyleAll o given children).2 rest).2) := by
  simp only [restyleAll, restyle, plain]

/-- A styled element takes the first name. -/
theorem restyleAll_styled {tag : Tag} {style : ElementStyle}
    (found : ElementStyle.ofTag? tag = some style) (name : String) (given : List String)
    (children rest : List Tree) :
    restyleAll o (name :: given) (.element tag children :: rest) =
      (.element (tag.restyled o name) (restyleAll o given children).1 ::
          (restyleAll o (restyleAll o given children).2 rest).1,
        (restyleAll o (restyleAll o given children).2 rest).2) := by
  simp only [restyleAll, restyle, found]

/-- Without names nothing is restyled. -/
theorem restyleAll_nil : ∀ trees : List Tree, restyleAll o [] trees = (trees, [])
  | [] => rfl
  | .string kind text :: trees => by simp only [restyleAll, restyle, restyleAll_nil trees]
  | .element tag children :: trees => by
    cases found : ElementStyle.ofTag? tag <;>
      simp only [restyleAll, restyle, found, restyleAll_nil children, restyleAll_nil trees]

/-- The styled elements of trees take the first names that are given, as long as there are enough of
them; the others are left over. -/
theorem exists_restyledBy : ∀ (trees : List Tree) (given : List String),
    ((tagsIn trees).filterMap ElementStyle.ofTag?).length ≤ given.length →
    ∃ names, given = names ++ (restyleAll o given trees).2 ∧
      RestyledBy o (tagsIn trees) names (tagsIn (restyleAll o given trees).1)
  | [], given, _ => by
    rw [restyleAll, tagsIn_nil]
    exact ⟨[], rfl, .nil⟩
  | .string kind text :: trees, given, enough => by
    rw [restyleAll, restyle]
    simp only [tagsIn_string] at enough ⊢
    exact exists_restyledBy trees given enough
  | .element tag children :: trees, given, enough => by
    rw [tagsIn_element] at enough ⊢
    -- the names for what is in the element, and behind it
    have inside : ∀ given : List String,
        ((tagsIn children ++ tagsIn trees).filterMap ElementStyle.ofTag?).length ≤ given.length →
        ∃ names, given = names ++ (restyleAll o (restyleAll o given children).2 trees).2 ∧
          RestyledBy o (tagsIn children ++ tagsIn trees) names
            (tagsIn (restyleAll o given children).1 ++
              tagsIn (restyleAll o (restyleAll o given children).2 trees).1) := by
      intro given enough
      rw [List.filterMap_append, List.length_append] at enough
      obtain ⟨names, taken, first⟩ := exists_restyledBy children given (by omega)
      have size := congrArg List.length taken
      rw [List.length_append, ← first.length_eq] at size
      obtain ⟨names', taken', second⟩ :=
        exists_restyledBy trees (restyleAll o given children).2 (by omega)
      refine ⟨names ++ names', ?_, first.append second⟩
      rw [List.append_assoc, ← taken', ← taken]
    -- A styled element takes a name before the elements in it do.
    cases found : ElementStyle.ofTag? tag with
    | none =>
      rw [List.filterMap_cons_none found] at enough
      rw [restyleAll_kept found, tagsIn_element]
      obtain ⟨names, taken, restyled⟩ := inside given enough
      exact ⟨names, taken, .kept found restyled⟩
    | some style =>
      rw [List.filterMap_cons_some found, List.length_cons] at enough
      cases given with
      | nil => exact absurd enough (Nat.not_succ_le_zero _)
      | cons name given =>
        rw [restyleAll_styled found, tagsIn_element]
        obtain ⟨names, taken, restyled⟩ := inside given (Nat.le_of_succ_le_succ enough)
        exact ⟨name :: names, by rw [List.cons_append, ← taken], .styled found restyled⟩

/-- With a name for each styled element all of them are restyled. -/
theorem restyledBy_restyleAll {trees : List Tree} {given : List String}
    (size : ((tagsIn trees).filterMap ElementStyle.ofTag?).length = given.length) :
    RestyledBy o (tagsIn trees) given (tagsIn (restyleAll o given trees).1) := by
  obtain ⟨names, taken, restyled⟩ := exists_restyledBy (o := o) trees given (Nat.le_of_eq size)
  have left := congrArg List.length taken
  rw [List.length_append, ← restyled.length_eq] at left
  have none : (restyleAll o given trees).2 = [] := List.eq_nil_of_length_eq_zero (by omega)
  rw [none, List.append_nil] at taken
  rwa [← taken] at restyled

end Markup.Tree
end Componentry
