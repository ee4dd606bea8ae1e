import Componentry.Proofs.Stylesheet.Converter
import Componentry.Proofs.Stylesheet.Extraction
import Componentry.Proofs.Stylesheet.Link

/-!
# Converting again

What a conversion leaves styled are the elements that it gave no class: there are none with rules,
and with utility classes those of which no declaration has one. Their styles are given nothing
again, so that a second conversion changes nothing. A link that was set is neither styled nor set
twice; only the name of the style sheet, which is written as it is, can keep it from being read.
-/

set_option autoImplicit false

namespace Componentry
open Componentry.Text Componentry.Markup Componentry.Stylesheet

variable {s : StyleStrategy} {o : StyleOptions} {c : Classing} {styles : List ElementStyle}

namespace StyleStrategy

/-! ## Utility classes one style at a time -/

/-- The utility classes of a style, which other styles make no difference to. -/
def utilityText (style : ElementStyle) : Except Fault String :=
  (style.declared.entries.mapM withUtility).map fun found =>
    join " " ((found.filterMap Prod.snd).eraseDups)

/-- A style is given its own utility classes, or refused for its own sake. -/
theorem giveUtilities_cases (c : Classing) (style : ElementStyle) :
    (∃ name more, utilityText style = .ok name ∧ giveUtilities c style =
      .ok { c with given := c.given ++ [name], unsupported := c.unsupported ++ more }) ∨
    ∃ fault, utilityText style = .error fault ∧ giveUtilities c style = .error fault := by
  rw [utilityText, giveUtilities]
  cases style.declared.entries.mapM withUtility with
  | error fault => exact .inr ⟨fault, rfl, rfl⟩
  | ok found => exact .inl ⟨_, _, rfl, rfl⟩

/-- Styles that are all given utility classes have them each for itself. -/
theorem forall₂_of_giveAllUtilities : ∀ {styles : List ElementStyle} {c c' : Classing},
    giveAllUtilities c styles = (c', none) → ∃ names, c'.given = c.given ++ names ∧
      List.Forall₂ (fun style name => utilityText style = .ok name) styles names
  | [], c, c', h => by
    cases h
    exact ⟨[], (List.append_nil _).symm, .nil⟩
  | style :: rest, c, c', h => by
    rw [giveAllUtilities] at h
    rcases giveUtilities_cases c style with ⟨name, more, own, gives⟩ | ⟨fault, -, refused⟩
    · rw [gives] at h
      obtain ⟨names, given, others⟩ := forall₂_of_giveAllUtilities h
      exact ⟨name :: names, by rw [given, List.append_assoc, List.singleton_append],
        .cons own others⟩
    · rw [refused] at h
      cases h

/-- Styles that have utility classes each for itself are all given them. -/
theorem exists_giveAllUtilities {names : List String}
    (each : List.Forall₂ (fun style name => utilityText style = .ok name) styles names)
    (c : Classing) : ∃ c', giveAllUtilities c styles = (c', none) ∧
      c'.given = c.given ++ names := by
  induction each generalizing c with
  | nil => exact ⟨c, rfl, (List.append_nil _).symm⟩
  | @cons style name rest names own _ ih =>
    rw [giveAllUtilities]
    rcases giveUtilities_cases c style with ⟨name', more, own', gives⟩ | ⟨fault, refused, -⟩
    · rw [own] at own'
      cases own'
      rw [gives]
      obtain ⟨c', all, given⟩ := ih
        { c with given := c.given ++ [name], unsupported := c.unsupported ++ more }
      exact ⟨c', all, by rw [given, List.append_assoc, List.singleton_append]⟩
    · rw [own] at refused
      cases refused

/-- Each style is given the text of its utilities. -/
theorem forall₂_of_classing (classed : utility.classing o styles = (c, none)) :
    List.Forall₂ (fun style name => utilityText style = .ok name) styles c.given := by
  obtain ⟨names, given, each⟩ := forall₂_of_giveAllUtilities classed
  have given : c.given = names := given
  rwa [given]

/-! ## What is left over -/

/-- Rules refuse no style. -/
theorem eq_rulesFor_of_classing (ruled : s ≠ .utility) (classed : s.classing o styles = (c, none)) :
    c = s.rulesFor o styles := by
  match s, ruled with
  | .scoped, _ =>
    cases classed
    rfl
  | .plain, _ =>
    cases classed
    rfl

/-- Each style is given one text. -/
theorem length_given_of_classing (classed : s.classing o styles = (c, none)) :
    styles.length = c.given.length := by
  by_cases ruled : s = .utility
  · subst ruled
    exact (forall₂_of_classing classed).length_eq
  · obtain ⟨made, rules⟩ := exists_isClassed s o styles
    rw [eq_rulesFor_of_classing ruled classed, ← rules.given.length_eq]

/-- Styles that were given nothing are given nothing again, and leave no style sheet. -/
theorem classing_of_left (classed : s.classing o styles = (c, none)) {left : List ElementStyle}
    (given : ∀ style ∈ left, (style, "") ∈ styles.zip c.given) :
    ∃ c', s.classing o left = (c', none) ∧ (∀ name ∈ c'.given, name = "") ∧
      s.sheet o left = "" := by
  by_cases ruled : s = .utility
  · subst ruled
    have each := forall₂_of_classing classed
    have again : List.Forall₂ (fun style name => utilityText style = .ok name) left
        (left.map fun _ => "") := by
      rw [List.forall₂_map_right_iff, List.forall₂_same]
      exact fun style mem => List.forall₂_zip each (given style mem)
    obtain ⟨c', gives, texts⟩ := exists_giveAllUtilities again {}
    refine ⟨c', gives, fun name mem => ?_, rfl⟩
    rw [texts] at mem
    obtain ⟨-, -, same⟩ := List.mem_map.1 mem
    exact same.symm
  · -- rules give every style a class, so that none is left over
    obtain ⟨made, rules⟩ := exists_isClassed s o styles
    rw [eq_rulesFor_of_classing ruled classed] at given
    have none_ : left = [] := List.eq_nil_iff_forall_not_mem.2 fun style mem =>
      rules.ne_empty "" (List.of_mem_zip (given style mem)).2 rfl
    subst none_
    refine ⟨{}, ?_, fun name mem => absurd mem List.not_mem_nil, ?_⟩
    all_goals match s, ruled with
      | .scoped, _ => rfl
      | .plain, _ => rfl

/-! ## The second run -/

/-- The trees of markup after each styled element is given its classes. -/
def convertedTrees (s : StyleStrategy) (o : StyleOptions) (tree : Tree) : List Tree :=
  (Tree.restyleAll o (s.classing o (ElementStyle.ofTree tree)).1.given tree.children).1

/-- Elements that are alike have the same styles. -/
theorem ofTag?_eq_of_isLike {tag other : Tag} (like : tag.IsLike other) :
    ElementStyle.ofTag? tag = ElementStyle.ofTag? other := by
  rw [ElementStyle.ofTag?, ElementStyle.ofTag?, like.values, like.name]

/-- Tags that are alike have the same styles. -/
theorem filterMap_ofTag?_of_isLike {tags others : List Tag}
    (like : List.Forall₂ Tag.IsLike tags others) :
    tags.filterMap ElementStyle.ofTag? = others.filterMap ElementStyle.ofTag? := by
  induction like with
  | nil => rfl
  | cons first _ ih => simp only [List.filterMap_cons, ofTag?_eq_of_isLike first, ih]

/-- What is left styled are the elements that were given nothing. -/
theorem exists_parse_unlinked {markup : String} {tree : Tree} (gone : o.keepsInline = false)
    (parsed : Tree.parse markup = .ok tree)
    (classed : s.classing o (ElementStyle.ofTree tree) = (c, none))
    (reread : (classMap c.given).isEmpty = false → Tree.RereadsTags (s.convertedTrees o tree)) :
    ∃ tree', Tree.parse (s.unlinked o markup tree) = .ok tree' ∧
      ∀ style ∈ ElementStyle.ofTree tree',
        (style, "") ∈ (ElementStyle.ofTree tree).zip c.given := by
  have size := length_given_of_classing classed
  rw [unlinked, classed]
  dsimp only
  cases none_ : (classMap c.given).isEmpty with
  | true =>
    refine ⟨tree, by rw [if_pos rfl, parsed], fun style mem => ?_⟩
    obtain ⟨i, hi, rfl⟩ := List.mem_iff_getElem.1 mem
    have given : i < c.given.length := size ▸ hi
    have pair := List.getElem_mem (l := (ElementStyle.ofTree tree).zip c.given) (n := i)
      (by rw [List.length_zip, ← size, Nat.min_self]; exact hi)
    rwa [List.getElem_zip, isEmpty_classMap_iff.1 none_ _ (List.getElem_mem given)] at pair
  | false =>
    obtain ⟨tree', read, like⟩ := reread none_
    rw [convertedTrees, classed] at read like
    refine ⟨tree', by rw [if_neg Bool.false_ne_true, read], fun style mem => ?_⟩
    have mem : style ∈ (Tree.tagsIn tree'.children).filterMap ElementStyle.ofTag? := mem
    rw [filterMap_ofTag?_of_isLike like] at mem
    exact (Tree.restyledBy_restyleAll size).mem_zip_of_left gone style mem

end StyleStrategy

namespace StyleConverter

/-- Markup that a conversion gave is converted to itself, whichever converter of the strategy does
it: no element is given a class, and there is no style sheet. -/
theorem convert_converted {k k' : StyleConverter} (same : k'.strategy = k.strategy)
    (gone : o.keepsInline = false) (quoteless : '"' ∉ o.fileName.toList)
    (short : k.strategy = .plain → o.separateFile = true → ¬ HoldsLongNumber o.fileName.toList)
    {markup : String} {converted : StyledMarkup}
    (first : (k.convert o markup).1 = .ok converted)
    (reread : ∀ tree, Tree.parse markup = .ok tree → converted.classes.isEmpty = false →
      Tree.RereadsTags (k.strategy.convertedTrees o tree)) :
    ∃ again, (k'.convert o converted.markup).1 = .ok again ∧ again.markup = converted.markup ∧
      again.classes = Dict.empty ∧ again.sheet = "" := by
  rw [(k.convert_eq o markup).1] at first
  obtain ⟨tree, c, parsed, classed, rfl⟩ := StyleStrategy.result_convert_eq_ok.1 first
  -- The markup is read again without its link, then with it; no style is left either way.
  obtain ⟨tree', read, left⟩ :=
    StyleStrategy.exists_parse_unlinked gone parsed classed (reread tree parsed)
  obtain ⟨linked, readLinked, styles⟩ :=
    StyleStrategy.exists_parse_linked quoteless short read
  obtain ⟨c', classed', none_, sheet⟩ := StyleStrategy.classing_of_left classed left
  rw [← styles] at classed' sheet
  have empty : (StyleStrategy.classMap c'.given).isEmpty = true :=
    StyleStrategy.isEmpty_classMap_iff.2 none_
  have kept : k.strategy.unlinked o
      (k.strategy.linked o (k.strategy.unlinked o markup tree)) linked =
        k.strategy.linked o (k.strategy.unlinked o markup tree) := by
    rw [StyleStrategy.unlinked, classed', empty]
    rfl
  refine ⟨_, ((k'.convert_eq o _).1.trans (by rw [same])).trans
    (StyleStrategy.result_convert_eq_ok.2 ⟨linked, c', readLinked, classed', rfl⟩), ?_, ?_, sheet⟩
  · rw [kept, StyleStrategy.linked_linked]
  · exact Dict.ext_entries (List.isEmpty_iff.1 empty)

/-- A styled element behind a link that was set is not converted again. -/
theorem convert_converted_linked :
    let o : StyleOptions := { separateFile := true }
    let k : StyleConverter := { strategy := .plain }
    ∃ converted again,
      (k.convert o "<p class=\"k\" style=\"color: red\">x</p><i style=\"\">y</i>").1 =
        .ok converted ∧
      converted.markup = "<link rel=\"stylesheet\" href=\"styles.css\">\n" ++
        "<p class=\"k p-90ad96\">x</p><i style=\"\">y</i>" ∧
      (k.convert o converted.markup).1 = .ok again ∧ again.markup = converted.markup ∧
      again.classes = Dict.empty ∧ again.sheet = "" := by
  intro o k
  have known : (k.convert o
      "<p class=\"k\" style=\"color: red\">x</p><i style=\"\">y</i>").1.toOption.map
        StyledMarkup.markup = some ("<link rel=\"stylesheet\" href=\"styles.css\">\n" ++
          "<p class=\"k p-90ad96\">x</p><i style=\"\">y</i>") := by decide +kernel
  have respells : ((Tree.parse
      "<p class=\"k\" style=\"color: red\">x</p><i style=\"\">y</i>").toOption.all fun tree =>
        Tree.respells (StyleStrategy.plain.convertedTrees o tree)) = true := by decide +kernel
  obtain ⟨converted, first, text⟩ := exists_ok_of_toOption_map known
  have same : k.strategy = k.strategy := rfl
  obtain ⟨again, second⟩ := convert_converted same rfl (by decide)
    (fun _ _ => not_holdsLongNumber_of_plain (by decide)) first fun tree parsed _ => by
      rw [parsed] at respells
      exact Tree.rereadsTags_of_respells respells
  exact ⟨converted, again, first, text, second⟩

/-- A name that numbers a character with so many digits. -/
def numberName (digits : Nat) : String := "&#" ++ String.ofList (List.replicate digits '9')

/-- The characters of a name that is a long reference. -/
theorem toList_numberName (digits : Nat) :
    (numberName digits).toList = '&' :: '#' :: List.replicate digits '9' := by
  have start : "&#".toList = ['&', '#'] := by decide
  rw [numberName, String.toList_append, start, String.toList_ofList]
  rfl

/-- A name that is a long reference has no quote. -/
theorem quote_not_mem_numberName (digits : Nat) : '"' ∉ (numberName digits).toList := by
  rw [toList_numberName]
  simp [List.mem_replicate]

/-- A style sheet is not read by a name that numbers a character with too many digits. -/
theorem decodeValue_sheetName {digits : Nat} (named : o.fileName = numberName digits)
    (long : mostDigits < digits) : decodeValue (StyleStrategy.plain.sheetName o).toList =
      .error (.number (.long digits)) := by
  have some_ : (o.fileName == "") = false := by
    rw [beq_eq_false_iff_ne, named]
    intro empty
    have characters := toList_numberName digits
    rw [empty] at characters
    cases characters
  have ending : StyleStrategy.plain.fileEnding.toList = '.' :: "css".toList := by decide
  rw [StyleStrategy.sheetName, some_, if_neg Bool.false_ne_true, named, String.toList_append,
    toList_numberName, ending, List.cons_append, List.cons_append,
    decodeValue_of_long (fun d hd => by rw [List.eq_of_mem_replicate hd]; decide) (by decide)
      (by rwa [List.length_replicate]), List.length_replicate]

/-- A paragraph has no styles, and its element is read again as it was. -/
theorem exists_parse_paragraph (o : StyleOptions) : ∃ tree, Tree.parse "<p>x</p>" = .ok tree ∧
    ElementStyle.ofTree tree = [] ∧
    Tree.RereadsTags (StyleStrategy.plain.convertedTrees o tree) := by
  have known : (Tree.parse "<p>x</p>").toOption.map
      (fun tree => ((ElementStyle.ofTree tree).length, Tree.respells tree.children)) =
        some (0, true) := by decide +kernel
  obtain ⟨tree, parsed, known⟩ := exists_ok_of_toOption_map known
  obtain ⟨none_, respells⟩ := Prod.mk.inj known
  have styles : ElementStyle.ofTree tree = [] := List.eq_nil_of_length_eq_zero none_
  refine ⟨tree, parsed, styles, ?_⟩
  rw [StyleStrategy.convertedTrees, styles]
  show Tree.RereadsTags (Tree.restyleAll o [] tree.children).1
  rw [Tree.restyleAll_nil]
  exact Tree.rereadsTags_of_respells respells

/-- A paragraph is linked and refused when it is converted again, if the name of the style sheet
numbers a character with too many digits. -/
theorem convert_convert_paragraph {digits : Nat} (long : mostDigits < digits)
    (separate : o.separateFile = true) (named : o.fileName = numberName digits)
    (k : StyleConverter) (plain : k.strategy = .plain) :
    ∃ converted, (k.convert o "<p>x</p>").1 = .ok converted ∧
      (k.convert o converted.markup).1 = .error (.number (.long digits)) := by
  obtain ⟨tree, parsed, styles, -⟩ := exists_parse_paragraph o
  have classed : StyleStrategy.plain.classing o (ElementStyle.ofTree tree) = ({}, none) := by
    rw [styles]
    rfl
  have unlinked : StyleStrategy.plain.unlinked o "<p>x</p>" tree = "<p>x</p>" := by
    rw [StyleStrategy.unlinked, classed]
    rfl
  have linked := StyleStrategy.linked_plain separate (m := "<p>x</p>") (by decide)
  have quoteless : '"' ∉ o.fileName.toList := named ▸ quote_not_mem_numberName digits
  have refused := StyleStrategy.parse_linkLine_of_refused
    (StyleStrategy.quote_not_mem_sheetName quoteless) (decodeValue_sheetName named long) "<p>x</p>"
  have first := StyleStrategy.result_convert_eq_ok.2 ⟨tree, {}, parsed, classed, rfl⟩
  refine ⟨_, ((k.convert_eq o _).1.trans (by rw [plain])).trans first, ?_⟩
  rw [(k.convert_eq o _).1, plain, unlinked, linked, StyleStrategy.convert, refused]

/-- One digit more than can be read keeps markup from being converted again. -/
theorem long_number_is_refused_again :
    let o : StyleOptions := { separateFile := true, fileName := numberName (mostDigits + 1) }
    let k : StyleConverter := { strategy := .plain }
    o.keepsInline = false ∧ '"' ∉ o.fileName.toList ∧
    (∃ tree, Tree.parse "<p>x</p>" = .ok tree ∧
      Tree.RereadsTags (StyleStrategy.plain.convertedTrees o tree)) ∧
    ∃ converted, (k.convert o "<p>x</p>").1 = .ok converted ∧
      (k.convert o converted.markup).1 = .error (.number (.long 4301)) := by
  intro o k
  obtain ⟨tree, parsed, -, rereads⟩ := exists_parse_paragraph o
  exact ⟨rfl, quote_not_mem_numberName _, ⟨tree, parsed, rereads⟩,
    convert_convert_paragraph (Nat.lt_succ_self mostDigits) rfl rfl k rfl⟩

end StyleConverter

end Componentry
