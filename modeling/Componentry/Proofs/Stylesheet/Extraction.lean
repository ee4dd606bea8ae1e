import Componentry.Proofs.Lists
import Componentry.Proofs.Stylesheet.Restyled
import Componentry.Proofs.Stylesheet.Steps

/-!
# Inline styles taken out

A conversion by rules gives every styled element a class with exactly one rule. Without sharing all
classes differ; with sharing they are the same exactly where the same is declared. The body of the
rule is read as the declarations of the element, in their order unless rules are shared, exactly
when no value holds the mark of an important one after its marks are taken out: the marks are taken
out once, from left to right, and what then stands together may be a mark again.
-/

set_option autoImplicit false

namespace Componentry
open Componentry.Text Componentry.Markup Componentry.Stylesheet

namespace Stylesheet

/-- The rules for a class. -/
def rulesOf (rules : List Rule) (name : String) : List Rule :=
  rules.filter fun r => r.selectors.contains ("." ++ name)

/-- The style of a tag was read from its attribute. -/
theorem ElementStyle.isRead_of_ofTag? {tag : Tag} {s : ElementStyle} (h : ofTag? tag = some s) :
    s.IsRead := by
  unfold ofTag? at h
  obtain ⟨style, -, found⟩ := Option.bind_eq_some_iff.1 h
  simp only at found
  split at found
  · cases found
  · next some_ =>
    cases found
    refine ⟨?_, fun e he => isDeclared_of_mem_declarations he⟩
    simpa [Dict.isEmpty] using some_

/-- The styles of a tree were read from its attributes. -/
theorem ElementStyle.isRead_of_mem_ofTree {tree : Tree} {s : ElementStyle} (h : s ∈ ofTree tree) :
    s.IsRead := by
  obtain ⟨tag, -, found⟩ := List.mem_filterMap.1 h
  exact isRead_of_ofTag? found

end Stylesheet

/-- How the styles of a tree are taken out: its elements are restyled one after the other, each
styled one with a class that has one rule, and classes are shared as they should be. -/
structure IsExtraction (o : StyleOptions) (tree : Tree) (trees : List Tree) (c : Classing) :
    Prop where
  restyles : Restyles o (Tree.tagsIn tree.children) c.given (Tree.tagsIn trees)
  ruled : List.Forall₂ (fun _ name => ∃ r, rulesOf c.rules name = [r]) (ElementStyle.ofTree tree)
    c.given
  selectors : (c.rules.flatMap Rule.selectors).Nodup
  own : o.shares = false → c.given.Nodup
  shared : o.shares = true → ∀ p ∈ (ElementStyle.ofTree tree).zip c.given,
    ∀ q ∈ (ElementStyle.ofTree tree).zip c.given,
      p.2 = q.2 ↔ ∀ property, p.1.declared.get? property = q.1.declared.get? property

/-- The rule of a class is read as a style: the same properties with the same values and marks, in
the same order unless rules are shared. -/
def ReadsBack (o : StyleOptions) (sharedValues : Dict String) (rules : List Rule)
    (style : ElementStyle) (name : String) : Prop :=
  ∃ r, rulesOf rules name = [r] ∧
    if o.shares then
      (valuesOf (declarations (r.body sharedValues))).Perm (valuesOf style.declared)
    else valuesOf (declarations (r.body sharedValues)) = valuesOf style.declared

namespace StyleStrategy

variable {s : StyleStrategy} {o : StyleOptions} {styles : List ElementStyle}
  {made : List (ElementStyle × String)} {c : Classing}

/-- Without variables no value is shared. -/
theorem sharedValues_eq_empty (unused : o.usesVariables = false) :
    s.sharedValues o styles = Dict.empty := by
  simp [sharedValues, unused]

/-! ## Rules and classes -/

/-- A name that was made selects one rule, that of its style. -/
theorem IsClassed.rulesOf_eq (h : IsClassed s o styles made c) {m : ElementStyle × String}
    (hm : m ∈ made) : rulesOf c.rules m.2 = [ruleFor m] := by
  have asked : ∀ k : ElementStyle × String,
      (ruleFor k).selectors.contains ("." ++ m.2) = (k.2 == m.2) := by
    intro k
    rw [Bool.eq_iff_iff, List.contains_iff_mem, beq_iff_eq]
    simp only [ruleFor, List.mem_singleton, String.append_right_inj]
    exact eq_comm
  have one := Lists.filter_of_nodup_keys h.nodup hm
  rw [rulesOf, h.rules, List.filter_map]
  simp only [Function.comp_def, asked, one, List.map_singleton]

/-- No two selectors of the rules are the same. -/
theorem IsClassed.nodup_selectors (h : IsClassed s o styles made c) :
    (c.rules.flatMap Rule.selectors).Nodup := by
  have names : c.rules.flatMap Rule.selectors = (made.map Prod.snd).map ("." ++ ·) := by
    rw [h.rules, List.flatMap_map, List.map_map]
    exact List.flatMap_pure_eq_map _ made
  rw [names]
  exact h.nodup.map fun a b same => (String.append_right_inj ".").1 same

/-- A name was made for one style only. -/
theorem IsClassed.eq_of_name_eq (h : IsClassed s o styles made c) {m n : ElementStyle × String}
    (hm : m ∈ made) (hn : n ∈ made) (same : m.2 = n.2) : m = n :=
  List.inj_on_of_nodup_map h.nodup hm hn same

/-- With sharing no two rules are made for one key. -/
theorem IsClassed.eq_of_key_eq (h : IsClassed s o styles made c) (shares : o.shares = true)
    {m n : ElementStyle × String} (hm : m ∈ made) (hn : n ∈ made) (same : keyOf m.1 = keyOf n.1) :
    m = n := by
  have keys := c.shared.distinct
  rw [h.shared shares, List.map_map] at keys
  exact List.inj_on_of_nodup_map keys hm hn same

variable (read : ∀ style ∈ styles, style.IsRead)

include read in
/-- With sharing styles have the same class exactly when they declare the same. -/
theorem IsClassed.name_eq_iff (h : IsClassed s o styles made c) (shares : o.shares = true)
    {a b : ElementStyle} {x y : String} (ha : a ∈ styles) (hb : b ∈ styles)
    (hx : IsGiven o made a x) (hy : IsGiven o made b y) :
    x = y ↔ ∀ property, a.declared.get? property = b.declared.get? property := by
  obtain ⟨m, hm, rfl, key, -⟩ := hx.exists_made
  obtain ⟨n, hn, rfl, key', -⟩ := hy.exists_made
  rw [← Dict.perm_entries_iff, ← ElementStyle.declarationKey_eq_iff (read a ha) (read b hb)]
  constructor
  · intro same
    have one : m = n := h.eq_of_name_eq hm hn same
    have keys : keyOf a = keyOf b := by rw [← key, ← key', one]
    exact keys
  · intro keys
    have same : keyOf m.1 = keyOf n.1 := by
      rw [key, key']
      exact keys
    rw [h.eq_of_key_eq shares hm hn same]

include read in
/-- The rule that a style is given is read as the style exactly when the style keeps its marks. -/
theorem IsClassed.readsBack_iff (h : IsClassed s o styles made c) {a : ElementStyle} {x : String}
    (ha : a ∈ styles) (hx : IsGiven o made a x) :
    ReadsBack o Dict.empty c.rules a x ↔ a.KeepsMarks := by
  obtain ⟨m, hm, rfl, key, own⟩ := hx.exists_made
  have readMade : m.1.IsRead := read m.1 (h.from_ m hm)
  have rule := isRuleOf_ruleFor m
  unfold ReadsBack
  simp only [h.rulesOf_eq hm, List.cons.injEq, and_true, exists_eq_left']
  -- An element of its own rule has the very declarations; one that shares has them in another
  -- order.
  cases shares : o.shares with
  | false =>
    have same := own shares
    rw [same] at readMade rule
    simp only [Bool.false_eq_true, if_false]
    constructor
    · intro equal
      exact ElementStyle.keepsMarks_of_perm readMade rule (List.Perm.of_eq equal)
    · exact ElementStyle.valuesOf_eq_of_keepsMarks readMade rule
  | true =>
    have perm : m.1.declared.entries.Perm a.declared.entries :=
      (ElementStyle.declarationKey_eq_iff readMade (read a ha)).1 key
    simp only [if_true]
    constructor
    · intro values
      have kept := ElementStyle.keepsMarks_of_perm readMade rule
        (values.trans (ElementStyle.valuesOf_perm perm).symm)
      exact kept.of_perm perm
    · intro kept
      rw [ElementStyle.valuesOf_eq_of_keepsMarks readMade rule (kept.of_perm perm.symm)]
      exact ElementStyle.valuesOf_perm perm

/-- Every name that is given is a base with a number. -/
theorem IsClassed.exists_numbered (h : IsClassed s o styles made c) : ∀ name ∈ c.given,
    ∃ (style : ElementStyle) (n : Nat), name = s.numbered (s.baseOf o style) n := by
  intro name mem
  obtain ⟨i, hi, rfl⟩ := List.mem_iff_getElem.1 mem
  have hs : i < styles.length := by rwa [h.given.length_eq]
  obtain ⟨m, hm, named, -⟩ := (h.given.get hs hi).exists_made
  obtain ⟨n, -, number⟩ := h.numbers m hm
  exact ⟨m.1, n, named.symm.trans number⟩

/-- The given names are words, where what they start with has no blank. -/
theorem IsClassed.isWord (h : IsClassed s o styles made c)
    (solid : ∀ d ∈ o.classStart.toList, isBlank d = false) : ∀ name ∈ c.given, IsWord name := by
  intro name mem
  obtain ⟨style, n, rfl⟩ := h.exists_numbered name mem
  exact isWord_numbered solid _ _ n

/-- No given name is empty. -/
theorem IsClassed.ne_empty (h : IsClassed s o styles made c) : ∀ name ∈ c.given, name ≠ "" := by
  intro name mem
  obtain ⟨style, n, rfl⟩ := h.exists_numbered name mem
  exact numbered_baseClass_ne_empty s o _ _ n

/-! ## Conversion -/

/-- The trees that a conversion by rules leaves. -/
def restyledTrees (s : StyleStrategy) (o : StyleOptions) (tree : Tree) : List Tree :=
  (Tree.restyleAll o (s.rulesFor o (ElementStyle.ofTree tree)).given tree.children).1

/-- The rules and names that are made for a tree are an extraction of its styles. -/
theorem isExtraction_rulesFor (s : StyleStrategy) (o : StyleOptions)
    (solid : ∀ d ∈ o.classStart.toList, isBlank d = false) (tree : Tree) :
    IsExtraction o tree (s.restyledTrees o tree) (s.rulesFor o (ElementStyle.ofTree tree)) := by
  obtain ⟨made, h⟩ := exists_isClassed s o (ElementStyle.ofTree tree)
  have read : ∀ style ∈ ElementStyle.ofTree tree, style.IsRead :=
    fun style hs => ElementStyle.isRead_of_mem_ofTree hs
  refine ⟨?_, ?_, h.nodup_selectors, ?_, ?_⟩
  · exact (Tree.restyledBy_restyleAll h.given.length_eq).restyles (h.isWord solid)
  · refine h.given.imp fun style name given => ?_
    obtain ⟨m, hm, rfl, -⟩ := given.exists_made
    exact ⟨_, h.rulesOf_eq hm⟩
  · intro own
    rw [← h.own own]
    exact h.nodup
  · rintro shares ⟨a, x⟩ hp ⟨b, y⟩ hq
    exact h.name_eq_iff read shares (List.of_mem_zip hp).1 (List.of_mem_zip hq).1
      (List.forall₂_zip h.given hp) (List.forall₂_zip h.given hq)

/-- All styles of a tree are read back just when each of them keeps its marks. -/
theorem forall₂_readsBack_iff (s : StyleStrategy) (o : StyleOptions) (tree : Tree) :
    List.Forall₂ (ReadsBack o Dict.empty (s.rulesFor o (ElementStyle.ofTree tree)).rules)
        (ElementStyle.ofTree tree) (s.rulesFor o (ElementStyle.ofTree tree)).given ↔
      ∀ style ∈ ElementStyle.ofTree tree, style.KeepsMarks := by
  obtain ⟨made, h⟩ := exists_isClassed s o (ElementStyle.ofTree tree)
  refine Lists.forall₂_iff_forall_mem h.given fun a ha x hx => ?_
  exact h.readsBack_iff (fun style hs => ElementStyle.isRead_of_mem_ofTree hs) ha hx

/-- Names that are not empty all stand in the map of classes. -/
theorem isEmpty_classMap {given : List String} (some_ : ∀ name ∈ given, name ≠ "") :
    (classMap given).isEmpty = given.isEmpty := by
  rw [Bool.eq_iff_iff, isEmpty_classMap_iff, List.isEmpty_iff, List.eq_nil_iff_forall_not_mem]
  exact ⟨fun none_ name mem => some_ name mem (none_ name mem),
    fun none_ name mem => absurd mem (none_ name)⟩

/-- A conversion by rules succeeds: it gives its classes and a sheet with its rules, and its markup
is that of the restyled trees, or the old one where nothing is styled. -/
theorem exists_convertTree_eq_ok (plain : s ≠ .utility) (o : StyleOptions) (markup : String)
    (tree : Tree) : ∃ out, (s.convertTree o markup tree).result = .ok out ∧
      out.sheet = Stylesheet.write s.header (s.sharedValues o (ElementStyle.ofTree tree))
        (s.rulesFor o (ElementStyle.ofTree tree)).rules ∧
      out.classes = classMap (s.rulesFor o (ElementStyle.ofTree tree)).given ∧
      out.markup = s.linked o (if (ElementStyle.ofTree tree).isEmpty then markup
        else Tree.writeAll false (s.restyledTrees o tree)) := by
  obtain ⟨made, h⟩ := exists_isClassed s o (ElementStyle.ofTree tree)
  -- The two strategies with rules are the same but for their headers and names.
  have classing : s.classing o (ElementStyle.ofTree tree) =
      (s.rulesFor o (ElementStyle.ofTree tree), none) := by
    cases s
    · rfl
    · exact absurd rfl plain
    · rfl
  have sheet : s.sheet o (ElementStyle.ofTree tree) = Stylesheet.write s.header
      (s.sharedValues o (ElementStyle.ofTree tree))
      (s.rulesFor o (ElementStyle.ofTree tree)).rules := by
    cases s
    · rfl
    · exact absurd rfl plain
    · rfl
  have styled : (classMap (s.rulesFor o (ElementStyle.ofTree tree)).given).isEmpty =
      (ElementStyle.ofTree tree).isEmpty := by
    rw [isEmpty_classMap h.ne_empty, Bool.eq_iff_iff, List.isEmpty_iff_length_eq_zero,
      List.isEmpty_iff_length_eq_zero, h.given.length_eq]
  unfold convertTree
  simp only [classing, styled]
  exact ⟨_, rfl, sheet, rfl, rfl⟩

/-- A text that is no markup is refused as such. Any other is converted: each element that declares
a style gets a class with one rule, classes are shared as they should be, and everything is read
back from the rules exactly when no value holds the mark of an important one after its marks are
taken out. -/
theorem extraction_readsBack_iff (s : StyleStrategy) (o : StyleOptions) (plain : s ≠ .utility)
    (unused : o.usesVariables = false) (solid : ∀ d ∈ o.classStart.toList, isBlank d = false)
    (markup : String) :
    (∀ fault, Tree.parse markup = .error fault → (s.convert o markup).result = .error fault) ∧
    ∀ tree, Tree.parse markup = .ok tree →
      let styles := ElementStyle.ofTree tree
      let c := s.rulesFor o styles
      let trees := s.restyledTrees o tree
      (∃ out, (s.convert o markup).result = .ok out ∧
        out.sheet = Stylesheet.write s.header (s.sharedValues o styles) c.rules ∧
        out.markup = s.linked o (if styles.isEmpty then markup else Tree.writeAll false trees)) ∧
      IsExtraction o tree trees c ∧
      (List.Forall₂ (ReadsBack o (s.sharedValues o styles) c.rules) styles c.given ↔
        ∀ style ∈ styles, style.KeepsMarks) := by
  constructor
  · intro fault refused
    rw [convert, refused]
  · intro tree parsed
    obtain ⟨out, converted, sheet, -, text⟩ := exists_convertTree_eq_ok plain o markup tree
    have same : s.convert o markup = s.convertTree o markup tree := by rw [convert, parsed]
    rw [← same] at converted
    refine ⟨⟨out, converted, sheet, text⟩, isExtraction_rulesFor s o solid tree, ?_⟩
    rw [sharedValues_eq_empty unused]
    exact forall₂_readsBack_iff s o tree

/-- Two elements that declare the same in another order share a rule, behind a class that the first
one has already. -/
theorem extraction_readsBack_shared :
    ∃ tree, Tree.parse
        "<p style=\"a: 1; b: 2\" class=\"x\">y</p><i style=\"b: 2; a: 1\">z</i>" = .ok tree ∧
      let o : StyleOptions := { shares := true, classStart := "x" }
      let styles := ElementStyle.ofTree tree
      styles.map (fun style => style.declared.entries) =
        [[("a", "1"), ("b", "2")], [("b", "2"), ("a", "1")]] ∧
      IsExtraction o tree (StyleStrategy.scoped.restyledTrees o tree)
        (StyleStrategy.scoped.rulesFor o styles) ∧
      List.Forall₂ (ReadsBack o (StyleStrategy.scoped.sharedValues o styles)
        (StyleStrategy.scoped.rulesFor o styles).rules) styles
          (StyleStrategy.scoped.rulesFor o styles).given := by
  have known : (Tree.parse
      "<p style=\"a: 1; b: 2\" class=\"x\">y</p><i style=\"b: 2; a: 1\">z</i>").toOption.map
        (fun tree => (ElementStyle.ofTree tree).map fun style => style.declared.entries) =
          some [[("a", "1"), ("b", "2")], [("b", "2"), ("a", "1")]] := by decide +kernel
  have closed := extraction_readsBack_iff .scoped { shares := true, classStart := "x" } (by decide)
    rfl (Lists.forall_mem_of_all (by decide))
    "<p style=\"a: 1; b: 2\" class=\"x\">y</p><i style=\"b: 2; a: 1\">z</i>"
  cases parsed : Tree.parse
      "<p style=\"a: 1; b: 2\" class=\"x\">y</p><i style=\"b: 2; a: 1\">z</i>" with
  | error fault =>
    rw [parsed] at known
    cases known
  | ok tree =>
    rw [parsed] at known
    obtain ⟨-, extraction, back⟩ := closed.2 tree parsed
    have entries : (ElementStyle.ofTree tree).map (fun style => style.declared.entries) =
        [[("a", "1"), ("b", "2")], [("b", "2"), ("a", "1")]] := Option.some.inj known
    refine ⟨tree, rfl, entries, extraction, back.2 fun style hs e he => ?_⟩
    have plain : ∀ l ∈ [[("a", "1"), ("b", "2")], [("b", "2"), ("a", "1")]], ∀ e ∈ l,
        contains (splitImportant e.2).1 importantMark = false := by decide +kernel
    rw [← entries] at plain
    exact plain _ (List.mem_map_of_mem hs) e he

/-- A mark within a mark is left when the marks are taken out, and lost when the rule is read. -/
theorem mark_within_mark_is_lost :
    ∃ tree, Tree.parse "<p style=\"color: !imp!importantortant\">x</p>" = .ok tree ∧
      (ElementStyle.ofTree tree).map (fun style => valuesOf style.declared) =
        [[("color", "!important", true)]] ∧
      (StyleStrategy.plain.rulesFor {} (ElementStyle.ofTree tree)).rules.map
        (fun r => valuesOf (declarations (r.body Dict.empty))) = [[("color", "", true)]] ∧
      ¬ List.Forall₂ (ReadsBack {} (StyleStrategy.plain.sharedValues {} (ElementStyle.ofTree tree))
          (StyleStrategy.plain.rulesFor {} (ElementStyle.ofTree tree)).rules)
        (ElementStyle.ofTree tree)
        (StyleStrategy.plain.rulesFor {} (ElementStyle.ofTree tree)).given := by
  have known : (Tree.parse "<p style=\"color: !imp!importantortant\">x</p>").toOption.map
      (fun tree => (ElementStyle.ofTree tree).map fun style => style.declared.entries) =
        some [[("color", "!imp!importantortant")]] := by decide +kernel
  have read : (Tree.parse "<p style=\"color: !imp!importantortant\">x</p>").toOption.map
      (fun tree => (StyleStrategy.plain.rulesFor {} (ElementStyle.ofTree tree)).rules.map
        fun r => valuesOf (declarations (r.body Dict.empty))) = some [[("color", "", true)]] := by
    decide +kernel
  cases parsed : Tree.parse "<p style=\"color: !imp!importantortant\">x</p>" with
  | error fault =>
    rw [parsed] at known
    cases known
  | ok tree =>
    rw [parsed] at known read
    have entries : (ElementStyle.ofTree tree).map (fun style => style.declared.entries) =
        [[("color", "!imp!importantortant")]] := Option.some.inj known
    have value : splitImportant "!imp!importantortant" = ("!important", true) := by decide +kernel
    cases found : ElementStyle.ofTree tree with
    | nil =>
      rw [found] at entries
      cases entries
    | cons style rest =>
      rw [found, List.map_cons, List.cons.injEq, List.map_eq_nil_iff] at entries
      obtain ⟨entries, rfl⟩ := entries
      refine ⟨tree, rfl, ?_, ?_, fun back => ?_⟩
      · rw [found, List.map_singleton, valuesOf, entries, List.map_singleton, value]
      · exact Option.some.inj read
      · rw [sharedValues_eq_empty rfl, forall₂_readsBack_iff, found] at back
        have kept := back style (List.mem_singleton_self style)
          ("color", "!imp!importantortant") (by rw [entries]; exact List.mem_singleton_self _)
        rw [value] at kept
        exact absurd kept (by decide)

end StyleStrategy
end Componentry
