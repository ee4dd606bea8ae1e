import Componentry.Proofs.Outcome
import Componentry.Proofs.Stylesheet.Extraction

/-!
# Shared rules

With sharing, the first element that declares something makes the rule for all that declare the
same, in whatever order. So an element has a rule with the declarations that its own rule would
have; they stand in the order in which the first one declares them, which is the order of its own
rule exactly when both name their properties in the same order.
-/

set_option autoImplicit false

namespace Componentry
open Componentry.Text Componentry.Markup Componentry.Stylesheet

namespace Stylesheet

/-- Styles declare the same values for the same properties, in whatever order. -/
def ElementStyle.DeclaresAs (s t : ElementStyle) : Prop :=
  ∀ property, s.declared.get? property = t.declared.get? property

/-- The properties of a style in the order in which it declares them. -/
def ElementStyle.properties (s : ElementStyle) : List String := s.declared.entries.map Prod.fst

/-- Entries in another order are in the same one if their keys are. -/
theorem eq_of_perm_of_keys {l m : List (String × String)} (perm : l.Perm m)
    (distinct : (m.map Prod.fst).Nodup) (keys : l.map Prod.fst = m.map Prod.fst) : l = m := by
  refine List.ext_getElem perm.length_eq fun i hl hm => ?_
  have key : l[i].1 = m[i].1 := by
    have at_ := congrArg (·[i]?) keys
    simpa [hl, hm] using at_
  exact List.inj_on_of_nodup_map distinct (perm.mem_iff.1 (List.getElem_mem hl))
    (List.getElem_mem hm) key

/-- The declarations of a style are of its properties, in their order. -/
theorem ElementStyle.map_property_declarations (s : ElementStyle) :
    s.declarations.map Declaration.property = s.properties := by
  rw [declarations, List.map_map]
  rfl

/-- Styles that declare the same write it in the same order exactly when their properties stand in
the same order. -/
theorem ElementStyle.declarations_eq_iff {s t : ElementStyle}
    (perm : s.declared.entries.Perm t.declared.entries) :
    s.declarations = t.declarations ↔ s.properties = t.properties := by
  constructor
  · intro same
    rw [← s.map_property_declarations, ← t.map_property_declarations, same]
  · intro keys
    rw [declarations, declarations, eq_of_perm_of_keys perm t.declared.distinct keys]

end Stylesheet

namespace StyleStrategy

variable {s : StyleStrategy} {o : StyleOptions} {styles : List ElementStyle}
  {made : List (ElementStyle × String)} {c : Classing} {style : ElementStyle}

/-- A style is the first one with its key. -/
def IsFirst (styles : List ElementStyle) (first : ElementStyle) : Prop :=
  ∃ before behind, styles = before ++ first :: behind ∧ ∀ t ∈ before, keyOf t ≠ keyOf first

/-- The first style of its kind stays the first with one more behind. -/
theorem IsFirst.concat {first : ElementStyle} (h : IsFirst styles first) (style : ElementStyle) :
    IsFirst (styles ++ [style]) first := by
  obtain ⟨before, behind, rfl, others⟩ := h
  exact ⟨before, behind ++ [style], by rw [List.append_assoc, List.cons_append], others⟩

/-- A classing in which every rule was made for the first style with its key. -/
structure IsShared (s : StyleStrategy) (o : StyleOptions) (styles : List ElementStyle)
    (made : List (ElementStyle × String)) (c : Classing) : Prop
    extends IsClassed s o styles made c where
  first : ∀ m ∈ made, IsFirst styles m.1

/-- Where styles are shared, a key that is not remembered was not met before. -/
theorem IsClassed.key_ne_of_fresh (h : IsClassed s o styles made c) (shares : o.shares = true)
    (fresh : c.shared.get? (keyOf style) = none) : ∀ t ∈ styles, keyOf t ≠ keyOf style := by
  intro t ht same
  obtain ⟨i, hi, rfl⟩ := List.mem_iff_getElem.1 ht
  have hg : i < c.given.length := by rwa [← h.given.length_eq]
  obtain ⟨m, hm, -, key, -⟩ := (h.given.get hi hg).exists_made
  have remembered : (keyOf style, m.2) ∈ c.shared.entries := by
    rw [h.shared shares, ← same]
    exact List.mem_map.2 ⟨m, hm, by rw [key]; rfl⟩
  rw [Dict.get?_eq_some_iff_mem.2 remembered] at fresh
  cases fresh

/-- Giving one more style its class. -/
theorem IsShared.giveRule (shares : o.shares = true) (h : IsShared s o styles made c)
    (style : ElementStyle) :
    ∃ made', IsShared s o (styles ++ [style]) made' (s.giveRule o c style) := by
  rcases giveRule_cases s o c style with ⟨name, _, known, same⟩ | ⟨fresh, same⟩
  · rw [same]
    exact ⟨made, h.toIsClassed.remembered shares known, fun m hm => (h.first m hm).concat style⟩
  · rw [same]
    refine ⟨_, h.toIsClassed.ruled fresh, fun m hm => ?_⟩
    rcases List.mem_append.1 hm with old | new
    · exact (h.first m old).concat style
    · rw [List.mem_singleton.1 new]
      exact ⟨styles, [], rfl, h.toIsClassed.key_ne_of_fresh shares (fresh shares)⟩

/-- Classes are shared after any run of styles. -/
theorem IsShared.foldl (shares : o.shares = true) (h : IsShared s o styles made c)
    (rest : List ElementStyle) :
    ∃ made', IsShared s o (styles ++ rest) made' (rest.foldl (s.giveRule o) c) := by
  induction rest generalizing styles made c with
  | nil => exact ⟨made, by rwa [List.append_nil]⟩
  | cons style rest ih =>
    obtain ⟨made', next⟩ := h.giveRule shares style
    obtain ⟨made'', all⟩ := ih next
    rw [List.append_assoc, List.singleton_append] at all
    exact ⟨made'', all⟩

/-- The rules for styles are shared, where sharing is asked for. -/
theorem exists_isShared (s : StyleStrategy) {o : StyleOptions} (shares : o.shares = true)
    (styles : List ElementStyle) : ∃ made, IsShared s o styles made (s.rulesFor o styles) :=
  IsShared.foldl shares ⟨isClassed_nil s o, fun _ hm => absurd hm List.not_mem_nil⟩ styles

/-- The same options, with sharing or without. -/
def sharing (o : StyleOptions) (shares : Bool) : StyleOptions := { o with shares }

/-- What the rule of a style with sharing has to do with its own: it has the same declarations, as
the first style that declares the same writes them. -/
structure IsSharedRule (styles : List ElementStyle) (style : ElementStyle) (r own : Rule) :
    Prop where
  media : r.media = none ∧ own.media = none
  written : own.declarations = style.declarations
  same : r.declarations.Perm own.declarations
  first : ∃ before first behind, styles = before ++ first :: behind ∧ first.DeclaresAs style ∧
    (∀ t ∈ before, ¬ t.DeclaresAs style) ∧ r.declarations = first.declarations ∧
    (r.declarations = own.declarations ↔ first.properties = style.properties)

/-- A conversion by rules of markup that was read: it gives its classes and a sheet with its rules,
and every styled element has its class. -/
def IsConverted (s : StyleStrategy) (o : StyleOptions) (markup : String) (tree : Tree) : Prop :=
  let styles := ElementStyle.ofTree tree
  ∃ out, (s.convert o markup).result = .ok out ∧
    out.sheet = Stylesheet.write s.header (s.sharedValues o styles) (s.rulesFor o styles).rules ∧
    out.classes = classMap (s.rulesFor o styles).given ∧
    out.markup = s.linked o (if styles.isEmpty then markup
      else Tree.writeAll false (s.restyledTrees o tree))

/-- Conversions of the same markup with sharing and without: both succeed, with the same variables,
and each styled element has a class in both, with one rule in each. -/
structure IsSharing (s : StyleStrategy) (o : StyleOptions) (markup : String) (tree : Tree) :
    Prop where
  converted : ∀ shares, s.IsConverted (sharing o shares) markup tree
  values : ∀ shares, s.sharedValues (sharing o shares) (ElementStyle.ofTree tree) =
    s.sharedValues o (ElementStyle.ofTree tree)
  lengths : ∀ shares, (s.rulesFor (sharing o shares) (ElementStyle.ofTree tree)).given.length =
    (ElementStyle.ofTree tree).length
  rules : ∀ (i : Nat) (style : ElementStyle), (ElementStyle.ofTree tree)[i]? = some style →
    let shared := s.rulesFor (sharing o true) (ElementStyle.ofTree tree)
    let apart := s.rulesFor (sharing o false) (ElementStyle.ofTree tree)
    ∃ name name' r own, shared.given[i]? = some name ∧ apart.given[i]? = some name' ∧
      rulesOf shared.rules name = [r] ∧ rulesOf apart.rules name' = [own] ∧
      IsSharedRule (ElementStyle.ofTree tree) style r own

/-- Styles that were read have the same key exactly when they declare the same. -/
theorem keyOf_eq_iff {a b : ElementStyle} (ha : a.IsRead) (hb : b.IsRead) :
    keyOf a = keyOf b ↔ a.DeclaresAs b := by
  rw [ElementStyle.DeclaresAs, ← Dict.perm_entries_iff, ← ElementStyle.declarationKey_eq_iff ha hb]
  rfl

/-- The rule that was made for the first style with a key, beside the one for a style with the same
key. -/
theorem isSharedRule_ruleFor {first : ElementStyle} {name name' : String}
    (read : ∀ style ∈ styles, style.IsRead) (hs : style ∈ styles) (isFirst : IsFirst styles first)
    (key : keyOf first = keyOf style) :
    IsSharedRule styles style (ruleFor (first, name)) (ruleFor (style, name')) := by
  obtain ⟨before, behind, whole, others⟩ := isFirst
  have readFirst : first.IsRead := read first (by
    rw [whole]
    exact List.mem_append_right _ List.mem_cons_self)
  have perm : first.declared.entries.Perm style.declared.entries :=
    (ElementStyle.declarationKey_eq_iff readFirst (read style hs)).1 key
  refine ⟨⟨rfl, rfl⟩, rfl, perm.map _, before, first, behind, whole,
    (keyOf_eq_iff readFirst (read style hs)).1 key, fun t ht same => ?_, rfl,
    ElementStyle.declarations_eq_iff perm⟩
  have readOther : t.IsRead := read t (by
    rw [whole]
    exact List.mem_append_left _ ht)
  refine others t ht ?_
  rw [key]
  exact (keyOf_eq_iff readOther (read style hs)).2 same

/-- Sharing in markup that was read. -/
theorem isSharing_of_parse (plain : s ≠ .utility) (o : StyleOptions) {markup : String} {tree : Tree}
    (parsed : Tree.parse markup = .ok tree) : s.IsSharing o markup tree := by
  have read : ∀ style ∈ ElementStyle.ofTree tree, style.IsRead :=
    fun style hs => ElementStyle.isRead_of_mem_ofTree hs
  obtain ⟨made, shared⟩ := exists_isShared s (o := sharing o true) rfl (ElementStyle.ofTree tree)
  obtain ⟨made', apart⟩ := exists_isClassed s (sharing o false) (ElementStyle.ofTree tree)
  refine ⟨fun shares => ?_, fun _ => rfl, fun shares => ?_, fun i style hi => ?_⟩
  · have same : s.convert (sharing o shares) markup =
        s.convertTree (sharing o shares) markup tree := by rw [convert, parsed]
    rw [IsConverted, same]
    exact exists_convertTree_eq_ok plain _ markup tree
  · cases shares with
    | true => exact shared.given.length_eq.symm
    | false => exact apart.given.length_eq.symm
  · obtain ⟨hs, rfl⟩ := List.getElem?_eq_some_iff.1 hi
    have hg := hs
    have hg' := hs
    rw [shared.given.length_eq] at hg
    rw [apart.given.length_eq] at hg'
    -- With sharing the rule is that of the first style with the key, without it that of the style
    -- itself.
    obtain ⟨m, hm, named, key, -⟩ := (shared.given.get hs hg).exists_made
    obtain ⟨m', hm', named', -, own⟩ := (apart.given.get hs hg').exists_made
    have own : m'.1 = (ElementStyle.ofTree tree)[i] := own rfl
    refine ⟨m.2, m'.2, ruleFor m, ruleFor m', ?_, ?_, shared.toIsClassed.rulesOf_eq hm,
      apart.rulesOf_eq hm', ?_⟩
    · rw [named]
      exact List.getElem?_eq_getElem hg
    · rw [named']
      exact List.getElem?_eq_getElem hg'
    · obtain ⟨style', name'⟩ := m'
      obtain rfl : style' = (ElementStyle.ofTree tree)[i] := own
      exact isSharedRule_ruleFor read (List.getElem_mem hs) (shared.first m hm) key

/-- A text that is no markup is refused as such, with sharing or without. Of any other each styled
element has, with sharing, a rule with the declarations of its own rule; they stand in the order of
the first element that declares the same. -/
theorem sharing_keeps_declarations (s : StyleStrategy) (o : StyleOptions) (plain : s ≠ .utility)
    (markup : String) :
    (∀ fault, Tree.parse markup = .error fault → ∀ shares,
      (s.convert (sharing o shares) markup).result = .error fault) ∧
    ∀ tree, Tree.parse markup = .ok tree → s.IsSharing o markup tree := by
  refine ⟨fun fault refused shares => ?_, fun tree parsed => isSharing_of_parse plain o parsed⟩
  rw [convert, refused]

/-- A paragraph, and another one that declares the same in another order. -/
def twoMargins : String := "<p style=\"margin: 0; margin-left: 1px\">a</p>" ++
  "<p style=\"margin-left: 1px; margin: 0\">b</p>"

/-- Two paragraphs with the same margins in another order. -/
theorem sharing_of_twoMargins : ∃ tree, Tree.parse twoMargins = .ok tree ∧
    (ElementStyle.ofTree tree).map ElementStyle.properties =
      [["margin", "margin-left"], ["margin-left", "margin"]] ∧
    StyleStrategy.plain.IsSharing {} twoMargins tree := by
  have known : (Tree.parse twoMargins).toOption.map
      (fun tree => (ElementStyle.ofTree tree).map ElementStyle.properties) =
        some [["margin", "margin-left"], ["margin-left", "margin"]] := by decide +kernel
  obtain ⟨tree, parsed, known⟩ := exists_ok_of_toOption_map known
  exact ⟨tree, parsed, known,
    (sharing_keeps_declarations .plain {} (by decide) twoMargins).2 tree parsed⟩

/-- The second paragraph has its own order in a rule of its own, and that of the first one with
sharing. -/
theorem shared_rule_has_first_order : ∃ tree, Tree.parse twoMargins = .ok tree ∧
    let shared := StyleStrategy.plain.rulesFor (sharing {} true) (ElementStyle.ofTree tree)
    let apart := StyleStrategy.plain.rulesFor (sharing {} false) (ElementStyle.ofTree tree)
    ∃ name name' r own, shared.given[1]? = some name ∧ apart.given[1]? = some name' ∧
      rulesOf shared.rules name = [r] ∧ rulesOf apart.rules name' = [own] ∧
      r.declarations.map Declaration.property = ["margin", "margin-left"] ∧
      own.declarations.map Declaration.property = ["margin-left", "margin"] := by
  have known : (Tree.parse twoMargins).toOption.map
      (fun tree => (ElementStyle.ofTree tree).map fun style => style.declared.entries) =
        some [[("margin", "0"), ("margin-left", "1px")],
          [("margin-left", "1px"), ("margin", "0")]] := by decide +kernel
  obtain ⟨tree, parsed, known⟩ := exists_ok_of_toOption_map known
  have sharing := isSharing_of_parse (s := .plain) (by decide) {} parsed
  have two := congrArg List.length known
  rw [List.length_map] at two
  obtain ⟨a, b, styles⟩ := List.length_eq_two.1 two
  rw [styles, List.map_cons, List.map_singleton, List.cons.injEq, List.cons.injEq] at known
  obtain ⟨ofA, ofB, -⟩ := known
  have alike : a.DeclaresAs b := by
    rw [ElementStyle.DeclaresAs, ← Dict.perm_entries_iff, ofA, ofB]
    exact List.Perm.swap _ _ _
  obtain ⟨name, name', r, own, given, given', one, one', rule⟩ :=
    sharing.rules 1 b (by rw [styles]; rfl)
  obtain ⟨before, first, behind, whole, -, others, written, -⟩ := rule.first
  have start : first = a := by
    rw [styles] at whole
    cases before with
    | nil => exact (List.cons.inj whole).1.symm
    | cons t before =>
      obtain ⟨rfl, -⟩ := List.cons.inj whole
      exact absurd alike (others _ List.mem_cons_self)
  refine ⟨tree, parsed, name, name', r, own, given, given', one, one', ?_, ?_⟩
  · rw [written, start, ElementStyle.map_property_declarations, ElementStyle.properties, ofA]
    rfl
  · rw [rule.written, ElementStyle.map_property_declarations, ElementStyle.properties, ofB]
    rfl

end StyleStrategy
end Componentry
