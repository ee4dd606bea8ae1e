import Componentry.Proofs.Dict
import Componentry.Proofs.Stylesheet.Classing
import Componentry.Proofs.Stylesheet.Utility
import Componentry.Stylesheet.Converter

/-!
# Converters give classes

A converter gives a style its classes on top of what it holds: a rule that is shared, a rule of its
own, or utility classes. Where it holds what a classing has, it holds afterwards what the classing
has with one more style, and counts the same; a style that is refused changes nothing.
-/

set_option autoImplicit false

namespace Componentry
open Componentry.Text Componentry.Stylesheet

/-! ## Classes by the number of the element -/

namespace StyleStrategy

/-- The key of the element with a place among the styled ones. -/
def elementKey (i : Nat) : String := "el-" ++ natText (i + 1)

/-- The keys of elements tell their numbers apart. -/
theorem elementKey_inj {i j : Nat} : elementKey i = elementKey j ↔ i = j := by
  rw [elementKey, elementKey, String.append_right_inj, natText_inj, Nat.add_right_cancel_iff]

/-- The classes given to styled elements stand in their order. -/
theorem entries_classMap (given : List String) : (classMap given).entries =
    (given.zipIdx.filter fun p => p.1 != "").map fun p => (elementKey p.2, p.1) := by
  refine Dict.entries_ofList ?_
  rw [List.map_map]
  have places : (given.zipIdx.map Prod.snd).Nodup := by
    rw [List.zipIdx_map_snd]
    exact List.nodup_range'
  have kept : ((given.zipIdx.filter fun p => p.1 != "").map Prod.snd).Nodup :=
    places.sublist (List.filter_sublist.map Prod.snd)
  have keys := kept.map (f := elementKey) fun _ _ => elementKey_inj.1
  rwa [List.map_map] at keys

/-- One more styled element has an entry if it is given any class. -/
theorem entries_classMap_concat (given : List String) (name : String) :
    (classMap (given ++ [name])).entries = (classMap given).entries ++
      if name == "" then [] else [(elementKey given.length, name)] := by
  rw [entries_classMap, entries_classMap, List.zipIdx_append, List.filter_append, List.map_append,
    Nat.zero_add]
  refine congrArg (_ ++ ·) ?_
  by_cases empty : name = "" <;> simp [empty]

/-- The next element is not in the map of classes yet. -/
theorem elementKey_not_mem_classMap (given : List String) :
    elementKey given.length ∉ (classMap given).entries.map Prod.fst := by
  intro mem
  rw [entries_classMap, List.map_map] at mem
  obtain ⟨p, hp, same⟩ := List.mem_map.1 mem
  have place := List.snd_lt_of_mem_zipIdx (List.mem_of_mem_filter hp)
  have same : p.2 = given.length := elementKey_inj.1 same
  omega

/-- One more styled element has the next number. -/
theorem classMap_concat {given : List String} {name : String} (some_ : ¬ (name == "") = true) :
    classMap (given ++ [name]) = (classMap given).put (elementKey given.length) name := by
  refine Dict.ext_entries ?_
  rw [entries_classMap_concat, if_neg some_]
  exact (Dict.putEntry_of_not_mem (elementKey_not_mem_classMap given)).symm

/-- An element without a class leaves the map as it is. -/
theorem classMap_concat_empty {given : List String} {name : String} (empty : (name == "") = true) :
    classMap (given ++ [name]) = classMap given := by
  refine Dict.ext_entries ?_
  rw [entries_classMap_concat, if_pos empty, List.append_nil]

/-- No element has a class in the map exactly if each is given nothing. -/
theorem isEmpty_classMap_iff {given : List String} :
    (classMap given).isEmpty = true ↔ ∀ name ∈ given, name = "" := by
  rw [Dict.isEmpty, List.isEmpty_iff, entries_classMap, List.map_eq_nil_iff,
    List.filter_eq_nil_iff]
  constructor
  · intro none_ name mem
    rw [← List.zipIdx_map_fst 0 given] at mem
    obtain ⟨p, hp, rfl⟩ := List.mem_map.1 mem
    simpa using none_ p hp
  · intro none_ p hp
    simpa using none_ p.1 (List.fst_mem_of_mem_zipIdx hp)

end StyleStrategy

/-! ## Steps of a classing -/

variable {s : StyleStrategy} {o : StyleOptions} {c c' : Classing} {style : ElementStyle}

namespace StyleStrategy

/-- Gives one more style its classes. -/
def giveOne (s : StyleStrategy) (o : StyleOptions) (c : Classing) (style : ElementStyle) :
    Except Fault Classing :=
  match s with
  | .utility => giveUtilities c style
  | .scoped | .plain => .ok (s.giveRule o c style)

/-- Gives more styles their classes, up to the first that is refused. -/
def giveAll (s : StyleStrategy) (o : StyleOptions) (c : Classing) :
    List ElementStyle → Classing × Option Fault
  | [] => (c, none)
  | style :: rest =>
    match s.giveOne o c style with
    | .ok c => giveAll s o c rest
    | .error fault => (c, some fault)

/-- A strategy with rules gives every element a rule. -/
theorem giveOne_of_ruled (ruled : s ≠ .utility) (o : StyleOptions) (c : Classing)
    (style : ElementStyle) : s.giveOne o c style = .ok (s.giveRule o c style) := by
  match s, ruled with
  | .scoped, _ => rfl
  | .plain, _ => rfl

/-- The strategy of utilities gives them to all elements. -/
theorem giveAll_utility (o : StyleOptions) : ∀ (styles : List ElementStyle) (c : Classing),
    giveAll .utility o c styles = giveAllUtilities c styles
  | [], _ => rfl
  | style :: rest, c => by
    rw [giveAll, giveAllUtilities, giveOne]
    cases giveUtilities c style with
    | ok c' => exact giveAll_utility o rest c'
    | error fault => rfl

/-- A strategy with rules gives a rule to all elements, and none is refused. -/
theorem giveAll_of_ruled (ruled : s ≠ .utility) (o : StyleOptions) :
    ∀ (styles : List ElementStyle) (c : Classing),
      s.giveAll o c styles = (styles.foldl (s.giveRule o) c, none)
  | [], _ => rfl
  | style :: rest, c => by
    rw [giveAll, giveOne_of_ruled ruled]
    exact giveAll_of_ruled ruled o rest _

/-- A classing is made one style after the other. -/
theorem classing_eq (s : StyleStrategy) (o : StyleOptions) (styles : List ElementStyle) :
    s.classing o styles = s.giveAll o {} styles := by
  match s with
  | .utility => exact (giveAll_utility o styles {}).symm
  | .scoped => exact (giveAll_of_ruled (by decide) o styles {}).symm
  | .plain => exact (giveAll_of_ruled (by decide) o styles {}).symm

/-- A strategy with rules counts a class for each rule. -/
theorem classCount_of_ruled (ruled : s ≠ .utility) (c : Classing) :
    s.classCount c = c.rules.length := by
  match s, ruled with
  | .scoped, _ => rfl
  | .plain, _ => rfl

end StyleStrategy

namespace StyleConverter

/-- A converter holds the rules of a classing, and counts them. -/
structure Holds (k : StyleConverter) (s : StyleStrategy) (c : Classing) : Prop where
  strategy : k.strategy = s
  rules : k.rules = c.rules
  shared : k.shared = c.shared
  used : k.used = c.used
  classCount : k.figures.classes = s.classCount c
  ruleCount : k.figures.rules = c.rules.length

/-- A converter has given one more style its classes, and changed none of its other figures. -/
structure Gives (s : StyleStrategy) (c c' : Classing) (k k' : StyleConverter) (name : String)
    (warnings : List String) : Prop where
  given : c'.given = c.given ++ [name]
  unsupported : c'.unsupported = c.unsupported ++ warnings
  holds : k'.Holds s c'
  elements : k'.figures.elements = k.figures.elements
  converted : k'.figures.converted = k.figures.converted
  files : k'.figures.files = k.figures.files

variable {k : StyleConverter}

/-- A style whose key is not remembered gets a rule of its own. -/
theorem Holds.ruled (h : k.Holds s c)
    (fresh : o.shares = true → c.shared.get? (StyleStrategy.keyOf style) = none) :
    k.ruleClass o style = (s.nextName o c style, { k with
      figures := { k.figures with
        classes := k.figures.classes + 1, rules := k.figures.rules + 1 }
      rules := c.rules ++ [StyleStrategy.ruleFor (style, s.nextName o c style)]
      shared := if o.shares then c.shared.put (StyleStrategy.keyOf style) (s.nextName o c style)
        else c.shared
      used := c.used.put (s.baseOf o style) ((c.used.get? (s.baseOf o style)).getD 0 + 1) }) := by
  have key : declarationKey style.declared = StyleStrategy.keyOf style := rfl
  have unknown : (if o.shares = true then k.shared.get? (StyleStrategy.keyOf style) else none) =
      none := by
    split
    · next shares => rw [h.shared, fresh shares]
    · rfl
  unfold StyleConverter.ruleClass
  simp only [key, unknown, h.strategy, h.used]
  by_cases shares : o.shares = true
  · simp only [if_pos shares, StyleConverter.addRule, h.rules, h.shared]
    rfl
  · simp only [if_neg shares, StyleConverter.addRule, h.rules, h.shared]
    rfl

/-- The class of a rule is the one that the classing gives. -/
theorem Holds.ruleClass (h : k.Holds s c) (ruled : s ≠ .utility) (o : StyleOptions)
    (style : ElementStyle) :
    Gives s c (s.giveRule o c style) k (k.ruleClass o style).2 (k.ruleClass o style).1 [] := by
  have count := StyleStrategy.classCount_of_ruled ruled
  rcases StyleStrategy.giveRule_cases s o c style with ⟨name, shares, known, same⟩ | ⟨fresh, same⟩
  · have key : declarationKey style.declared = StyleStrategy.keyOf style := rfl
    have kept : k.ruleClass o style = (name, k) := by
      unfold StyleConverter.ruleClass
      simp only [key, if_pos shares, h.shared, known]
    rw [same, kept]
    refine ⟨rfl, (List.append_nil _).symm, ⟨h.strategy, h.rules, h.shared, h.used, ?_,
      h.ruleCount⟩, rfl, rfl, rfl⟩
    rw [h.classCount, count, count]
  · rw [same, h.ruled fresh]
    refine ⟨rfl, (List.append_nil _).symm, ⟨h.strategy, rfl, rfl, rfl, ?_, ?_⟩, rfl, rfl, rfl⟩
    · rw [count, List.length_append, List.length_singleton, h.classCount, count]
    · rw [List.length_append, List.length_singleton, h.ruleCount]

/-- What is found for declarations is found for one of them. -/
theorem exists_of_mem_mapM {α β : Type} {f : α → Except Fault β} {b : β} :
    ∀ {l : List α} {found : List β}, l.mapM f = .ok found → b ∈ found → ∃ a ∈ l, f a = .ok b
  | [], found, h, mem => by
    rw [List.mapM_nil] at h
    cases h
    cases mem
  | a :: rest, found, h, mem => by
    rw [List.mapM_cons] at h
    cases first : f a with
    | error fault =>
      rw [first] at h
      cases h
    | ok c =>
      rw [first] at h
      cases more : rest.mapM f with
      | error fault =>
        simp only [more] at h
        cases h
      | ok others =>
        simp only [more] at h
        cases h
        rcases List.mem_cons.1 mem with rfl | mem
        · exact ⟨a, List.mem_cons_self, first⟩
        · obtain ⟨a', ha', of_⟩ := exists_of_mem_mapM more mem
          exact ⟨a', List.mem_cons_of_mem a ha', of_⟩

/-- The utility classes of declarations are words. -/
theorem isWord_of_withUtility {declared : List (String × String)}
    {found : List ((String × String) × Option String)}
    (h : declared.mapM StyleStrategy.withUtility = .ok found) :
    ∀ name ∈ (found.filterMap Prod.snd).eraseDups, IsWord name := by
  intro name mem
  obtain ⟨⟨declaration, class?⟩, at_, rfl⟩ := List.mem_filterMap.1 (List.mem_eraseDups.1 mem)
  obtain ⟨declaration', -, of_⟩ := exists_of_mem_mapM h at_
  rw [StyleStrategy.withUtility] at of_
  cases class_ : utilityClass? declaration'.1 declaration'.2 with
  | error fault =>
    rw [class_] at of_
    cases of_
  | ok class? =>
    rw [class_] at of_
    cases of_
    exact isWord_of_utilityClass? class_

/-- The utility classes of a style are those that the classing gives. -/
theorem Holds.utilityNames (h : k.Holds .utility c) (style : ElementStyle) :
    match StyleStrategy.giveUtilities c style, k.utilityNames style with
    | .ok c', (.ok (name, warnings), k') => Gives .utility c c' k k' name warnings
    | .error fault, (result, k') => result = .error fault ∧ k' = k
    | .ok _, (.error _, _) => False := by
  rw [StyleStrategy.giveUtilities, StyleConverter.utilityNames]
  cases found : style.declared.entries.mapM StyleStrategy.withUtility with
  | error fault => exact ⟨rfl, rfl⟩
  | ok found' =>
    have words := words_join (isWord_of_withUtility found)
    refine ⟨rfl, rfl, ⟨h.strategy, h.rules, h.shared, h.used, ?_, h.ruleCount⟩, rfl, rfl, rfl⟩
    simp only [h.classCount, StyleStrategy.classCount, List.map_append, List.map_cons, List.map_nil,
      sumOf_append, sumOf_cons, sumOf_nil, words, Nat.add_zero]

/-- The classes of a style are those that the classing gives, and are refused with it. -/
theorem Holds.classFor (h : k.Holds s c) (o : StyleOptions) (style : ElementStyle) :
    match s.giveOne o c style, k.classFor o style with
    | .ok c', (.ok (name, warnings), k') => Gives s c c' k k' name warnings
    | .error fault, (result, k') => result = .error fault ∧ k' = k
    | .ok _, (.error _, _) => False := by
  rw [StyleConverter.classFor, h.strategy]
  by_cases ruled : s = .utility
  · subst ruled
    exact h.utilityNames style
  · have gives := h.ruleClass ruled o style
    match s, ruled with
    | .scoped, _ => exact gives
    | .plain, _ => exact gives

end StyleConverter

end Componentry
