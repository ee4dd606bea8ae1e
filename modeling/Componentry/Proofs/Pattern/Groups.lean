import Componentry.Pattern
import Componentry.Proofs.Dict
import Componentry.Proofs.Document.Tidy
import Componentry.Proofs.Text.Erasure
import Componentry.Proofs.Text.Pieces

/-!
# Members of patterns

A pattern has all elements of a page as its members that may repeat and go by its key, and no
others. How it lists an element tells the key and the element name, because names have no spaces;
an element that is listed the same way but is no member says nothing of itself, and its name is the
key.

No two patterns have one key. They may have one name, though: a key loses the mark that selectors
start with, and its double underscores become dashes.
-/

set_option autoImplicit false

namespace Componentry.Node
open Componentry.Text

/-! ## How elements are listed -/

/-- An element is listed with its key and its name, which has no space. -/
theorem keyWithTag_inj {m n : Node} {s t : String} (hm : m.tag = some s) (hn : n.tag = some t)
    (hs : ' ' ∉ s.toList) (ht : ' ' ∉ t.toList) (same : m.keyWithTag = n.keyWithTag) :
    m.key = n.key ∧ m.tag = n.tag := by
  have shown {k : Node} {u : String} (hk : k.tag = some u) :
      k.keyWithTag.toList = k.key.toList ++ ' ' :: ('(' :: (u.toList ++ [')'])) := by
    have name : k.label.tag = some u := hk
    rw [keyWithTag, shownTag, name]
    simp
  have quiet {u : String} (hu : ' ' ∉ u.toList) : ' ' ∉ '(' :: (u.toList ++ [')']) := by
    simpa using hu
  have chars := congrArg String.toList same
  rw [shown hm, shown hn] at chars
  obtain ⟨keys, names⟩ := append_cons_inj (quiet hs) (quiet ht) chars
  have tags : s.toList = t.toList := List.append_cancel_right (List.tail_eq_of_cons_eq names)
  rw [hm, hn, String.toList_inj.1 tags]
  exact ⟨String.toList_inj.1 keys, rfl⟩

/-- A text that is not empty counts. -/
theorem counts_of_textOf? {a : Attributes} {name s : String} (h : a.textOf? name = some s) :
    a.counts name = true := by
  unfold Attributes.textOf? at h
  unfold Attributes.counts
  split at h
  next t found =>
    split at h
    · cases h
    next filled =>
      rw [found]
      simpa using filled
  next => cases h

/-- An element that may not repeat says nothing of itself but its name. -/
theorem key_of_not_mayRepeat {n : Node} (h : n.mayRepeat = false) : n.key = n.tagOrNone := by
  simp only [mayRepeat, Bool.or_eq_false_iff, Bool.not_eq_false', List.isEmpty_iff] at h
  obtain ⟨⟨⟨id, classes⟩, component⟩, _⟩ := h
  have silent {name : String} (not_counts : n.attributes.counts name = false) :
      n.attributes.textOf? name = none := by
    cases text : n.attributes.textOf? name with
    | none => rfl
    | some s =>
      rw [counts_of_textOf? text] at not_counts
      cases not_counts
  rw [key, silent component, silent id, classes]

end Componentry.Node

namespace Componentry.Pattern
open Componentry.Text Componentry.Node

variable {α : Type} [Score α] {o : PatternOptions α} {root n : Node} {p : Pattern α}

/-! ## Groups -/

/-- Grouping puts the elements of each key behind those that were there. -/
theorem get?_foldl_alter (l : List Node) (d : Dict (List Node)) (k : String) :
    (l.foldl (fun groups n => groups.alter n.key fun others => others.getD [] ++ [n]) d).get? k =
      if l.filter (fun n => n.key == k) = [] then d.get? k
      else some ((d.get? k).getD [] ++ l.filter fun n => n.key == k) := by
  have appended (l : List Node) (members : Option (List Node)) :
      l.foldl (fun members n => some (members.getD [] ++ [n])) members =
        if l = [] then members else some (members.getD [] ++ l) := by
    induction l generalizing members with
    | nil => rfl
    | cons n l ih =>
      rw [List.foldl_cons, ih, if_neg (List.cons_ne_nil n l)]
      split
      next none => rw [none]
      next => simp
  rw [Dict.get?_foldl_alter Node.key fun n others => others.getD [] ++ [n], appended]

/-- The elements of a page that may repeat and go by a key. -/
def candidates (root : Node) (key : String) : List Node :=
  ((root.elements.filter mayRepeat).filter fun n => n.key != "").filter fun n => n.key == key

/-- The candidates of a key are the elements with the key that may repeat. -/
theorem mem_candidates {key : String} : n ∈ candidates root key ↔
    n ∈ root.elements ∧ n.mayRepeat = true ∧ n.key ≠ "" ∧ n.key = key := by
  simp only [candidates, List.mem_filter, bne_iff_ne, beq_iff_eq, and_assoc]

/-- A group has the elements of its key, and is not empty. -/
theorem members_of_mem_groups {key : String} {members : List Node}
    (h : (key, members) ∈ (groups root).entries) :
    members = candidates root key ∧ members ≠ [] := by
  rw [← Dict.get?_eq_some_iff_mem, groups, get?_foldl_alter] at h
  split at h
  · cases h
  next filled =>
    cases h
    exact ⟨rfl, filled⟩

/-- A group makes a pattern of its key and its members. -/
theorem eq_of_ofGroup? {key : String} {members : List Node} (h : ofGroup? o key members = some p) :
    p.key = key ∧ p.members = members := by
  obtain ⟨_, made⟩ := Option.ite_none_right_eq_some.1 h
  cases made
  exact ⟨rfl, rfl⟩

/-- A pattern has the elements of its key as members. -/
theorem members_of_mem_detect (h : p ∈ detect o root) :
    p.members = candidates root p.key ∧ p.members ≠ [] := by
  obtain ⟨⟨key, members⟩, group, made⟩ := List.mem_filterMap.1 h
  obtain ⟨rfl, rfl⟩ := eq_of_ofGroup? made
  exact members_of_mem_groups group

/-- The members of a pattern are the elements with its key that may repeat. -/
theorem mem_members (h : p ∈ detect o root) : n ∈ p.members ↔
    n ∈ root.elements ∧ n.mayRepeat = true ∧ n.key ≠ "" ∧ n.key = p.key := by
  rw [(members_of_mem_detect h).1, mem_candidates]

/-- The key of a pattern is not empty. -/
theorem key_ne_empty (h : p ∈ detect o root) : p.key ≠ "" := by
  obtain ⟨m, hm⟩ := List.exists_mem_of_ne_nil _ (members_of_mem_detect h).2
  obtain ⟨_, _, filled, same⟩ := (mem_members h).1 hm
  exact same ▸ filled

/-- An element that goes by the key of a pattern is a member exactly if it may repeat. -/
theorem mem_members_iff (h : p ∈ detect o root) (hn : n ∈ root.elements) (same : n.key = p.key) :
    n ∈ p.members ↔ n.mayRepeat = true := by
  rw [mem_members h]
  constructor
  · rintro ⟨_, repeats, _⟩
    exact repeats
  · intro repeats
    exact ⟨hn, repeats, same ▸ key_ne_empty h, same⟩

/-! ## Names -/

/-- A key that starts with no mark of selectors and holds no double underscore. -/
def IsPlainKey (key : String) : Prop :=
  (∀ c ∈ key.toList.head?, isSelectorMark c = false) ∧ contains key "__" = false

/-- A plain key is the name of its pattern. -/
theorem nameOfKey_of_isPlainKey {key : String} (h : IsPlainKey key) : nameOfKey key = key := by
  obtain ⟨unmarked, single⟩ := h
  have bare : nameOfKey key = replace (String.ofList key.toList) "__" "-" := by
    rw [nameOfKey]
    cases same : key.toList with
    | nil => rfl
    | cons c rest =>
      have plain : isSelectorMark c = false := unmarked c (by rw [same]; rfl)
      dsimp only
      rw [plain, if_neg Bool.false_ne_true]
  rw [bare, String.ofList_toList, replace, if_neg (by decide),
    replaceFrom_of_not_occursIn single, String.ofList_toList]

/-- The patterns of a page have different keys. -/
theorem nodup_keys_detect (o : PatternOptions α) (root : Node) :
    ((detect o root).map key).Nodup := by
  have apart := List.pairwise_map.1 (groups root).distinct
  rw [List.Nodup, List.pairwise_map, detect, List.pairwise_filterMap]
  refine apart.imp fun {g h} different p hp q hq => ?_
  rwa [(eq_of_ofGroup? hp).1, (eq_of_ofGroup? hq).1]

/-- A pattern lists an element that goes by its key, like a member of that name. -/
theorem exists_member_of_listed (tidy : root.IsTidy) (h : p ∈ detect o root)
    (hn : n ∈ root.elements) (listed : n.keyWithTag ∈ p.elements) :
    n.key = p.key ∧ ∃ m ∈ p.members, m.tag = n.tag := by
  obtain ⟨m, hm, same⟩ := List.mem_map.1 listed
  obtain ⟨element, _, _, key⟩ := (mem_members h).1 hm
  have named {k : Node} (hk : k ∈ root.elements) :
      ∃ name, k.tag = some name ∧ ' ' ∉ name.toList := by
    obtain ⟨met, element⟩ := List.mem_filter.1 hk
    exact (tidy.of_mem_preorder met).exists_tag element
  obtain ⟨s, hs, quiet⟩ := named element
  obtain ⟨t, ht, quiet'⟩ := named hn
  obtain ⟨keys, tags⟩ := keyWithTag_inj hs ht quiet quiet' same
  exact ⟨keys.symm.trans key, m, hm, tags⟩

end Componentry.Pattern
