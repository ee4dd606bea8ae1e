import Componentry.Proofs.Pattern.Groups
import Componentry.Proofs.Splitting.Page

/-!
# Elements extracted for a pattern

An element is extracted for a pattern that lists an element the way this one would be listed. Both
go by one key and have one name, but an element that is listed so need not be a member: it is one
exactly if it may repeat. One that may not says nothing of itself, and the key is its name.

A component refers to its pattern by name. The pattern that goes by the key of its element has that
name, but another one may have it too.
-/

set_option autoImplicit false

namespace Componentry
open Componentry.Node

variable {α : Type} [Score α]

namespace Decision
variable {o : SplitOptions α} {selectors : List CustomSelector} {patterns : List (Pattern α)}
  {n : Node} {decision : Decision α}

/-- A decision is for a pattern that lists the element, and has it as its reason, or it has neither
a pattern nor this reason. -/
theorem pattern_cases (h : of? o selectors patterns n = some decision) :
    (∃ p ∈ patterns, n.keyWithTag ∈ p.elements ∧ decision.pattern = some p ∧
      decision.reason = .repeatingPattern) ∨
    (decision.pattern = none ∧ decision.reason ≠ .repeatingPattern) := by
  unfold of? at h
  split at h
  · cases h
    exact .inr ⟨rfl, nofun⟩
  · split at h
    · cases h
      exact .inr ⟨rfl, nofun⟩
    · split at h
      next p found =>
        cases h
        have listed := List.find?_some found
        exact .inl ⟨p, List.mem_of_find?_eq_some found, List.contains_iff_mem.1 listed, rfl, rfl⟩
      next =>
        split at h
        · cases h
          exact .inr ⟨rfl, nofun⟩
        · split at h
          · cases h
            exact .inr ⟨rfl, nofun⟩
          · split at h
            · cases h
              exact .inr ⟨rfl, nofun⟩
            · cases h

end Decision

namespace Split
variable {o : SplitOptions α} {root : Node} {split : Split α}

omit [Score α] in
/-- A page without elements at the top has none at all. -/
theorem elements_eq_nil (plain : ∀ c ∈ root.children, IsPlain c)
    (empty : (!root.isElement && root.elementChildren.isEmpty) = true) : root.elements = [] := by
  obtain ⟨fragment, none⟩ := Bool.and_eq_true_iff.1 empty
  have other : ¬ root.isElement = true := by
    rw [Bool.not_eq_true, ← Bool.not_eq_true']
    exact fragment
  rw [elements_eq_of_not_isElement other, List.filter_eq_nil_iff]
  intro n hn element
  obtain ⟨c, hc, hn⟩ := mem_preorderAll.1 hn
  have leaf : ¬ c.isElement = true := by
    intro found
    have listed : c ∈ root.elementChildren := List.mem_filter.2 ⟨hc, found⟩
    rw [List.isEmpty_iff.1 none] at listed
    cases listed
  cases plain c hc with
  | @mk label children bare _ =>
    have alone : children = [] := bare fun same => leaf (beq_iff_eq.2 same)
    rw [preorder_mk, alone, preorderAll_nil, List.mem_singleton] at hn
    rw [hn, ← alone] at element
    exact leaf element

/-- A page that is split has the components of the extracted elements, and the patterns that are
found. -/
theorem components_and_patterns (plain : ∀ c ∈ root.children, IsPlain c)
    (given : (ofRoot o root).result = .ok split) :
    split.components = Extraction.components { convention := o.convention }
      (Decision.extracted o root) ∧
    split.patterns =
      if o.findsPatterns then Pattern.detect ⟨o.leastOccurrences, o.threshold⟩ root else [] := by
  rw [ofRoot] at given
  split at given
  next empty =>
    cases given
    have bare := elements_eq_nil plain empty
    have visits : Visit.ofRoot (Decision.onPage? o root) o.deepest root = [] := by
      rw [List.eq_nil_iff_forall_not_mem]
      intro v hv
      have met := Visit.mem_elements_of_mem_ofRoot hv
      rw [bare] at met
      cases met
    rw [Decision.extracted, visits, Pattern.detect, Pattern.groups, bare]
    exact ⟨rfl, (ite_self _).symm⟩
  next =>
    dsimp only at given
    obtain ⟨_, _, given⟩ := Outcome.result_bind_eq_ok.1 given
    rcases complaints_cases (Decision.troublesOnPage o root) [] with ⟨_, eq⟩ | ⟨_, _, _, eq, _⟩
    all_goals
      rw [Decision.troublesOnPage, Decision.onPage?] at eq
      rw [eq] at given
      obtain ⟨_, step, given⟩ := Outcome.result_bind_eq_ok.1 given
    · cases given
      exact ⟨rfl, rfl⟩
    · cases step

end Split

namespace Extraction

/-- An element is extracted for a pattern, which its key tells. -/
def isFor (p : Pattern α) (e : Extraction α) : Bool :=
  e.decision.reason == .repeatingPattern && e.decision.pattern.any fun q => q.key == p.key

/-- Every element that is extracted for a pattern is a member of it. -/
def AreMembers (all : List (Extraction α)) : Prop :=
  ∀ e ∈ all, e.decision.reason = .repeatingPattern →
    ∃ p, e.decision.pattern = some p ∧ e.node ∈ p.members

end Extraction

namespace Split
variable {o : SplitOptions α} {root : Node} {split : Split α}

/-- What is extracted for the patterns of a page. -/
structure IsPatterned (o : SplitOptions α) (root : Node) (split : Split α) : Prop where
  /-- The patterns are those that are found on the page. -/
  patterns : split.patterns = Pattern.detect ⟨o.leastOccurrences, o.threshold⟩ root
  /-- The components are the extracted elements, with their reasons and patterns. -/
  components : split.components.map (fun c => (c.nodeId, c.reason, c.pattern)) =
    (Decision.extracted o root).map fun e =>
      (e.node.id, e.decision.reason, e.decision.pattern.map Pattern.name)
  /-- An element is extracted for a pattern with its key, and is a member exactly if it may repeat;
  if it may not, its name is the key, and there is a member of that name. -/
  listed : ∀ e ∈ Decision.extracted o root, e.decision.reason = .repeatingPattern →
    ∃ p ∈ split.patterns, e.decision.pattern = some p ∧ e.node.key = p.key ∧
      (e.node ∈ p.members ↔ e.node.mayRepeat = true) ∧
      (e.node.mayRepeat = false → e.node.tag = some p.key ∧ ∃ m ∈ p.members, m.tag = e.node.tag)
  /-- No more elements that may repeat are extracted for a pattern than it counts. -/
  count : ∀ p ∈ split.patterns,
    ((Decision.extracted o root).filter (Extraction.isFor p)).countP (fun e => e.node.mayRepeat) ≤
      p.count

end Split

namespace Decision
variable {o : SplitOptions α} {root : Node} {e : Extraction α}

/-- An extracted element is one of the page, with the decision on it. -/
theorem of_mem_extracted (distinct : root.ids.Nodup) (plain : ∀ c ∈ root.children, IsPlain c)
    (h : e ∈ extracted o root) :
    e.node ∈ root.elements ∧ onPage? o root e.node = some e.decision := by
  rw [extracted, Extraction.extractions_eq distinct plain] at h
  obtain ⟨n, hn, made⟩ := List.mem_filterMap.1 h
  obtain ⟨decision, decided, rfl⟩ := Option.map_eq_some_iff.1 made
  exact ⟨List.mem_of_mem_filter hn, decided⟩

section
variable (tidy : root.IsTidy) (distinct : root.ids.Nodup)
  (plain : ∀ c ∈ root.children, IsPlain c) (finds : o.findsPatterns = true)
include tidy distinct plain finds

/-- An element that is extracted for a pattern has its key, and is a member if it may repeat. -/
theorem listed_of_mem_extracted (h : e ∈ extracted o root)
    (reason : e.decision.reason = .repeatingPattern) :
    ∃ p ∈ Pattern.detect ⟨o.leastOccurrences, o.threshold⟩ root, e.decision.pattern = some p ∧
      e.node.key = p.key ∧ (e.node ∈ p.members ↔ e.node.mayRepeat = true) ∧
      (e.node.mayRepeat = false →
        e.node.tag = some p.key ∧ ∃ m ∈ p.members, m.tag = e.node.tag) := by
  obtain ⟨element, decided⟩ := of_mem_extracted distinct plain h
  obtain ⟨p, hp, listed, pattern, -⟩ :=
    (pattern_cases decided).resolve_right fun none_ => none_.2 reason
  rw [if_pos finds] at hp
  obtain ⟨key, member⟩ := Pattern.exists_member_of_listed tidy hp element listed
  refine ⟨p, hp, pattern, key, Pattern.mem_members_iff hp element key, ?_⟩
  intro silent
  obtain ⟨met, isElement⟩ := List.mem_filter.1 element
  obtain ⟨name, tag, _⟩ := (tidy.of_mem_preorder met).exists_tag isElement
  have named : e.node.tagOrNone = name := by
    rw [tagOrNone, show e.node.label.tag = some name from tag, Option.getD_some]
  refine ⟨?_, member⟩
  rw [tag, ← key, key_of_not_mayRepeat silent, named]

/-- The elements extracted for a pattern that may repeat are no more than it counts. -/
theorem countP_isFor_le {p : Pattern α}
    (hp : p ∈ Pattern.detect ⟨o.leastOccurrences, o.threshold⟩ root) :
    ((extracted o root).filter (Extraction.isFor p)).countP (fun e => e.node.mayRepeat) ≤
      p.count := by
  let found := ((extracted o root).filter (Extraction.isFor p)).filter fun e => e.node.mayRepeat
  have within : found.map Extraction.node ⊆ p.members := by
    intro n hn
    obtain ⟨e, he, rfl⟩ := List.mem_map.1 hn
    obtain ⟨he, repeats⟩ := List.mem_filter.1 he
    obtain ⟨he, isFor⟩ := List.mem_filter.1 he
    obtain ⟨reason, same⟩ := Bool.and_eq_true_iff.1 isFor
    obtain ⟨q, _, pattern, key, _⟩ :=
      listed_of_mem_extracted tidy distinct plain finds he (beq_iff_eq.1 reason)
    rw [pattern, Option.any_some, beq_iff_eq] at same
    have element := (of_mem_extracted distinct plain he).1
    exact (Pattern.mem_members_iff hp element (key.trans same)).2 repeats
  have different : (found.map Extraction.node).Nodup := by
    have ids : ((extracted o root).map fun e => e.node.id).Nodup :=
      Extraction.nodup_extracted distinct (Extraction.extractions_eq distinct plain)
    have part : found.Sublist (extracted o root) := List.filter_sublist.trans List.filter_sublist
    have apart := ids.sublist (part.map fun e => e.node.id)
    rw [← Function.comp_def, ← List.map_map] at apart
    exact apart.of_map
  have le := Lists.length_le_of_nodup_of_subset different within
  rwa [List.length_map, ← List.countP_eq_length_filter] at le

end

end Decision

namespace Split
variable {o : SplitOptions α}

/-- When patterns are looked for on a page that was read, an element is extracted only for a pattern
with its key, and all elements extracted for patterns are members exactly if all of them may
repeat. Those that may are no more than the pattern counts. -/
theorem areMembers_iff_mayRepeat {r : ReadOptions} {markup : Option String} {d : Document}
    (read : (Document.read r markup).result = .ok d) (finds : o.findsPatterns = true)
    {split : Split α} (given : (ofRoot o d.root).result = .ok split) :
    IsPatterned o d.root split ∧
    (Extraction.AreMembers (Decision.extracted o d.root) ↔
      ∀ e ∈ Decision.extracted o d.root, e.decision.reason = .repeatingPattern →
        e.node.mayRepeat = true) ∧
    (Extraction.AreMembers (Decision.extracted o d.root) → ∀ p ∈ split.patterns,
      ((Decision.extracted o d.root).filter (Extraction.isFor p)).length ≤ p.count) := by
  have tidy := Document.isTidy_of_read read
  have distinct := Document.nodup_ids_of_read read
  have plain := Document.isPlain_of_read read
  obtain ⟨components, patterns⟩ := components_and_patterns plain given
  rw [if_pos finds] at patterns
  have listed : ∀ e ∈ Decision.extracted o d.root, e.decision.reason = .repeatingPattern → _ :=
    fun e he reason => Decision.listed_of_mem_extracted tidy distinct plain finds he reason
  have count : ∀ p ∈ split.patterns, _ := fun p hp =>
    Decision.countP_isFor_le tidy distinct plain finds (patterns ▸ hp)
  -- Each extracted element has one pattern, of which it is a member if it may repeat.
  have members : Extraction.AreMembers (Decision.extracted o d.root) ↔
      ∀ e ∈ Decision.extracted o d.root, e.decision.reason = .repeatingPattern →
        e.node.mayRepeat = true := by
    refine forall₂_congr fun e he => forall_congr' fun reason => ?_
    obtain ⟨p, _, pattern, _, member, _⟩ := listed e he reason
    rw [pattern]
    constructor
    · rintro ⟨q, same, mem⟩
      cases same
      exact member.1 mem
    · intro repeats
      exact ⟨p, rfl, member.2 repeats⟩
  refine ⟨⟨patterns, ?_, patterns ▸ listed, count⟩, members, ?_⟩
  · rw [components]
    exact Extraction.map_components fun _ _ => rfl
  · intro agreed p hp
    have all : ∀ e ∈ (Decision.extracted o d.root).filter (Extraction.isFor p),
        e.node.mayRepeat = true := by
      intro e he
      obtain ⟨he, isFor⟩ := List.mem_filter.1 he
      obtain ⟨reason, _⟩ := Bool.and_eq_true_iff.1 isFor
      exact members.1 agreed e he (beq_iff_eq.1 reason)
    have le := count p hp
    rwa [List.countP_eq_length.2 all] at le

/-- Two buttons of one class are extracted for the pattern they make. -/
theorem areMembers_of_two_buttons : ∃ (d : Document) (split : Split Rat),
    (Document.read {} (some
      "<p><button class='button'>A</button><button class='button'>B</button></p>")).result = .ok d ∧
    (ofRoot { threshold := (7 / 10 : Rat) } d.root).result = .ok split ∧
    (split.patterns.map fun p => (p.key, p.count)) = [("button", 2)] ∧
    split.components.length = 2 ∧
    IsPatterned { threshold := (7 / 10 : Rat) } d.root split ∧
    Extraction.AreMembers (Decision.extracted { threshold := (7 / 10 : Rat) } d.root) := by
  let page := "<p><button class='button'>A</button><button class='button'>B</button></p>"
  let o : SplitOptions Rat := { threshold := 7 / 10 }
  have known : ((Document.read {} (some page)).result.toOption.bind fun d =>
      (ofRoot o d.root).result.toOption.map fun split =>
        ((split.patterns.map fun p => (p.key, p.count)), split.components.length,
          (Decision.extracted o d.root).all fun e => e.node.mayRepeat)) =
      some ([("button", 2)], 2, true) := by decide +kernel
  obtain ⟨d, read, known⟩ := exists_ok_of_toOption_bind known
  obtain ⟨split, given, known⟩ := exists_ok_of_toOption_map known
  obtain ⟨patterns, known⟩ := Prod.mk.inj known
  obtain ⟨components, repeats⟩ := Prod.mk.inj known
  obtain ⟨patterned, members, _⟩ := areMembers_iff_mayRepeat read rfl given
  exact ⟨d, split, read, given, patterns, components, patterned,
    members.2 fun e he _ => List.all_eq_true.1 repeats e he⟩

/-- A button without a class is extracted for the pattern of the buttons of the class `button`, and
is none of its members. -/
theorem bare_button_is_no_member : ∃ (d : Document) (split : Split Rat),
    (Document.read {} (some ("<div><button class=\"button\">A</button>" ++
      "<button class=\"button\">B</button><button>C</button></div>"))).result = .ok d ∧
    (ofRoot { threshold := (7 / 10 : Rat) } d.root).result = .ok split ∧
    ¬ Extraction.AreMembers (Decision.extracted { threshold := (7 / 10 : Rat) } d.root) ∧
    ∃ p ∈ split.patterns, p.count = 2 ∧ ((Decision.extracted { threshold := (7 / 10 : Rat) }
      d.root).filter (Extraction.isFor p)).length = 3 := by
  let page := "<div><button class=\"button\">A</button>" ++
    "<button class=\"button\">B</button><button>C</button></div>"
  let o : SplitOptions Rat := { threshold := 7 / 10 }
  have known : ((Document.read {} (some page)).result.toOption.bind fun d =>
      (ofRoot o d.root).result.toOption.map fun split =>
        ((Decision.extracted o d.root).any fun e => e.decision.reason == .repeatingPattern &&
          !e.decision.pattern.any fun p => (p.members.map Node.id).contains e.node.id) &&
        split.patterns.any fun p => p.count == 2 &&
          ((Decision.extracted o d.root).filter (Extraction.isFor p)).length == 3) =
      some true := by decide +kernel
  obtain ⟨d, read, known⟩ := exists_ok_of_toOption_bind known
  obtain ⟨split, given, known⟩ := exists_ok_of_toOption_map known
  simp only [Bool.and_eq_true, List.any_eq_true, beq_iff_eq, Bool.not_eq_true'] at known
  obtain ⟨⟨e, he, reason, stranger⟩, p, hp, two, three⟩ := known
  refine ⟨d, split, read, given, ?_, p, hp, two, three⟩
  intro agreed
  obtain ⟨q, pattern, member⟩ := agreed e he reason
  rw [pattern, Option.any_some, ← Bool.not_eq_true, List.contains_iff_mem] at stranger
  exact stranger (List.mem_map_of_mem member)

/-! ## Names of patterns -/

/-- Each name of a pattern that is reported, or that a component refers to, is that of one reported
pattern only. -/
structure IsIdentified (split : Split α) : Prop where
  names : (split.patterns.map Pattern.name).Nodup
  referred : ∀ c ∈ split.components, ∀ name ∈ c.pattern,
    ∃! p, p ∈ split.patterns ∧ p.name = name

/-- A component refers to the pattern that goes by the key of its element. -/
theorem exists_pattern_of_component {root : Node} {split : Split α} {c : Component α}
    {name : String} (tidy : root.IsTidy) (distinct : root.ids.Nodup)
    (plain : ∀ c ∈ root.children, IsPlain c) (given : (ofRoot o root).result = .ok split)
    (hc : c ∈ split.components) (hn : c.pattern = some name) :
    ∃ n ∈ root.elements, n.id = c.nodeId ∧
      ∃ p ∈ split.patterns, p.key = n.key ∧ p.name = name := by
  obtain ⟨components, patterns⟩ := components_and_patterns plain given
  have made : split.components.map (fun c => (c.nodeId, c.pattern)) =
      (Decision.extracted o root).map fun e =>
        (e.node.id, e.decision.pattern.map Pattern.name) := by
    rw [components]
    exact Extraction.map_components fun _ _ => rfl
  obtain ⟨e, he, same⟩ := List.mem_map.1 (made ▸ List.mem_map_of_mem hc)
  obtain ⟨node, named⟩ := Prod.mk.inj same
  rw [hn] at named
  obtain ⟨p, pattern, rfl⟩ := Option.map_eq_some_iff.1 named
  obtain ⟨element, decided⟩ := Decision.of_mem_extracted distinct plain he
  obtain ⟨q, hq, listed, same, -⟩ | ⟨none_, -⟩ := Decision.pattern_cases decided
  case inr =>
    rw [pattern] at none_
    cases none_
  obtain rfl : p = q := Option.some.inj (pattern.symm.trans same)
  refine ⟨e.node, element, node, p, patterns ▸ hq, ?_, rfl⟩
  cases finds : o.findsPatterns with
  | false =>
    rw [finds, if_neg Bool.false_ne_true] at hq
    cases hq
  | true =>
    rw [if_pos finds] at hq
    exact (Pattern.exists_member_of_listed tidy hq element listed).1.symm

/-- The patterns reported for a page have different keys, and a component refers to the one that
goes by the key of its element. The names identify them exactly if no two keys come to one name;
so they do where all keys are plain. -/
theorem isIdentified_iff {r : ReadOptions} {markup : Option String} {d : Document}
    (read : (Document.read r markup).result = .ok d) {split : Split α}
    (given : (ofRoot o d.root).result = .ok split) :
    (split.patterns.map Pattern.key).Nodup ∧
    (∀ c ∈ split.components, ∀ name ∈ c.pattern, ∃ n ∈ d.root.elements, n.id = c.nodeId ∧
      ∃ p ∈ split.patterns, p.key = n.key ∧ p.name = name) ∧
    (IsIdentified split ↔
      ∀ p ∈ split.patterns, ∀ q ∈ split.patterns, p.name = q.name → p.key = q.key) ∧
    ((∀ p ∈ split.patterns, Pattern.IsPlainKey p.key) → IsIdentified split) := by
  have tidy := Document.isTidy_of_read read
  have distinct := Document.nodup_ids_of_read read
  have plain := Document.isPlain_of_read read
  have keys : (split.patterns.map Pattern.key).Nodup := by
    rw [(components_and_patterns plain given).2]
    split
    · exact Pattern.nodup_keys_detect _ _
    · exact List.nodup_nil
  have refers : ∀ c ∈ split.components, ∀ name ∈ c.pattern, _ := fun c hc name hn =>
    exists_pattern_of_component tidy distinct plain given hc hn
  -- Keys are distinct already, so names tell patterns apart just when they tell keys apart.
  have identified : IsIdentified split ↔
      ∀ p ∈ split.patterns, ∀ q ∈ split.patterns, p.name = q.name → p.key = q.key := by
    constructor
    · intro once p hp q hq same
      rw [List.inj_on_of_nodup_map once.names hp hq same]
    · intro apart
      have one : ∀ p ∈ split.patterns, ∀ q ∈ split.patterns, p.name = q.name → p = q :=
        fun p hp q hq same => List.inj_on_of_nodup_map keys hp hq (apart p hp q hq same)
      refine ⟨(List.Nodup.of_map _ keys).map_on one, fun c hc name hn => ?_⟩
      obtain ⟨_, _, _, p, hp, _, named⟩ := refers c hc name hn
      exact ⟨p, ⟨hp, named⟩, fun q hq => one q hq.1 p hp (hq.2.trans named.symm)⟩
  refine ⟨keys, refers, identified, fun plainly => identified.2 fun p hp q hq same => ?_⟩
  rwa [Pattern.name, Pattern.name, Pattern.nameOfKey_of_isPlainKey (plainly p hp),
    Pattern.nameOfKey_of_isPlainKey (plainly q hq)] at same

/-- Items of two classes are told apart by the names of their patterns. -/
theorem isIdentified_itemsAndCards : ∃ (d : Document) (split : Split Rat),
    (Document.read {} (some ("<ul><li class='menu__item'>A</li><li class='menu__item'>B</li>" ++
      "<li class='card'>C</li><li class='card'>D</li></ul>"))).result = .ok d ∧
    (ofRoot { threshold := (7 / 10 : Rat) } d.root).result = .ok split ∧
    (split.patterns.map fun p => (p.key, p.name)) =
      [("menu__item", "menu-item"), ("card", "card")] ∧
    split.components.map Component.pattern =
      [some "menu-item", some "menu-item", some "card", some "card"] ∧
    IsIdentified split := by
  let page := "<ul><li class='menu__item'>A</li><li class='menu__item'>B</li>" ++
    "<li class='card'>C</li><li class='card'>D</li></ul>"
  let o : SplitOptions Rat := { threshold := 7 / 10 }
  have known : ((Document.read {} (some page)).result.toOption.bind fun d =>
      (ofRoot o d.root).result.toOption.map fun split =>
        ((split.patterns.map fun p => (p.key, p.name)), split.components.map Component.pattern)) =
      some ([("menu__item", "menu-item"), ("card", "card")],
        [some "menu-item", some "menu-item", some "card", some "card"]) := by decide +kernel
  obtain ⟨d, read, known⟩ := exists_ok_of_toOption_bind known
  obtain ⟨split, given, known⟩ := exists_ok_of_toOption_map known
  obtain ⟨patterns, components⟩ := Prod.mk.inj known
  obtain ⟨-, -, identified, -⟩ := isIdentified_iff read given
  refine ⟨d, split, read, given, patterns, components, identified.2 fun p hp q hq same => ?_⟩
  have listed {x : Pattern Rat} (hx : x ∈ split.patterns) :
      (x.key, x.name) ∈ [("menu__item", "menu-item"), ("card", "card")] :=
    patterns ▸ List.mem_map_of_mem hx
  have apart : ∀ a ∈ [("menu__item", "menu-item"), ("card", "card")],
      ∀ b ∈ [("menu__item", "menu-item"), ("card", "card")], a.2 = b.2 → a.1 = b.1 := by decide
  exact apart _ (listed hp) _ (listed hq) same

/-- Items of the classes `menu__item` and `menu-item` make two patterns of one name, and their
components tell neither from the other. -/
theorem two_patterns_of_one_name : ∃ (d : Document) (split : Split Rat),
    (Document.read {} (some ("<ul><li class=\"menu__item\">A</li><li class=\"menu__item\">B</li>" ++
      "<li class=\"menu-item\">C</li><li class=\"menu-item\">D</li></ul>"))).result = .ok d ∧
    (ofRoot { threshold := (7 / 10 : Rat) } d.root).result = .ok split ∧
    ¬ (split.patterns.map Pattern.name).Nodup ∧
    ∃ c ∈ split.components, ∃ name ∈ c.pattern, ¬ ∃! p, p ∈ split.patterns ∧ p.name = name := by
  let page := "<ul><li class=\"menu__item\">A</li><li class=\"menu__item\">B</li>" ++
    "<li class=\"menu-item\">C</li><li class=\"menu-item\">D</li></ul>"
  let o : SplitOptions Rat := { threshold := 7 / 10 }
  have known : ((Document.read {} (some page)).result.toOption.bind fun d =>
      (ofRoot o d.root).result.toOption.map fun split =>
        ((split.patterns.map fun p => (p.key, p.name)),
          split.components.any fun c => c.pattern == some "menu-item")) =
      some ([("menu__item", "menu-item"), ("menu-item", "menu-item")], true) := by decide +kernel
  obtain ⟨d, read, known⟩ := exists_ok_of_toOption_bind known
  obtain ⟨split, given, known⟩ := exists_ok_of_toOption_map known
  obtain ⟨patterns, known⟩ := Prod.mk.inj known
  obtain ⟨c, hc, pattern⟩ := List.any_eq_true.1 known
  have listed {key : String} (h : (key, "menu-item") ∈
      [("menu__item", "menu-item"), ("menu-item", "menu-item")]) :
      ∃ p ∈ split.patterns, p.key = key ∧ p.name = "menu-item" := by
    rw [← patterns] at h
    obtain ⟨p, hp, same⟩ := List.mem_map.1 h
    exact ⟨p, hp, Prod.mk.inj same⟩
  obtain ⟨p, hp, first, name⟩ := listed (.head _)
  obtain ⟨q, hq, second, name'⟩ := listed (.tail _ (.head _))
  have apart : p ≠ q := by
    rintro rfl
    rw [first] at second
    exact absurd second (by decide)
  refine ⟨d, split, read, given, fun once => ?_, c, hc, "menu-item", beq_iff_eq.1 pattern, ?_⟩
  · exact apart (List.inj_on_of_nodup_map once hp hq (name.trans name'.symm))
  · rintro ⟨x, -, only⟩
    exact apart ((only p ⟨hp, name⟩).trans (only q ⟨hq, name'⟩).symm)

end Split
end Componentry
