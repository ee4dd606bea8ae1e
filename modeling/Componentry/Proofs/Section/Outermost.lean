import Componentry.Proofs.Document.Lineage
import Componentry.Proofs.Section.Sweep
import Componentry.Proofs.Text.Numeral

/-!
# Sections of a page

The sections of a page are its outermost candidates, in document order: the candidates without a
candidate around them.
-/

set_option autoImplicit false

namespace Componentry.PageSection
open Componentry.Text Componentry.Node

/-- The number of an id is read back, unless it has too many digits. -/
theorem idNumber_numberedId {n : Nat} (small : n < Nat.pow 10 mostDigits) :
    idNumber (numberedId n) = n := by
  have chars : (numberedId n).toList = "node-".toList ++ (natText n).toList := by
    rw [numberedId, String.toList_append]
  have dash : (numberedId n).toList.contains '-' = true := by
    rw [chars, List.contains_iff_mem]
    exact List.mem_append_left _ (by decide)
  have digit : ∀ c ∈ (natText n).toList.reverse, (c != '-') = true := by
    intro c hc
    have digit := isDigit_of_mem_natText (List.mem_reverse.1 hc)
    rw [bne_iff_ne]
    rintro rfl
    exact absurd digit (by decide)
  have behind : (numberedId n).toList.reverse.takeWhile (· != '-') =
      (natText n).toList.reverse := by
    rw [chars, List.reverse_append, List.takeWhile_append_of_pos digit]
    exact List.append_nil _
  rw [idNumber, if_pos dash, behind, List.reverse_reverse, String.ofList_toList,
    readInt?_natText small]
  rfl

/-- A candidate has no candidate around it. -/
def isOutermost (rules : List SectionRule) (root n : Node) : Bool :=
  isCandidate rules n && !(root.around n).any (isCandidate rules)

/-- The sections of the outermost candidates of a page, in document order. -/
def ofOutermost (rules : List SectionRule) (root : Node) : List PageSection :=
  (root.elements.filter (isOutermost rules root)).map (sectionOf rules)

section
variable {rules : List SectionRule} {root : Node}

/-- The candidates for sections are those of the elements that count. -/
theorem mem_sections {s : PageSection} :
    s ∈ (root.elements.filter (isCandidate rules)).map (sectionOf rules) ↔
      ∃ n ∈ root.elements, isCandidate rules n = true ∧ sectionOf rules n = s := by
  simp only [List.mem_map, List.mem_filter, and_assoc]

/-- A section lies within another one exactly if a candidate is around its element. -/
theorem isWithin_sectionOf (n : Node) :
    isWithin ((root.elements.filter (isCandidate rules)).map (sectionOf rules))
        (sectionOf rules n) =
      (root.around n).any (isCandidate rules) := by
  rw [Bool.eq_iff_iff, isWithin_iff, List.any_eq_true]
  constructor
  · rintro ⟨t, ht, other, held⟩
    obtain ⟨m, hm, candidate, rfl⟩ := mem_sections.1 ht
    refine ⟨m, List.mem_filter.2 ⟨hm, ?_⟩, candidate⟩
    rw [Bool.and_eq_true, bne_iff_ne, List.contains_iff_mem]
    exact ⟨other, held⟩
  · rintro ⟨m, hm, candidate⟩
    obtain ⟨element, around⟩ := List.mem_filter.1 hm
    rw [Bool.and_eq_true, bne_iff_ne, List.contains_iff_mem] at around
    exact ⟨sectionOf rules m, mem_sections.2 ⟨m, element, candidate, rfl⟩, around⟩

/-- The candidates within no other are the outermost ones. -/
theorem filter_not_isWithin :
    (((root.elements.filter (isCandidate rules)).map (sectionOf rules)).filter fun s =>
      !isWithin ((root.elements.filter (isCandidate rules)).map (sectionOf rules)) s) =
        ofOutermost rules root := by
  have tests : ((fun s => !isWithin ((root.elements.filter (isCandidate rules)).map
      (sectionOf rules)) s) ∘ sectionOf rules) =
      fun n => !(root.around n).any (isCandidate rules) := by
    funext n
    rw [Function.comp_apply, isWithin_sectionOf]
  rw [List.filter_map, tests, List.filter_filter, ofOutermost]
  refine congrArg (List.map (sectionOf rules)) (List.filter_congr fun n _ => ?_)
  rw [isOutermost, Bool.and_comm]

end

end Componentry.PageSection

namespace Componentry.Document
open Componentry.Node Componentry.PageSection Componentry.Text

section
variable {o : ReadOptions} {markup : Option String} {d : Document} {rules : List SectionRule}
  (h : (read o markup).result = .ok d)
include h

/-- The candidates of a page that was read are nested like its elements. -/
theorem areNested_of_read :
    AreNested ((d.root.elements.filter (isCandidate rules)).map (sectionOf rules)) := by
  have distinct := nodup_ids_of_read h
  have met : ∀ {n : Node}, n ∈ d.root.elements → n ∈ d.root.preorder := List.mem_of_mem_filter
  constructor
  · rw [List.map_map]
    exact distinct.sublist ((List.filter_sublist.trans List.filter_sublist).map Node.id)
  · intro s hs t ht other held
    obtain ⟨n, hn, _, rfl⟩ := mem_sections.1 hs
    obtain ⟨m, hm, _, rfl⟩ := mem_sections.1 ht
    have below := mem_preorder_of_mem_ids distinct (met hm) (met hn) held
    rw [preorder_eq_cons] at below
    rcases List.mem_cons.1 below with rfl | below
    · exact absurd rfl other
    · exact depth_lt_of_read h (met hm) below
  · intro s hs t ht held id inner
    obtain ⟨n, hn, _, rfl⟩ := mem_sections.1 hs
    obtain ⟨m, hm, _, rfl⟩ := mem_sections.1 ht
    have below := mem_preorder_of_mem_ids distinct (met hm) (met hn) held
    obtain ⟨k, hk, rfl⟩ := List.mem_map.1 inner
    exact List.mem_map_of_mem (mem_preorder_trans hk _ below)

/-- The numbers of ids rise along a page that is not too long for its numbers to be read. -/
theorem pairwise_idNumber_of_read (short : d.nodes.length ≤ Nat.pow 10 mostDigits) :
    d.nodes.Pairwise fun m n => idNumber m.id < idNumber n.id := by
  have numbered := isNumbered_of_read h
  have number : ∀ {i : Nat} (hi : i < d.nodes.length), idNumber d.nodes[i].id = i := by
    intro i hi
    rw [id_getElem numbered hi, idNumber_numberedId (Nat.lt_of_lt_of_le hi short)]
  rw [List.pairwise_iff_getElem]
  intro i j hi hj less
  rw [number hi, number hj]
  exact Int.ofNat_lt.2 less

/-- What is found for a page are its outermost candidates. -/
theorem outermost_of_read {sections : List PageSection}
    (found : (analyze d.root rules).result = .ok sections) :
    sections.Perm (ofOutermost rules d.root) ∧
      (d.nodes.length ≤ Nat.pow 10 mostDigits → sections = ofOutermost rules d.root) := by
  have asked : ∀ n ∈ d.root.elements, IsAsked n := fun n _ => isAsked n
  have nested : AreNested ((d.root.elements.filter (isCandidate rules)).map (sectionOf rules)) :=
    areNested_of_read h
  unfold analyze at found
  cases chosen : candidates rules [] d.root.elements with
  | mk unreadable answer =>
    rw [chosen] at found
    cases answer with
    | error e => cases found
    | ok all =>
      cases found
      have known : AreUnreadable [] := fun u hu => absurd hu List.not_mem_nil
      rw [candidates_eq asked known chosen, ← filter_not_isWithin]
      refine ⟨outermost_perm nested, fun short => outermost_eq nested ?_⟩
      rw [List.pairwise_map]
      exact (pairwise_idNumber_of_read h short).sublist
        (List.filter_sublist.trans List.filter_sublist)

end

/-! ## Looking sections up -/

/-- The sections of a page are its outermost candidates. -/
structure HasOutermostSections (rules : List SectionRule) (d : Document) : Prop where
  /-- They are these candidates, each once. -/
  perm : d.sections.Perm (ofOutermost rules d.root)
  /-- They stand in document order, unless there are too many nodes for the numbers of their ids to
  be read. -/
  ordered : d.nodes.length ≤ Nat.pow 10 mostDigits → d.sections = ofOutermost rules d.root
  /-- No two of them share a node. -/
  disjoint : d.sections.Pairwise fun s t => List.Disjoint s.node.ids t.node.ids
  /-- Every candidate lies in exactly one of them. -/
  covered : ∀ n ∈ d.root.elements, isCandidate rules n = true →
    ∃ s ∈ d.sections, n ∈ s.nodes ∧ ∀ t ∈ d.sections, n.id ∈ t.node.ids → t = s
  /-- A node in one of them is found to be in that one, and has the name of its component. -/
  found : ∀ s ∈ d.sections, ∀ n ∈ s.nodes,
    d.sectionOf? n.id = some s ∧ d.componentNames.get? n.id = some s.componentName
  /-- Nothing is found for other nodes. -/
  missed : ∀ id, (∀ s ∈ d.sections, id ∉ s.node.ids) →
    d.sectionOf? id = none ∧ d.componentNames.get? id = none
  /-- None of them stands in another one. -/
  hierarchy : d.hierarchy = d.sections.map fun s => ⟨s, none, []⟩

section
variable {sections : List PageSection}

/-- The nodes of a section get its name. -/
theorem get?_foldl_put (l : List Node) (name : String) (names : Dict String) (id : String) :
    (l.foldl (fun names n => names.put n.id name) names).get? id =
      if id ∈ l.map Node.id then some name else names.get? id := by
  induction l generalizing names with
  | nil => rfl
  | cons n l ih =>
    rw [List.foldl_cons, ih, Dict.get?_put, List.map_cons]
    by_cases below : id ∈ l.map Node.id
    · rw [if_pos below, if_pos (List.mem_cons_of_mem _ below)]
    · rw [if_neg below]
      by_cases here : id = n.id
      · rw [if_pos here, if_pos (here ▸ List.mem_cons_self)]
      · rw [if_neg here, if_neg]
        intro mem
        rcases List.mem_cons.1 mem with same | mem
        · exact here same
        · exact below mem

/-- Where no two sections share a node, a node has the name of the one section that holds it. -/
theorem get?_foldl_names
    (disjoint : sections.Pairwise fun s t => List.Disjoint s.node.ids t.node.ids)
    (names : Dict String) (id : String) :
    (sections.foldl (fun names s =>
      s.nodes.foldl (fun names n => names.put n.id s.componentName) names) names).get? id =
      ((sections.find? fun s => s.holds id).map PageSection.componentName).or (names.get? id) := by
  induction sections generalizing names with
  | nil => rfl
  | cons s rest ih =>
    obtain ⟨apart, disjoint⟩ := List.pairwise_cons.1 disjoint
    rw [List.foldl_cons, ih disjoint, get?_foldl_put, List.find?_cons]
    by_cases held : s.holds id = true
    · have mem : id ∈ s.nodes.map Node.id := holds_iff.1 held
      have others : rest.find? (fun t => t.holds id) = none := by
        rw [List.find?_eq_none]
        intro t ht also
        exact apart t ht mem (holds_iff.1 also)
      rw [held, others, if_pos mem]
      rfl
    · have none : ¬ id ∈ s.nodes.map Node.id := fun mem => held (holds_iff.2 mem)
      rw [Bool.not_eq_true] at held
      rw [held, if_neg none]

/-- The name of a component is found at all nodes of its section, where sections are disjoint.
-/
theorem get?_componentNames {d : Document}
    (disjoint : d.sections.Pairwise fun s t => List.Disjoint s.node.ids t.node.ids) (id : String) :
    d.componentNames.get? id = (d.sectionOf? id).map PageSection.componentName := by
  rw [componentNames, get?_foldl_names disjoint, Dict.get?_empty, Option.or_none]
  rfl

/-- The others beside a section are not of its node. -/
theorem mem_others (once : (sections.map fun s => s.node.id).Nodup) {p : PageSection × Nat}
    (hp : p ∈ sections.zipIdx) {t : PageSection}
    (ht : t ∈ (sections.zipIdx.filter fun (_, j) => j != p.2).map Prod.fst) :
    t ∈ sections ∧ t.node.id ≠ p.1.node.id := by
  obtain ⟨s, i⟩ := p
  obtain ⟨⟨t, j⟩, place, rfl⟩ := List.mem_map.1 ht
  obtain ⟨place, other⟩ := List.mem_filter.1 place
  obtain ⟨hi, left⟩ := List.mem_zipIdx' hp
  obtain ⟨hj, right⟩ := List.mem_zipIdx' place
  refine ⟨List.fst_mem_of_mem_zipIdx place, fun same => ?_⟩
  change t.node.id = s.node.id at same
  rw [left, right] at same
  have hj' : j < (sections.map fun s => s.node.id).length := by simpa using hj
  have hi' : i < (sections.map fun s => s.node.id).length := by simpa using hi
  have places : j = i := by
    refine (List.Nodup.getElem_inj_iff once).1 (?_ : (sections.map _)[j] = (sections.map _)[i])
    rw [List.getElem_map, List.getElem_map, same]
  exact (bne_iff_ne.1 other) places

/-- Sections of which none holds the node of another stand alone. -/
theorem hierarchy_eq {d : Document} (once : (d.sections.map fun s => s.node.id).Nodup)
    (alone : ∀ s ∈ d.sections, ∀ t ∈ d.sections, t.node.id ≠ s.node.id →
      t.holds s.node.id = false) :
    d.hierarchy = d.sections.map fun s => ⟨s, none, []⟩ := by
  -- Each section is compared with the others at its place in the list, none of which holds it.
  have row : ∀ p ∈ d.sections.zipIdx,
      ((d.sections.zipIdx.filter fun (_, j) => j != p.2).map Prod.fst).find?
        (fun t => t.holds p.1.node.id) = none ∧
      ((d.sections.zipIdx.filter fun (_, j) => j != p.2).map Prod.fst).filter
        (fun t => p.1.holds t.node.id) = [] := by
    intro p hp
    have hs := List.fst_mem_of_mem_zipIdx hp
    rw [List.find?_eq_none, List.filter_eq_nil_iff]
    constructor
    · intro t ht
      obtain ⟨ht, other⟩ := mem_others once hp ht
      rw [alone p.1 hs t ht other]
      exact Bool.false_ne_true
    · intro t ht
      obtain ⟨ht, other⟩ := mem_others once hp ht
      rw [alone t ht p.1 hs other.symm]
      exact Bool.false_ne_true
  have firsts : d.sections.map (fun s => (⟨s, none, []⟩ : Standing)) =
      d.sections.zipIdx.map fun p => ⟨p.1, none, []⟩ := by
    conv_lhs => rw [← List.zipIdx_map_fst 0 d.sections, List.map_map]
    rfl
  rw [firsts]
  refine List.map_congr_left fun p hp => ?_
  obtain ⟨parent, children⟩ := row p hp
  dsimp only
  rw [parent, children]

end

/-! ## Pages -/

section
variable {o : ReadOptions} {markup : Option String} {d : Document} {rules : List SectionRule}
  (h : (read o markup).result = .ok d)
include h

/-- Outermost candidates that share a node are one. -/
theorem eq_of_mem_ids {m k : Node} (hm : m ∈ d.root.elements.filter (isOutermost rules d.root))
    (hk : k ∈ d.root.elements.filter (isOutermost rules d.root)) {id : String} (inM : id ∈ m.ids)
    (inK : id ∈ k.ids) : m = k := by
  have distinct := nodup_ids_of_read h
  have apart : ∀ {m k : Node}, m ∈ d.root.elements.filter (isOutermost rules d.root) →
      k ∈ d.root.elements.filter (isOutermost rules d.root) → m ∈ k.preorder → m = k := by
    intro m k hm hk below
    obtain ⟨element, outer⟩ := List.mem_filter.1 hm
    obtain ⟨element', outer'⟩ := List.mem_filter.1 hk
    by_contra different
    rw [isOutermost, Bool.and_eq_true, Bool.not_eq_true'] at outer outer'
    have around : k ∈ d.root.around m := by
      refine List.mem_filter.2 ⟨element', ?_⟩
      rw [Bool.and_eq_true, bne_iff_ne]
      refine ⟨fun same => different ?_, contains_ids below⟩
      exact eq_of_id_eq distinct (List.mem_of_mem_filter element) (List.mem_of_mem_filter element')
        same.symm
    have none := List.any_eq_false.1 outer.2 k around
    exact none outer'.1
  have met : ∀ {n : Node}, n ∈ d.root.elements.filter (isOutermost rules d.root) →
      n ∈ d.root.preorder := fun hn => List.mem_of_mem_filter (List.mem_of_mem_filter hn)
  obtain ⟨x, hx, rfl⟩ := List.mem_map.1 inM
  have inK' := mem_preorder_of_mem_ids distinct (met hk) (mem_preorder_trans hx _ (met hm)) inK
  rcases mem_preorder_or hx inK' d.root distinct (met hm) (met hk) with below | below
  · exact apart hm hk below
  · exact (apart hk hm below).symm

section
variable {sections : List PageSection} (perm : sections.Perm (ofOutermost rules d.root))
include perm

omit h in
/-- The sections are those of the outermost candidates. -/
theorem mem_sections_iff {s : PageSection} : s ∈ sections ↔
    ∃ n ∈ d.root.elements.filter (isOutermost rules d.root), sectionOf rules n = s := by
  rw [perm.mem_iff, ofOutermost, List.mem_map]

/-- Outermost sections that share a node are one. -/
theorem eq_of_held {s t : PageSection} (hs : s ∈ sections) (ht : t ∈ sections) {id : String}
    (inS : id ∈ s.node.ids) (inT : id ∈ t.node.ids) : s = t := by
  obtain ⟨m, hm, rfl⟩ := (mem_sections_iff perm).1 hs
  obtain ⟨k, hk, rfl⟩ := (mem_sections_iff perm).1 ht
  rw [eq_of_mem_ids h hm hk inS inT]

/-- No two sections share a node. -/
theorem nodup_section_ids : (sections.map fun s => s.node.id).Nodup := by
  rw [(perm.map fun s => s.node.id).nodup_iff, ofOutermost, List.map_map]
  exact (nodup_ids_of_read h).sublist
    ((List.filter_sublist.trans List.filter_sublist).map Node.id)

/-- The nodes of two sections are apart. -/
theorem disjoint_sections : sections.Pairwise fun s t => List.Disjoint s.node.ids t.node.ids := by
  refine (nodup_section_ids h perm).of_map.pairwise_of_forall_ne ?_
  intro s hs t ht different id inS inT
  exact different (eq_of_held h perm hs ht inS inT)

/-- A node is found to be in the section that holds it. -/
theorem sectionOf?_of_held {s : PageSection} (hs : s ∈ sections) {id : String}
    (inS : id ∈ s.node.ids) : Document.sectionOf? { d with sections } id = some s := by
  cases found : Document.sectionOf? { d with sections } id with
  | none =>
    have none := List.find?_eq_none.1 found s hs
    exact absurd (holds_iff.2 inS) none
  | some t =>
    have inT := List.find?_some found
    rw [eq_of_held h perm (List.mem_of_find?_eq_some found) hs (holds_iff.1 inT) inS]

/-- Every candidate lies in one of the sections. -/
theorem exists_section {n : Node} (hn : n ∈ d.root.elements)
    (candidate : isCandidate rules n = true) : ∃ s ∈ sections, n ∈ s.nodes := by
  obtain ⟨m, hm, candidate', none, below⟩ := exists_outermost_of_read h hn candidate
  have outer : isOutermost rules d.root m = true := by
    rw [isOutermost, candidate', Bool.eq_false_iff.2 none]
    rfl
  exact ⟨_, (mem_sections_iff perm).2 ⟨m, List.mem_filter.2 ⟨hm, outer⟩, rfl⟩, below⟩

end

/-- The sections that are found for a page are its outermost candidates. -/
theorem hasOutermostSections {sections : List PageSection}
    (given : (analyze d.root rules).result = .ok sections) :
    HasOutermostSections rules { d with sections } := by
  obtain ⟨perm, ordered⟩ := outermost_of_read h given
  have disjoint := disjoint_sections h perm
  refine
    { perm
      ordered
      disjoint
      covered := ?_
      found := ?_
      missed := ?_
      hierarchy := hierarchy_eq (nodup_section_ids h perm) ?_ }
  -- A candidate is below one section, and below one only as these are disjoint.
  · intro n hn candidate
    obtain ⟨s, hs, below⟩ := exists_section h perm hn candidate
    exact ⟨s, hs, below, fun t ht inT => eq_of_held h perm ht hs inT (List.mem_map_of_mem below)⟩
  · intro s hs n hn
    have found := sectionOf?_of_held h perm hs (List.mem_map_of_mem hn)
    refine ⟨found, ?_⟩
    rw [get?_componentNames disjoint, found]
    rfl
  · intro id missed
    have none : Document.sectionOf? { d with sections } id = none := by
      rw [Document.sectionOf?, List.find?_eq_none]
      intro s hs holds
      exact missed s hs (holds_iff.1 holds)
    refine ⟨none, ?_⟩
    rw [get?_componentNames disjoint, none]
    rfl
  · intro s hs t ht other
    rw [← Bool.not_eq_true, holds_iff]
    intro inT
    have same := eq_of_held h perm ht hs inT (List.mem_map_of_mem (mem_preorder_self s.node))
    exact other (congrArg (fun s : PageSection => s.node.id) same)

omit h in
/-- A page has the sections that are found in it by its rules. -/
theorem analyze_of_read (h : (read o markup).result = .ok d) :
    (analyze d.root o.rules).result = .ok d.sections := by
  obtain ⟨text, rfl, ⟨_, rfl⟩ | ⟨tree, root, sections, _, _, _, analyzed, rfl⟩⟩ := read_eq_ok h
  · have bare : blank.root.elements = [] := rfl
    rw [analyze, bare]
    simp only [candidates, Except.map, outermost, List.mergeSort_nil, sweep]
    rfl
  · exact analyzed

/-- The sections of a page that was read are its outermost candidates by its rules, and so are those
that any other rules find in it. -/
theorem sections_are_outermost :
    HasOutermostSections o.rules d ∧
    ∀ (rules : List SectionRule) (sections : List PageSection),
      (analyze d.root rules).result = .ok sections →
        HasOutermostSections rules { d with sections } := by
  constructor
  · exact hasOutermostSections h (analyze_of_read h)
  · intro rules sections given
    exact hasOutermostSections h given

end

/-- A header with a navigation in it is one section, and so is an item that a rule takes for a hero
with a card in it; a rule that cannot be read finds nothing. -/
theorem sections_are_outermost_nested : ∃ d : Document,
    (read { rules := [⟨.list, "[", 0.0, none⟩, ⟨.hero, "div", 0.0, none⟩] }
      (some "<header><nav>a</nav></header><div><p class='card'>b</p></div>")).result = .ok d ∧
    HasOutermostSections [⟨.list, "[", 0.0, none⟩, ⟨.hero, "div", 0.0, none⟩] d ∧
    d.sections.map (fun s => (s.node.id, s.kind)) =
      [("node-1", .header), ("node-4", .hero)] := by
  let rules : List SectionRule := [⟨.list, "[", 0.0, none⟩, ⟨.hero, "div", 0.0, none⟩]
  let page := "<header><nav>a</nav></header><div><p class='card'>b</p></div>"
  have known : (read { rules } (some page)).result.toOption.map (fun d =>
      (d.nodes.length, (ofOutermost rules d.root).map fun s => (s.node.id, s.kind))) =
      some (7, [("node-1", .header), ("node-4", .hero)]) := by decide +kernel
  obtain ⟨d, h, known⟩ := exists_ok_of_toOption_map known
  obtain ⟨count, found⟩ := Prod.mk.inj known
  obtain ⟨sections, _⟩ := sections_are_outermost h
  have few : d.nodes.length ≤ Nat.pow 10 mostDigits := by
    have power (e : Nat) (positive : 0 < e) : 10 ≤ Nat.pow 10 e :=
      Nat.le_self_pow positive.ne' 10
    have most := power mostDigits (by decide)
    rw [count]
    exact Nat.le_trans (by decide) most
  refine ⟨d, h, sections, ?_⟩
  rw [sections.ordered few]
  exact found

end Componentry.Document
