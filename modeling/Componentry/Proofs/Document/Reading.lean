import Componentry.Proofs.Document.Arena
import Componentry.Proofs.Document.Lineage
import Componentry.Proofs.Outcome
import Componentry.Proofs.Text.Order

/-!
# Documents that are read

What a page adds up to is true of its nodes: they are numbered in the order of the walk, every one
but the root stands in the one node that lists it, one level below and within the depth limit, and
the figures of the page are those of its nodes. The nodes are the ones of the arena of the page, in
the same order.
-/

set_option autoImplicit false

namespace Componentry.Document
open Componentry.Text Componentry.Markup Componentry.Node

/-- The figures of a page are those of its nodes. -/
structure IsTallied (d : Document) : Prop where
  nodeCount : d.metadata.nodeCount = d.nodes.length
  deepest : ∀ n ∈ d.root.elements, n.depth ≤ d.metadata.maxDepth
  attained : d.root.elements ≠ [] → ∃ n ∈ d.root.elements, n.depth = d.metadata.maxDepth
  flat : d.root.elements = [] → d.metadata.maxDepth = 0
  sortedTags : d.metadata.tags.Pairwise (· < ·)
  tags : ∀ t, t ∈ d.metadata.tags ↔ t ≠ "" ∧ ∃ n ∈ d.root.elements, n.tag = some t
  sortedClasses : d.metadata.classes.Pairwise (· < ·)
  classes : ∀ c, c ∈ d.metadata.classes ↔ ∃ n ∈ d.root.elements, c ∈ n.attributes.classes
  sortedIds : d.metadata.ids.Pairwise (· < ·)
  ids : ∀ i, i ∈ d.metadata.ids ↔ ∃ n ∈ d.root.elements, n.attributes.textOf? "id" = some i

/-- A node other than the root stands in one node, which lists it, one level below. -/
structure HasParent (d : Document) (n m : Node) : Prop where
  mem : m ∈ d.nodes
  listed : n ∈ m.children
  found : d.root.parentId? n.id = some m.id
  depth : n.depth = m.depth + 1
  unique : ∀ k ∈ d.nodes, n.id ∈ k.children.map Node.id → k = m

/-- The nodes of a document are numbered in the order of the walk, and every one but the root is
listed once, by its parent. -/
structure IsOrdered (o : ReadOptions) (d : Document) : Prop where
  ids : d.root.ids = (List.range d.nodes.length).map numberedId
  found : ∀ i, d.node? (numberedId i) = d.nodes[i]?
  rootDepth : d.root.depth = 0
  rootParent : d.root.parentId? d.root.id = none
  first : d.nodes.head? = some d.root
  listedOnce : (d.nodes.flatMap Node.children).Perm d.nodes.tail
  parents : ∀ n ∈ d.nodes.tail, ∃ m, d.HasParent n m
  within : ∀ n ∈ d.nodes, o.reaches n.depth = true

/-! ## Figures -/

/-- What is filled is there and not empty. -/
theorem filled_eq_some {s : Option String} {t : String} :
    filled s = some t ↔ s = some t ∧ t ≠ "" := by
  rw [filled, Option.filter_eq_some_iff, bne_iff_ne]

/-- The largest depth is the one of the deepest element, none without elements. -/
theorem isTallied_tally (m : Metadata) (root : Node) (sections : List PageSection) :
    IsTallied ⟨root, tally m root, sections⟩ := by
  have depths : (tally m root).maxDepth = (root.elements.map Node.depth).foldl max 0 := by
    rw [List.foldl_map]
    rfl
  have deepest : ∀ n ∈ root.elements, n.depth ≤ (tally m root).maxDepth := by
    intro n hn
    rw [depths]
    exact Lists.le_foldl_max 0 (List.mem_map_of_mem hn)
  refine
    { nodeCount := rfl
      deepest
      attained := fun some => ?_
      flat := fun none => ?_
      sortedTags := pairwise_sortedDistinct _
      tags := fun t => ?_
      sortedClasses := pairwise_sortedDistinct _
      classes := fun c => ?_
      sortedIds := pairwise_sortedDistinct _
      ids := fun i => ?_ }
  -- The greatest depth is the start of the fold or the depth of an element.
  · rcases Lists.foldl_max_mem (root.elements.map Node.depth) 0 with zero | mem
    · obtain ⟨n, hn⟩ := List.exists_mem_of_ne_nil _ some
      have := deepest n hn
      rw [depths, zero] at this
      exact ⟨n, hn, by rw [depths, zero]; exact Nat.le_zero.1 this⟩
    · obtain ⟨n, hn, eq⟩ := List.mem_map.1 mem
      exact ⟨n, hn, eq.trans depths.symm⟩
  · show (tally m root).maxDepth = 0
    rw [depths, none]
    rfl
  · show t ∈ sortedDistinct _ ↔ _
    rw [mem_sortedDistinct, List.mem_filterMap]
    constructor
    · rintro ⟨n, hn, eq⟩
      obtain ⟨tag, named⟩ := filled_eq_some.1 eq
      exact ⟨named, n, hn, tag⟩
    · rintro ⟨named, n, hn, tag⟩
      exact ⟨n, hn, filled_eq_some.2 ⟨tag, named⟩⟩
  · show c ∈ sortedDistinct _ ↔ _
    rw [mem_sortedDistinct, List.mem_flatMap]
    rfl
  · show i ∈ sortedDistinct _ ↔ _
    rw [mem_sortedDistinct, List.mem_filterMap]
    rfl

/-! ## Order -/

section
variable {o : ReadOptions} {d : Document} (numbered : IsNumbered 0 d.root.preorder.length [d.root])
include numbered

/-- The ids of a page count its nodes. -/
theorem ids_eq : d.root.ids = (List.range d.nodes.length).map numberedId := by
  have ids := numbered.ids
  rwa [preorderAll_cons, preorderAll_nil, List.append_nil, Nat.sub_zero,
    ← List.range_eq_range'] at ids

/-- No two nodes of a page share an id. -/
theorem nodup_ids : d.root.ids.Nodup := by
  have nodup := numbered.nodup
  rwa [preorderAll_cons, preorderAll_nil, List.append_nil] at nodup

/-- The id of a node tells where it stands. -/
theorem id_getElem {i : Nat} (h : i < d.nodes.length) : d.nodes[i].id = numberedId i := by
  have ids := congrArg (fun l => l[i]?) (ids_eq numbered)
  have here : d.root.preorder[i]? = some d.nodes[i] := List.getElem?_eq_getElem h
  simp only [Node.ids, List.getElem?_map, here, Option.map_some, List.getElem?_range h] at ids
  exact Option.some.inj ids

/-- The node of the id with a number is the one at that place of the walk. -/
theorem node?_numberedId (i : Nat) : d.node? (numberedId i) = d.nodes[i]? := by
  by_cases h : i < d.nodes.length
  · rw [List.getElem?_eq_getElem h, node?, ← id_getElem numbered h]
    exact find?_id (nodup_ids numbered) (List.getElem_mem h)
  · rw [List.getElem?_eq_none (Nat.not_lt.1 h), node?, List.find?_eq_none]
    intro n hn
    obtain ⟨j, hj, rfl⟩ := List.getElem_of_mem hn
    rw [id_getElem numbered hj, beq_iff_eq, numberedId_inj]
    omega

/-- A page that is numbered and leveled is ordered. -/
theorem isOrdered_of_numbered (leveled : IsLeveled o 0 d.root) : IsOrdered o d := by
  have distinct := nodup_ids numbered
  have nodes : d.nodes = d.root :: preorderAll d.root.children := preorder_eq_cons d.root
  refine
    { ids := ids_eq numbered
      found := node?_numberedId numbered
      rootDepth := leveled.depth_eq
      rootParent := parentId?_self distinct
      first := by rw [nodes, List.head?_cons]
      listedOnce := ?_
      parents := fun n hn => ?_
      within := fun n hn => (leveled.of_mem_preorder hn).reaches }
  · rw [nodes, List.tail_cons, ← nodes]
    exact children_perm_preorder d.root
  · rw [nodes, List.tail_cons] at hn
    obtain ⟨m, hm, listed⟩ := exists_parent hn
    exact ⟨m, hm, listed, parentId?_of_mem_children distinct hm listed,
      leveled.depth_of_mem_children hm listed, fun k hk => eq_of_mem_children distinct hm hk listed⟩

end

/-! ## Pages -/

/-- The arena of the text of a page: a fragment without content for an empty one. -/
def arenaOf (o : ReadOptions) (source : String) : Except Fault Arena :=
  if source == "" then .ok (Arena.add {} { id := numberedId 0, kind := .fragment } none)
  else (Tree.parse source).map fun tree => Arena.ofPage o ((Place.ofTree tree).getD default)

/-- A page that is read is empty, or the root of its tree with the sections that are found in it. -/
theorem read_eq_ok {o : ReadOptions} {markup : Option String} {d : Document}
    (h : (read o markup).result = .ok d) :
    ∃ text, markup = some text ∧
      ((trim text = "" ∧ d = blank) ∨
        ∃ tree root sections, trim text ≠ "" ∧ Tree.parse (trim text) = .ok tree ∧
          readRoot? o ((Place.ofTree tree).getD default) = some root ∧
          (PageSection.analyze root o.rules).result = .ok sections ∧
          d = ⟨root, tally (describe (trim text) tree) root, sections⟩) := by
  cases markup with
  | none => cases h
  | some text =>
    refine ⟨text, rfl, ?_⟩
    rw [read] at h
    split at h
    next empty =>
      cases h
      exact .inl ⟨beq_iff_eq.1 empty, rfl⟩
    next filled =>
      refine .inr ?_
      obtain ⟨_, _, h⟩ := Outcome.result_bind_eq_ok.1 h
      obtain ⟨tree, parsed, h⟩ := Outcome.result_bind_eq_ok.1 h
      dsimp only at h
      split at h
      next =>
        obtain ⟨_, _, h⟩ := Outcome.result_bind_eq_ok.1 h
        cases h
      next root found =>
        obtain ⟨_, _, h⟩ := Outcome.result_bind_eq_ok.1 h
        obtain ⟨sections, analyzed, h⟩ := Outcome.result_bind_eq_ok.1 h
        obtain ⟨_, _, h⟩ := Outcome.result_bind_eq_ok.1 h
        cases h
        exact ⟨tree, root, sections, fun same => filled (beq_iff_eq.2 same), parsed, found,
          analyzed, rfl⟩

/-- A page that is read is empty, or the root of its tree. -/
theorem read_cases {o : ReadOptions} {markup : Option String} {d : Document}
    (h : (read o markup).result = .ok d) :
    ∃ text, markup = some text ∧
      ((trim text = "" ∧ d = blank) ∨
        ∃ tree root sections, trim text ≠ "" ∧ Tree.parse (trim text) = .ok tree ∧
          readRoot? o ((Place.ofTree tree).getD default) = some root ∧
          d = ⟨root, tally (describe (trim text) tree) root, sections⟩) := by
  obtain ⟨text, rfl, empty | ⟨tree, root, sections, filled, parsed, found, _, eq⟩⟩ := read_eq_ok h
  · exact ⟨text, rfl, .inl empty⟩
  · exact ⟨text, rfl, .inr ⟨tree, root, sections, filled, parsed, found, eq⟩⟩

/-- A page that was read is numbered. -/
theorem isNumbered_of_read {o : ReadOptions} {markup : Option String} {d : Document}
    (h : (read o markup).result = .ok d) : IsNumbered 0 d.root.preorder.length [d.root] := by
  obtain ⟨text, rfl, ⟨_, rfl⟩ | ⟨tree, root, sections, _, _, found, rfl⟩⟩ := read_cases h
  · exact isNumbered_blank
  · exact isNumbered_readRoot? found

/-- No two nodes of a page that was read have one id. -/
theorem nodup_ids_of_read {o : ReadOptions} {markup : Option String} {d : Document}
    (h : (read o markup).result = .ok d) : d.root.ids.Nodup :=
  nodup_ids (isNumbered_of_read h)

/-- Nothing stands in the nodes of a page that was read, but in elements and the root. -/
theorem isPlain_of_read {o : ReadOptions} {markup : Option String} {d : Document}
    (h : (read o markup).result = .ok d) : ∀ c ∈ d.root.children, IsPlain c := by
  obtain ⟨text, rfl, ⟨_, rfl⟩ | ⟨tree, root, sections, _, _, found, rfl⟩⟩ := read_cases h
  · exact fun c hc => absurd hc List.not_mem_nil
  · exact isPlain_of_readRoot? found

/-- The root of a page that was read is an element or a fragment. -/
theorem kind_of_read {o : ReadOptions} {markup : Option String} {d : Document}
    (h : (read o markup).result = .ok d) : d.root.kind = .element ∨ d.root.kind = .fragment := by
  obtain ⟨text, rfl, ⟨_, rfl⟩ | ⟨tree, root, sections, _, _, found, rfl⟩⟩ := read_cases h
  · exact .inr rfl
  · obtain ⟨before, tag, children, after, _, eq⟩ | eq :=
      readRoot?_cases o ((Place.ofTree tree).getD default)
    · rw [found, readOne] at eq
      split at eq
      · cases eq
        exact .inl rfl
      · cases eq
    · rw [found, Option.some.injEq] at eq
      rw [eq]
      exact .inr rfl

/-- A limit that lets any depth through lets the root through. -/
theorem reaches_zero_of_reaches {o : ReadOptions} {depth : Nat} (h : o.reaches depth = true) :
    o.reaches 0 = true := by
  unfold ReadOptions.reaches at h ⊢
  split at h
  · rfl
  · rw [decide_eq_true_eq] at h ⊢
    omega

/-- Below every node of a page that was read lie deeper ones only; a page that a limit leaves
nothing of but a fragment has none. -/
theorem depth_lt_of_read {o : ReadOptions} {markup : Option String} {d : Document}
    (h : (read o markup).result = .ok d) {m n : Node} (hm : m ∈ d.root.preorder)
    (hn : n ∈ preorderAll m.children) : m.depth < n.depth := by
  have alone : ∀ root : Node, root.children = [] → m ∈ root.preorder → m.depth < n.depth := by
    intro root bare hm
    rw [preorder_eq_cons, bare, preorderAll_nil, List.mem_singleton] at hm
    rw [hm, bare] at hn
    exact absurd hn List.not_mem_nil
  obtain ⟨text, rfl, ⟨_, rfl⟩ | ⟨tree, root, sections, _, _, found, rfl⟩⟩ := read_cases h
  · exact alone _ rfl hm
  · by_cases reaches : o.reaches 0 = true
    · have leveled := isLeveled_readRoot? reaches found
      exact (leveled.of_mem_preorder hm).depth_lt hn
    · obtain ⟨before, tag, children, after, _, eq⟩ | eq :=
        readRoot?_cases o ((Place.ofTree tree).getD default)
      · rw [found, readOne, if_neg reaches] at eq
        cases eq
      · rw [found, Option.some.injEq] at eq
        refine alone root ?_ hm
        rw [eq, List.eq_nil_iff_forall_not_mem]
        intro c hc
        cases isLeveled_readSlots o _ 1 1 _ c hc with
        | mk _ within _ => exact reaches (reaches_zero_of_reaches within)

/-- Every element of a kind lies in an outermost one of the kind, by its depth. -/
theorem exists_outermost_of_read {o : ReadOptions} {markup : Option String} {d : Document}
    (h : (read o markup).result = .ok d) {kind : Node → Bool} {n : Node}
    (hn : n ∈ d.root.elements) (hk : kind n = true) :
    ∃ m ∈ d.root.elements, kind m = true ∧ ¬ (d.root.around m).any kind = true ∧
      n ∈ m.preorder := by
  induction depth : n.depth using Nat.strong_induction_on generalizing n with
  | _ k ih =>
    subst depth
    by_cases outer : (d.root.around n).any kind = true
    · obtain ⟨m, hm, hk'⟩ := List.any_eq_true.1 outer
      obtain ⟨element, around⟩ := List.mem_filter.1 hm
      rw [Bool.and_eq_true, bne_iff_ne, List.contains_iff_mem] at around
      have below := mem_preorder_of_mem_ids (nodup_ids_of_read h) (List.mem_of_mem_filter element)
        (List.mem_of_mem_filter hn) around.2
      have deeper : m.depth < n.depth := by
        have within := below
        rw [preorder_eq_cons] at within
        rcases List.mem_cons.1 within with rfl | within
        · exact absurd rfl around.1
        · exact depth_lt_of_read h (List.mem_of_mem_filter element) within
      obtain ⟨top, mem, hk', outermost, inside⟩ := ih m.depth deeper element hk' rfl
      exact ⟨top, mem, hk', outermost, mem_preorder_trans below top inside⟩
    · exact ⟨n, hn, hk, outer, mem_preorder_self n⟩

/-- The blank page has the figures of its node. -/
theorem isTallied_blank : IsTallied blank where
  nodeCount := rfl
  deepest _ h := absurd h List.not_mem_nil
  attained h := absurd rfl h
  flat _ := rfl
  sortedTags := .nil
  tags _ := ⟨fun h => absurd h List.not_mem_nil, fun ⟨_, _, h, _⟩ => absurd h List.not_mem_nil⟩
  sortedClasses := .nil
  classes _ := ⟨fun h => absurd h List.not_mem_nil, fun ⟨_, h, _⟩ => absurd h List.not_mem_nil⟩
  sortedIds := .nil
  ids _ := ⟨fun h => absurd h List.not_mem_nil, fun ⟨_, h, _⟩ => absurd h List.not_mem_nil⟩

/-- A limit that is not negative lets the root through. -/
theorem reaches_zero {o : ReadOptions} (limit : ∀ l ∈ o.maxDepth, 0 ≤ l) : o.reaches 0 = true := by
  rw [ReadOptions.reaches]
  split
  next => rfl
  next l eq => exact decide_eq_true (limit l eq)

/-- Every tree has a page, and every page that is read is ordered, has the figures of its nodes, and
has the nodes of its arena in their order. -/
theorem isOrdered_and_isTallied (o : ReadOptions) (limit : ∀ l ∈ o.maxDepth, 0 ≤ l) :
    (∀ (top : Place) (m : Metadata) (sections : List PageSection),
      ∃ root, readRoot? o top = some root ∧
        IsOrdered o ⟨root, tally m root, sections⟩ ∧ IsTallied ⟨root, tally m root, sections⟩ ∧
        (Arena.ofPage o top).entries = root.preorder.map (Arena.entryIn root)) ∧
    ∀ (text : String) (d : Document), (read o (some text)).result = .ok d →
      IsOrdered o d ∧ IsTallied d ∧
        ∃ a, arenaOf o (trim text) = .ok a ∧ a.entries = d.nodes.map (Arena.entryIn d.root) := by
  have reaches := reaches_zero limit
  -- What is said of a page follows from its root alone; its sections may be any.
  have page : ∀ {top : Place} {root : Node} (m : Metadata) (sections : List PageSection),
      readRoot? o top = some root →
      IsOrdered o ⟨root, tally m root, sections⟩ ∧ IsTallied ⟨root, tally m root, sections⟩ :=
    fun m sections found =>
      ⟨isOrdered_of_numbered (isNumbered_readRoot? found) (isLeveled_readRoot? reaches found),
        isTallied_tally m _ sections⟩
  constructor
  · intro top m sections
    obtain ⟨root, found⟩ := exists_readRoot? reaches top
    obtain ⟨ordered, tallied⟩ := page m sections found
    exact ⟨root, found, ordered, tallied, Arena.entries_ofPage found⟩
  · intro text d h
    obtain ⟨_, same, h⟩ := read_cases h
    cases same
    rcases h with ⟨empty, rfl⟩ | ⟨tree, root, sections, filled, parsed, found, rfl⟩
    · have leveled : IsLeveled o 0 blank.root :=
        .mk rfl reaches fun _ hc => absurd hc List.not_mem_nil
      refine ⟨isOrdered_of_numbered isNumbered_blank leveled, isTallied_blank, ?_⟩
      exact ⟨_, by rw [arenaOf, empty]; rfl, rfl⟩
    · obtain ⟨ordered, tallied⟩ := page (describe (trim text) tree) sections found
      refine ⟨ordered, tallied, Arena.ofPage o ((Place.ofTree tree).getD default), ?_, ?_⟩
      · rw [arenaOf, if_neg (by rwa [beq_iff_eq]), parsed]
        rfl
      · exact Arena.entries_ofPage found

/-- A list of which only the items lie within the limit. -/
theorem isOrdered_and_isTallied_limited :
    ∃ d,
      (read { maxDepth := some 1 } (some "<ul><li>a</li><li><b>c</b></li></ul>")).result = .ok d ∧
      d.root.ids = ["node-0", "node-1", "node-2"] ∧
      IsOrdered { maxDepth := some 1 } d ∧ IsTallied d := by
  have known : (read { maxDepth := some 1 }
      (some "<ul><li>a</li><li><b>c</b></li></ul>")).result.toOption.map (fun d => d.root.ids) =
        some ["node-0", "node-1", "node-2"] := by decide +kernel
  cases h : (read { maxDepth := some 1 } (some "<ul><li>a</li><li><b>c</b></li></ul>")).result with
  | error e =>
    rw [h] at known
    cases known
  | ok d =>
    rw [h] at known
    have limit : ∀ l ∈ ({ maxDepth := some 1 } : ReadOptions).maxDepth, 0 ≤ l := by
      rintro l ⟨⟩
      decide
    obtain ⟨ordered, tallied, _⟩ :=
      (isOrdered_and_isTallied { maxDepth := some 1 } limit).2 _ d h
    exact ⟨d, rfl, Option.some.inj known, ordered, tallied⟩

end Componentry.Document
