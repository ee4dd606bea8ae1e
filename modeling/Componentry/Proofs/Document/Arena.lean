import Componentry.Proofs.Document.Numbering
import Componentry.Sum

/-!
# The arena of nodes

The nodes of a page can be kept side by side instead of within one another: an arena lists them in
the order in which they are made, each with the id of the node it stands in and the ids of the nodes
that stand in it. It is filled by a loop over a stack of trees that wait. A tree that is popped gets
the next number, unless it lies too deep or is not kept; it is listed by its owner, and what is kept
inside it goes on the stack. Each step only adds to the arena, so what a tree and all below it add
does not depend on what else waits: the loop gives the nodes in the order of the walk.
-/

set_option autoImplicit false

namespace Componentry.Markup.Tree

mutual
/-- The number of elements and strings of a tree. -/
def parts : Tree → Nat
  | .string _ _ => 1
  | .element _ children => partsAll children + 1

/-- The number of elements and strings of trees. -/
def partsAll : List Tree → Nat
  | [] => 0
  | t :: rest => parts t + partsAll rest
end

/-- A tree has at least one part. -/
theorem parts_pos (t : Tree) : 0 < parts t := by
  cases t with
  | string => rw [parts]; exact Nat.one_pos
  | element => rw [parts]; exact Nat.succ_pos _

end Componentry.Markup.Tree

namespace Componentry
open Componentry.Markup Componentry.Node Componentry.Document

/-- A node of an arena, with the id of the node it stands in and those of the nodes in it. -/
structure Entry where
  label : Label
  parent : Option String
  children : List String

/-- The nodes made so far, and the next free number. -/
structure Arena where
  next : Nat := 0
  entries : List Entry := []

/-- A tree that waits in its parent, the id of the node it goes into, and its depth. -/
structure Pending where
  parent : Place
  slot : Slot
  owner : Option String
  depth : Nat

namespace Pending

/-- The label of a tree under a number; a string that is not kept has none. -/
def label? (o : ReadOptions) (number : Nat) (p : Pending) : Option Label :=
  match p.slot.tree with
  | .element tag children =>
    some (elementLabel number p.depth (.child p.parent p.slot.before tag children p.slot.after))
  | .string kind text =>
    if o.keeps (.string kind text) then some (stringLabel number p.depth kind text) else none

/-- What is kept inside a tree and waits for the node of an id. -/
def inside (o : ReadOptions) (id : String) (p : Pending) : List Pending :=
  match p.slot.tree with
  | .element tag children =>
    ((slotsFrom [] children).filter fun s => o.keeps s.tree).map fun s =>
      ⟨.child p.parent p.slot.before tag children p.slot.after, s, some id, p.depth + 1⟩
  | .string _ _ => []

/-- The number of elements and strings of the trees that wait. -/
def size (stack : List Pending) : Nat := sumOf (stack.map fun p => p.slot.tree.parts)

@[simp] theorem size_cons (p : Pending) (rest : List Pending) :
    size (p :: rest) = p.slot.tree.parts + size rest := by
  rw [size, List.map_cons, sumOf_cons, size]

@[simp] theorem size_append (l m : List Pending) : size (l ++ m) = size l + size m := by
  rw [size, List.map_append, sumOf_append, size, size]

/-- The slots that wait for the kept trees of a list weigh no more than the list. -/
theorem size_slotsFrom_le (o : ReadOptions) (make : Slot → Pending)
    (same : ∀ s, (make s).slot = s) : ∀ (before l : List Tree),
    size (((slotsFrom before l).filter fun s => o.keeps s.tree).map make) ≤ Tree.partsAll l
  | _, [] => Nat.zero_le _
  | before, t :: rest => by
    have others := size_slotsFrom_le o make same (t :: before) rest
    rw [slotsFrom, List.filter_cons, Tree.partsAll]
    split
    · rw [List.map_cons, size_cons, same]
      exact Nat.add_le_add_left others _
    · exact Nat.le_trans others (Nat.le_add_left _ _)

/-- What is inside a tree is smaller than the tree. -/
theorem size_inside_lt (o : ReadOptions) (id : String) (p : Pending) :
    size (p.inside o id) < p.slot.tree.parts := by
  rw [inside]
  split
  next tag children eq =>
    have smaller := size_slotsFrom_le o
      (fun s => ⟨.child p.parent p.slot.before tag children p.slot.after, s, some id, p.depth + 1⟩)
      (fun _ => rfl) [] children
    rw [eq, Tree.parts]
    exact Nat.lt_succ_of_le smaller
  next => exact Tree.parts_pos _

end Pending

namespace Entry

/-- An entry lists more nodes if it is the one they go into. -/
def give (owner : Option String) (ids : List String) (e : Entry) : Entry :=
  if some e.label.id = owner then { e with children := e.children ++ ids } else e

end Entry

namespace Arena

/-- Adds a node, listed by its owner. -/
def add (a : Arena) (label : Label) (owner : Option String) : Arena :=
  { next := a.next + 1
    entries := a.entries.map (Entry.give owner [label.id]) ++ [⟨label, owner, []⟩] }

/-- Makes the nodes of the trees that wait, the last one put on the stack first. -/
def walk (o : ReadOptions) : List Pending → Arena → Arena
  | [], a => a
  | p :: rest, a =>
    if o.reaches p.depth then
      match p.label? o a.next with
      | some label => walk o (p.inside o label.id ++ rest) (a.add label p.owner)
      | none => walk o rest a
    else walk o rest a
termination_by stack => Pending.size stack
decreasing_by
  · have smaller := Pending.size_inside_lt o label.id p
    rw [Pending.size_append, Pending.size_cons]
    omega
  · have filled := p.slot.tree.parts_pos
    rw [Pending.size_cons]
    omega
  · have filled := p.slot.tree.parts_pos
    rw [Pending.size_cons]
    omega

/-- The arena of a page: its only element at the top and all below it, or a fragment and what is
kept at the top, one tree after the other. -/
def ofPage (o : ReadOptions) (top : Place) : Arena :=
  let parent := (shown top).1
  match keptSlots o top with
  | [⟨before, .element tag children, after⟩] =>
    walk o [⟨parent, ⟨before, .element tag children, after⟩, none, 0⟩] {}
  | kept =>
    kept.foldl (fun a s => walk o [⟨parent, s, some (numberedId 0), 1⟩] a)
      (add {} { id := numberedId 0, kind := .fragment } none)

/-! ## What a tree adds -/

mutual
/-- The entries of a node and all below it. -/
def entriesOf (owner : Option String) : Node → List Entry
  | .mk label children =>
    ⟨label, owner, children.map Node.id⟩ :: entriesAll (some label.id) children

/-- The entries of nodes that stand in an owner, and of all below them. -/
def entriesAll (owner : Option String) : List Node → List Entry
  | [] => []
  | n :: rest => entriesOf owner n ++ entriesAll owner rest
end

/-- An arena with nodes that go into an owner, and all below them. -/
def grow (a : Arena) (owner : Option String) (nodes : List Node) (next : Nat) : Arena :=
  { next
    entries := a.entries.map (Entry.give owner (nodes.map Node.id)) ++ entriesAll owner nodes }

/-- The entries of two forests in a row are those of the one, then those of the other. -/
theorem entriesAll_append (owner : Option String) : ∀ l m : List Node,
    entriesAll owner (l ++ m) = entriesAll owner l ++ entriesAll owner m
  | [], m => by rw [List.nil_append, entriesAll, List.nil_append]
  | n :: rest, m => by
    rw [List.cons_append, entriesAll, entriesAll, entriesAll_append owner rest m, List.append_assoc]

mutual
/-- The entries of a node carry the labels of its nodes in pre-order. -/
theorem labels_entriesOf (owner : Option String) : ∀ n : Node,
    (entriesOf owner n).map Entry.label = n.preorder.map Node.label
  | .mk label children => by
    rw [entriesOf, preorder_mk, List.map_cons, List.map_cons,
      labels_entriesAll (some label.id) children]
    rfl

/-- The entries of a forest carry the labels of its nodes in pre-order. -/
theorem labels_entriesAll (owner : Option String) : ∀ l : List Node,
    (entriesAll owner l).map Entry.label = (preorderAll l).map Node.label
  | [] => by rw [entriesAll, preorderAll_nil]; rfl
  | n :: rest => by
    rw [entriesAll, preorderAll_cons, List.map_append, List.map_append, labels_entriesOf owner n,
      labels_entriesAll owner rest]
end

/-- An entry that is not the owner is given no children. -/
theorem give_of_ne {owner : Option String} {ids : List String} {e : Entry}
    (h : some e.label.id ≠ owner) : e.give owner ids = e := if_neg h

/-- Where the owner is not among the entries, none of them is given children. -/
theorem map_give_of_ne {owner : Option String} {ids : List String} {entries : List Entry}
    (h : ∀ e ∈ entries, some e.label.id ≠ owner) :
    entries.map (Entry.give owner ids) = entries := by
  conv_rhs => rw [← List.map_id entries]
  exact List.map_congr_left fun e he => give_of_ne (h e he)

/-- To give no children changes nothing. -/
theorem give_nil (owner : Option String) (e : Entry) : e.give owner [] = e := by
  rw [Entry.give]
  split
  · rw [List.append_nil]
  · rfl

/-- To give children twice is to give them all, the later ones last. -/
theorem give_give (owner : Option String) (ids more : List String) (e : Entry) :
    (e.give owner ids).give owner more = e.give owner (ids ++ more) := by
  by_cases h : some e.label.id = owner
  · rw [Entry.give, Entry.give, if_pos h, if_pos h, Entry.give, if_pos h, List.append_assoc]
  · rw [give_of_ne h, give_of_ne h, give_of_ne h]

@[simp] theorem grow_nil (a : Arena) (owner : Option String) : a.grow owner [] a.next = a := by
  have kept : a.entries.map (Entry.give owner []) = a.entries := by
    conv_rhs => rw [← List.map_id a.entries]
    exact List.map_congr_left fun e _ => give_nil owner e
  rw [grow, List.map_nil, kept, entriesAll, List.append_nil]

/-- Nodes added one after the other to one owner. -/
theorem grow_grow {a : Arena} {owner : Option String} {l m : List Node} {next last : Nat}
    (other : ∀ e ∈ entriesAll owner l, some e.label.id ≠ owner) :
    (a.grow owner l next).grow owner m last = a.grow owner (l ++ m) last := by
  simp only [grow, Arena.mk.injEq, true_and, List.map_append, List.map_map, entriesAll_append,
    map_give_of_ne other, List.append_assoc]
  refine congrArg (· ++ _) (List.map_congr_left fun e _ => ?_)
  exact give_give owner _ _ e

/-- To add a label is to grow by a leaf. -/
theorem add_eq_grow (a : Arena) (label : Label) (owner : Option String) :
    a.add label owner = a.grow owner [.mk label []] (a.next + 1) := by
  rw [grow, entriesAll, entriesOf, entriesAll, entriesAll]
  rfl

/-- A node added, and then the nodes that stand in it. -/
theorem grow_add {a : Arena} {label : Label} {owner : Option String} {children : List Node}
    {next : Nat} (fresh : ∀ e ∈ a.entries, e.label.id ≠ label.id) :
    (a.add label owner).grow (some label.id) children next
      = a.grow owner [.mk label children] next := by
  have old : ∀ e ∈ a.entries.map (Entry.give owner [label.id]),
      some e.label.id ≠ some label.id := by
    intro e he same
    obtain ⟨e', he', rfl⟩ := List.mem_map.1 he
    refine fresh e' he' (Option.some.inj ?_)
    rw [Entry.give] at same
    split at same <;> exact same
  simp only [grow, add, Arena.mk.injEq, true_and, List.map_append, map_give_of_ne old, entriesAll,
    entriesOf, List.append_nil, List.append_assoc, List.map_cons, List.map_nil]
  rw [Entry.give, if_pos rfl]
  rfl

/-! ## The loop -/

/-- The ids of the arena, and the one of an owner, have numbers below the next free one. -/
structure IsReady (a : Arena) (owner : Option String) : Prop where
  entries : ∀ e ∈ a.entries, ∃ k, k < a.next ∧ e.label.id = numberedId k
  owner : ∀ id ∈ owner, ∃ k, k < a.next ∧ id = numberedId k

/-- The next number is the id of no entry. -/
theorem IsReady.ne_next {a : Arena} {owner : Option String} (h : a.IsReady owner) :
    ∀ e ∈ a.entries, e.label.id ≠ numberedId a.next := by
  intro e he same
  obtain ⟨k, hk, eq⟩ := h.entries e he
  rw [same, numberedId_inj] at eq
  exact absurd hk (eq ▸ Nat.lt_irrefl _)

/-- The ids of the entries of a numbered forest come from its numbers. -/
theorem exists_number_of_mem_entriesAll {owner : Option String} {l : List Node} {number next : Nat}
    (numbered : IsNumbered number next l) {e : Entry} (h : e ∈ entriesAll owner l) :
    ∃ k, number ≤ k ∧ k < next ∧ e.label.id = numberedId k := by
  have mem : e.label ∈ (preorderAll l).map Node.label := by
    rw [← labels_entriesAll owner l]
    exact List.mem_map_of_mem h
  obtain ⟨n, hn, eq⟩ := List.mem_map.1 mem
  obtain ⟨k, low, high, same⟩ := numbered.exists_number hn
  exact ⟨k, low, high, by rw [← eq]; exact same⟩

/-- Nodes that are added have ids of their own. -/
theorem IsReady.ne_owner {a : Arena} {owner other : Option String} {l : List Node} {next : Nat}
    (h : a.IsReady owner) (numbered : IsNumbered a.next next l) :
    ∀ e ∈ entriesAll other l, some e.label.id ≠ owner := by
  intro e he same
  obtain ⟨k, low, _, eq⟩ := exists_number_of_mem_entriesAll numbered he
  obtain ⟨j, hj, eq'⟩ := h.owner e.label.id same.symm
  rw [eq, numberedId_inj] at eq'
  omega

/-- An arena that has grown by a numbered forest is ready for more. -/
theorem IsReady.grow {a : Arena} {owner : Option String} {l : List Node} {next : Nat}
    (h : a.IsReady owner) (numbered : IsNumbered a.next next l) :
    (a.grow owner l next).IsReady owner := by
  have le : a.next ≤ next := numbered.le
  refine ⟨fun e he => ?_, fun id hid => ?_⟩
  · rcases List.mem_append.1 he with he | he
    · obtain ⟨e', he', rfl⟩ := List.mem_map.1 he
      obtain ⟨k, hk, eq⟩ := h.entries e' he'
      refine ⟨k, Nat.lt_of_lt_of_le hk le, ?_⟩
      rw [Entry.give]
      split <;> exact eq
    · obtain ⟨k, _, high, eq⟩ := exists_number_of_mem_entriesAll numbered he
      exact ⟨k, high, eq⟩
  · obtain ⟨k, hk, eq⟩ := h.owner id hid
    exact ⟨k, Nat.lt_of_lt_of_le hk le, eq⟩

/-- After a node is added, it can own others. -/
theorem IsReady.add {a : Arena} {owner : Option String} (h : a.IsReady owner) {label : Label}
    (here : label.id = numberedId a.next) : (a.add label owner).IsReady (some label.id) := by
  have grown := h.grow (.node here (.nil (a.next + 1)))
  rw [← add_eq_grow] at grown
  refine ⟨grown.entries, fun id hid => ?_⟩
  cases hid
  exact ⟨a.next, Nat.lt_succ_self _, here⟩

/-- A step of the walk: what is popped is labelled, added, and its slots are pushed. -/
theorem walk_cons (o : ReadOptions) (p : Pending) (rest : List Pending) (a : Arena) :
    walk o (p :: rest) a =
      if o.reaches p.depth then
        match p.label? o a.next with
        | some label => walk o (p.inside o label.id ++ rest) (a.add label p.owner)
        | none => walk o rest a
      else walk o rest a := by
  rw [walk]

/-- A string that is popped adds its node if it lies within the limit and is kept. -/
theorem walk_string (o : ReadOptions) (parent : Place) (before after : List Tree)
    (kind : StringKind) (text : String) (owner : Option String) (depth : Nat) (rest : List Pending)
    (a : Arena) :
    walk o (⟨parent, ⟨before, .string kind text, after⟩, owner, depth⟩ :: rest) a =
      if o.reaches depth && o.keeps (.string kind text) then
        walk o rest (a.add (stringLabel a.next depth kind text) owner)
      else walk o rest a := by
  rw [walk_cons]
  cases within : o.reaches depth with
  | false => rfl
  | true => cases kept : o.keeps (.string kind text) <;> simp [Pending.label?, Pending.inside, kept]

/-- A tree that is not kept gives no node and takes no number. -/
theorem readOne_of_not_keeps {o : ReadOptions} {parent : Place} {before after : List Tree}
    {depth number : Nat} {t : Tree} (h : ¬ o.keeps t = true) :
    readOne o parent before after depth number t = (none, number) := by
  cases t with
  | element => exact absurd rfl h
  | string kind text =>
    rw [readOne, if_neg]
    rw [Bool.and_eq_true]
    exact fun both => h both.2

mutual
/-- A tree that is popped adds its node and all below it. -/
theorem walk_one (o : ReadOptions) (parent : Place) (owner : Option String) :
    ∀ (t : Tree) (before after : List Tree) (depth : Nat) (rest : List Pending) (a : Arena),
      a.IsReady owner →
      walk o (⟨parent, ⟨before, t, after⟩, owner, depth⟩ :: rest) a =
        walk o rest (a.grow owner (readOne o parent before after depth a.next t).1.toList
          (readOne o parent before after depth a.next t).2)
  | .string kind text, before, after, depth, rest, a, ready => by
    rw [walk_string, readOne]
    split
    · rw [add_eq_grow]
      rfl
    · show walk o rest a = walk o rest (a.grow owner [] a.next)
      rw [grow_nil]
  | .element tag children, before, after, depth, rest, a, ready => by
    rw [walk_cons, readOne]
    -- The slots of the children are pushed above the rest, so the walk comes back to it after all
    -- of them.
    by_cases within : o.reaches depth = true
    · rw [if_pos within, if_pos within]
      let place := Place.child parent before tag children after
      have fresh := ready.ne_next
      have below := walk_all o place (some (numberedId a.next)) children [] (depth + 1) rest
        (a.add (elementLabel a.next depth place) owner) (ready.add rfl)
      exact below.trans (congrArg (walk o rest) (grow_add fresh))
    · rw [if_neg within, if_neg within]
      show walk o rest a = walk o rest (a.grow owner [] a.next)
      rw [grow_nil]

/-- What is kept of the trees of a list adds its nodes and all below them. -/
theorem walk_all (o : ReadOptions) (parent : Place) (owner : Option String) :
    ∀ (l before : List Tree) (depth : Nat) (rest : List Pending) (a : Arena),
      a.IsReady owner →
      walk o ((((slotsFrom before l).filter fun s => o.keeps s.tree).map fun s =>
          ⟨parent, s, owner, depth⟩) ++ rest) a =
        walk o rest (a.grow owner (readAll o parent before depth a.next l).1
          (readAll o parent before depth a.next l).2)
  | [], before, depth, rest, a, ready => by
    rw [readAll, grow_nil]
    rfl
  | t :: others, before, depth, rest, a, ready => by
    rw [slotsFrom, List.filter_cons, readAll]
    by_cases kept : o.keeps t = true
    · have numbered := isNumbered_readOne o parent before others depth a.next t
      rw [if_pos kept, List.map_cons, List.cons_append,
        walk_one o parent owner t before others depth _ a ready,
        walk_all o parent owner others (t :: before) depth rest _ (ready.grow numbered)]
      exact congrArg (walk o rest) (grow_grow (ready.ne_owner numbered))
    · rw [if_neg kept, readOne_of_not_keeps kept,
        walk_all o parent owner others (t :: before) depth rest a ready]
      rfl
end

/-- The walk ends when nothing waits. -/
theorem walk_nil (o : ReadOptions) (a : Arena) : walk o [] a = a := by
  rw [walk]

/-- Trees that are put on an empty stack one after the other add their nodes. -/
theorem foldl_walk (o : ReadOptions) (parent : Place) (owner : Option String) (depth : Nat) :
    ∀ (slots : List Slot) (a : Arena), a.IsReady owner →
      slots.foldl (fun a s => walk o [⟨parent, s, owner, depth⟩] a) a =
        a.grow owner (readSlots o parent depth a.next slots).1
          (readSlots o parent depth a.next slots).2
  | [], a, _ => by
    rw [readSlots, grow_nil]
    rfl
  | ⟨before, t, after⟩ :: rest, a, ready => by
    have numbered := isNumbered_readOne o parent before after depth a.next t
    rw [List.foldl_cons, walk_one o parent owner t before after depth [] a ready, walk_nil,
      foldl_walk o parent owner depth rest _ (ready.grow numbered), readSlots]
    exact grow_grow (ready.ne_owner numbered)

/-- The empty arena is ready for the root. -/
theorem isReady_empty : IsReady {} none :=
  ⟨fun _ h => absurd h List.not_mem_nil, fun _ h => absurd h (Option.not_mem_none _)⟩

/-- The arena of a page is what its root adds to the empty one. -/
theorem ofPage_eq {o : ReadOptions} {top : Place} {root : Node} (h : readRoot? o top = some root) :
    ∃ next, ofPage o top = grow {} none [root] next := by
  rw [ofPage]
  split
  next before tag children after kept =>
    rw [readRoot?_of_element kept] at h
    rw [walk_one o _ none _ before after 0 [] {} isReady_empty, walk_nil]
    exact ⟨_, congrArg (fun n => grow {} none n.toList _) h⟩
  next several =>
    rw [readRoot?_of_several several] at h
    cases h
    have ready : (add {} { id := numberedId 0, kind := .fragment } none).IsReady
        (some (numberedId 0)) := isReady_empty.add rfl
    rw [foldl_walk o _ _ 1 _ _ ready]
    exact ⟨_, grow_add fun _ he => absurd he List.not_mem_nil⟩

/-! ## Entries by ids -/

/-- The entry of a node below a root. -/
def entryIn (root n : Node) : Entry := ⟨n.label, root.parentId? n.id, n.children.map Node.id⟩

mutual
/-- Entries say what the nodes say, where a parent is known for every node that is met. -/
theorem entriesOf_eq {parent : String → Option String} : ∀ (n : Node) {owner : Option String},
    parent n.id = owner → (∀ m ∈ n.preorder, ∀ c ∈ m.children, parent c.id = some m.id) →
    entriesOf owner n = n.preorder.map fun m => ⟨m.label, parent m.id, m.children.map Node.id⟩
  | .mk label children, owner, here, below => by
    have own : ∀ c ∈ children, parent c.id = some label.id :=
      below (.mk label children) (mem_preorder_self _)
    have others : ∀ m ∈ preorderAll children, ∀ c ∈ m.children, parent c.id = some m.id :=
      fun m hm => below m (by rw [preorder_mk]; exact List.mem_cons_of_mem _ hm)
    rw [entriesOf, preorder_mk, List.map_cons, here, entriesAll_eq children own others]
    rfl

/-- The entries, written with a map of parents instead of the owner that is handed down. -/
theorem entriesAll_eq {parent : String → Option String} : ∀ (l : List Node) {owner : Option String},
    (∀ n ∈ l, parent n.id = owner) →
    (∀ m ∈ preorderAll l, ∀ c ∈ m.children, parent c.id = some m.id) →
    entriesAll owner l =
      (preorderAll l).map fun m => ⟨m.label, parent m.id, m.children.map Node.id⟩
  | [], _, _, _ => by
    rw [entriesAll, preorderAll_nil]
    rfl
  | n :: rest, owner, here, below => by
    rw [preorderAll_cons] at below ⊢
    rw [entriesAll, List.map_append,
      entriesOf_eq n (here n List.mem_cons_self) fun m hm => below m (List.mem_append_left _ hm),
      entriesAll_eq rest (fun m hm => here m (List.mem_cons_of_mem _ hm))
        fun m hm => below m (List.mem_append_right _ hm)]
end

/-- The arena lists the nodes in the order of the walk from the root, each with its parent and its
children. -/
theorem entries_ofPage {o : ReadOptions} {top : Place} {root : Node}
    (h : readRoot? o top = some root) :
    (ofPage o top).entries = root.preorder.map (entryIn root) := by
  obtain ⟨next, eq⟩ := ofPage_eq h
  have distinct : root.ids.Nodup := by
    have := (isNumbered_readRoot? h).nodup
    rwa [preorderAll_cons, preorderAll_nil, List.append_nil] at this
  rw [eq]
  show [] ++ entriesAll none [root] = _
  rw [List.nil_append, entriesAll, entriesAll, List.append_nil]
  exact entriesOf_eq root (parentId?_self distinct) fun m hm c hc =>
    parentId?_of_mem_children distinct hm hc

end Arena
end Componentry
