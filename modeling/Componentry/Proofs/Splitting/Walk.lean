import Componentry.Proofs.Document.Tidy
import Componentry.Proofs.Outcome
import Componentry.Proofs.Splitting.Growth
import Componentry.Proofs.Splitting.Page
import Componentry.Proofs.Splitting.Reports

/-!
# The way through a page

A way stands behind the elements extracted so far: it has their components, their names and as many
ids. Meeting an element brings it behind one more or keeps it where it is, so that behind a page it
stands behind what the visits of the page extract. Only ids of nodes met before are known, so where
ids are distinct every element is met.
-/

set_option autoImplicit false

namespace Componentry
open Componentry.Text

variable {α : Type}

/-! ## Visits one by one -/

namespace Visit
variable {decide : Node → Option (Decision α)} {deepest : Int} {depth : Nat} {owner : Option String}
  {n : Node}

/-- The visit to an element alone; there is none below the limit. -/
def met (decide : Node → Option (Decision α)) (deepest : Int) (depth : Nat) (owner : Option String)
    (n : Node) : List (Visit α) :=
  if deepest < depth then [] else [⟨n, depth, owner, decide n⟩]

/-- How many components are around what is inside an element, and the node of the nearest one. -/
def around (decide : Node → Option (Decision α)) (deepest : Int) (depth : Nat)
    (owner : Option String) (n : Node) : Nat × Option String :=
  if deepest < depth then (depth, owner)
  else if (decide n).isSome then (depth + 1, some n.id) else (depth, owner)

section
variable (decide) (owner) (n)

/-- Too deep inside, no element is met. -/
theorem met_of_lt (below_ : deepest < depth) : met decide deepest depth owner n = [] :=
  if_pos below_

/-- Too deep inside, no more components are around. -/
theorem around_of_lt (below_ : deepest < depth) :
    around decide deepest depth owner n = (depth, owner) :=
  if_pos below_

end

section
variable (owner) (above : ¬ deepest < depth)
include above

/-- An element that is met is visited with what is decided on it. -/
theorem met_of_eq {d : Option (Decision α)} (found : decide n = d) :
    met decide deepest depth owner n = [⟨n, depth, owner, d⟩] := by
  rw [met, if_neg above, found]

/-- An element that is not extracted adds nothing around what is inside. -/
theorem around_of_none (found : decide n = none) :
    around decide deepest depth owner n = (depth, owner) := by
  rw [around, if_neg above, found]
  rfl

/-- An extracted element is the nearest component around what is inside. -/
theorem around_of_some {d : Decision α} (found : decide n = some d) :
    around decide deepest depth owner n = (depth + 1, some n.id) := by
  rw [around, if_neg above, found]
  rfl

end

/-- Too deep inside, nothing is met. -/
theorem belowAll_of_lt (below_ : deepest < depth) : ∀ l : List Node,
    belowAll decide deepest depth owner l = []
  | [] => rfl
  | .mk label children :: rest => by
    rw [belowAll, below, if_pos (by rw [decide_eq_true below_, Bool.or_true]), List.nil_append,
      belowAll_of_lt below_ rest]

/-- Nothing is met in what is no element. -/
theorem below_of_not_isElement (other : ¬ n.isElement = true) :
    below decide deepest depth owner n = [] := by
  obtain ⟨label, children⟩ := n
  rw [below, if_pos (by rw [Node.kind_of_not_isElement other, Bool.true_or])]

/-- The visits to an element and those below it are the one to the element and those inside it. -/
theorem below_eq (element : n.isElement = true) : below decide deepest depth owner n =
    met decide deepest depth owner n ++
      belowAll decide deepest (around decide deepest depth owner n).1
        (around decide deepest depth owner n).2 n.children := by
  obtain ⟨label, children⟩ := n
  rw [below, Node.kind_of_isElement element, Bool.false_or]
  by_cases below_ : deepest < (depth : Int)
  · rw [if_pos (decide_eq_true below_), met_of_lt _ _ _ below_, around_of_lt _ _ _ below_,
      belowAll_of_lt below_]
    rfl
  · rw [if_neg (by rw [decide_eq_true_eq]; exact below_)]
    cases found : decide (.mk label children) with
    | none =>
      rw [met_of_eq owner below_ found, around_of_none owner below_ found]
      simp only [found]
      rfl
    | some decision =>
      rw [met_of_eq owner below_ found, around_of_some owner below_ found]
      simp only [found]
      rfl

/-- What visits are in trouble for. -/
def troubles (o : SplitOptions α) (l : List (Visit α)) : Troubles :=
  l.flatMap fun v => Decision.troubles (o.selectors.map CustomSelector.ofText) v.node

/-- The troubles of visits in a row are those of the one list, then those of the other. -/
theorem troubles_append (o : SplitOptions α) (l m : List (Visit α)) :
    troubles o (l ++ m) = troubles o l ++ troubles o m := List.flatMap_append

end Visit

/-- The decisions on the elements of a page with patterns. -/
def SplitOptions.decide? [Score α] (o : SplitOptions α) (patterns : List (Pattern α)) :
    Node → Option (Decision α) :=
  Decision.of? o (o.selectors.map CustomSelector.ofText) patterns

/-- The giver of names for a page. -/
def SplitOptions.namer (o : SplitOptions α) : Namer := { convention := o.convention }

namespace Extracting
open Extraction Visit

/-! ## Standing behind extracted elements -/

/-- A way stands behind extracted elements. -/
structure Stands [Score α] (o : SplitOptions α) (l : List (Extraction α)) (p : Extracting α) :
    Prop where
  options : p.options = o
  namer : p.namer = naming o.namer l
  count : p.count = l.length
  names : p.names = Extraction.names o.namer l
  components : p.components = (List.range l.length).map componentId
  extracted : p.extracted.entries = byId (Extraction.components o.namer l)
  visited : ∀ e ∈ l, e.node.id ∈ p.visited
  distinct : (l.map fun e => e.node.id).Nodup
  owned : AreOwned l
  knows : p.KnowsUnreadable

/-- Nodes are ahead of a way: none of them was met. -/
structure AreAhead (l : List Node) (p : Extracting α) : Prop where
  distinct : (l.map Node.id).Nodup
  new : ∀ n ∈ l, n.id ∉ p.visited
  asked : ∀ n ∈ l, n.isElement = true → PageSection.IsAsked n

/-- A way comes to meet only some nodes. -/
def MeetsOnly (l : List Node) (p p' : Extracting α) : Prop :=
  ∀ id ∈ p'.visited, id ∈ p.visited ∨ id ∈ l.map Node.id

/-- Two ways in a row meet the nodes of the one, then those of the other. -/
theorem MeetsOnly.trans {l m : List Node} {p p' p'' : Extracting α} (h : MeetsOnly l p p')
    (h' : MeetsOnly m p' p'') : MeetsOnly (l ++ m) p p'' := fun id mem => by
  rw [List.map_append, List.mem_append]
  rcases h' id mem with mem | mem
  · exact (h id mem).imp_right .inl
  · exact .inr (.inr mem)

/-- What is ahead of a way is ahead in each of its parts. -/
theorem AreAhead.left {l m : List Node} {p : Extracting α} (h : AreAhead (l ++ m) p) :
    AreAhead l p where
  distinct := by
    have both := h.distinct
    rw [List.map_append] at both
    exact both.of_append_left
  new n hn := h.new n (List.mem_append_left m hn)
  asked n hn := h.asked n (List.mem_append_left m hn)

/-- What was ahead behind other nodes is ahead when these are met. -/
theorem AreAhead.right {l m : List Node} {p p' : Extracting α} (h : AreAhead (l ++ m) p)
    (only : MeetsOnly l p p') : AreAhead m p' where
  distinct := by
    have both := h.distinct
    rw [List.map_append] at both
    exact both.of_append_right
  new n hn mem := by
    have both := h.distinct
    rw [List.map_append, List.nodup_append] at both
    rcases only n.id mem with mem | mem
    · exact h.new n (List.mem_append_right l hn) mem
    · exact both.2.2 n.id mem n.id (List.mem_map_of_mem hn) rfl
  asked n hn := h.asked n (List.mem_append_right l hn)

variable [Score α] {o : SplitOptions α} {l : List (Extraction α)} {p p' : Extracting α}

/-- A new way stands at its start, with nothing extracted. -/
theorem stands_new (o : SplitOptions α) : Stands o [] { toExtractor := .ofOptions o } where
  options := rfl
  namer := rfl
  count := rfl
  names := rfl
  components := rfl
  extracted := rfl
  visited _ h := nomatch h
  distinct := List.nodup_nil
  owned _ h := nomatch h
  knows _ h := nomatch h

/-- A way that only took notes stands where it stood. -/
theorem Stands.of_onlyNotes (h : Stands o l p) (only : OnlyNotes p p')
    (knows : p'.KnowsUnreadable) :
    Stands o l p' := by
  rw [OnlyNotes] at only
  rw [only] at knows ⊢
  exact { h with knows }

omit [Score α] in
/-- A way that only notes a selector has met what it had met. -/
theorem OnlyNotes.visited (only : OnlyNotes p p') : p'.visited = p.visited := by
  rw [OnlyNotes] at only
  rw [only]

/-- A way that met another node stands where it stood. -/
theorem Stands.meet (h : Stands o l p) (id : String) :
    Stands o l { p with visited := p.visited ++ [id] } :=
  { h with visited := fun e he => List.mem_append_left _ (h.visited e he) }

/-- The components found are those of the extracted elements. -/
theorem Stands.found (h : Stands o l p) :
    p.components.filterMap p.extracted.get? = Extraction.components o.namer l := by
  have ids : p.components = (Extraction.components o.namer l).map Component.id := by
    rw [h.components, map_id_components]
  rw [ids, List.filterMap_map]
  refine (List.filterMap_congr fun c hc => ?_).trans (List.filterMap_some)
  refine Dict.get?_eq_some_iff_mem.2 ?_
  rw [h.extracted]
  exact List.mem_map_of_mem hc

/-! ## Steps -/

/-- Extracting an element brings a way behind it. -/
theorem reports_extract (h : Stands o l p) {e : Extraction α} (known : Knows l e.owner)
    (new : e.node.id ∉ l.map fun e => e.node.id) (met : e.node.id ∈ p.visited) :
    Reports [] p
      (fun id p' => id = componentId l.length ∧ Stands o (l ++ [e]) p' ∧ p'.visited = p.visited)
      ((extract e.node e.depth (e.owner.bind (idOfNode? l)) e.decision).run p) := by
  have given : p.names ⊆ (naming o.namer l).given := by
    rw [h.names]
    exact List.subset_append_right _ _
  have named : p.namer.name { nameRequest { e with owner := none } with existing := p.names } =
      (naming o.namer l).name e.nameRequest := by
    rw [h.namer]
    exact Namer.claim_of_subset given _
  rw [extract, Operation.run_take]
  dsimp only
  rw [named, h.count]
  refine .ok rfl rfl ⟨rfl, ?_, rfl⟩
  exact {
    options := h.options
    namer := (naming_concat o.namer l e).symm
    count := by
      rw [List.length_append]
      rfl
    names := by rw [names_concat, h.names]
    components := by
      rw [List.length_append, List.length_singleton, List.range_succ, List.map_append, h.components]
      rfl
    extracted := entries_next h.distinct h.owned known new h.extracted
    visited := by
      intro f hf
      rcases List.mem_append.1 hf with hf | hf
      · exact h.visited f hf
      · rw [List.mem_singleton.1 hf]
        exact met
    distinct := by
      rw [List.map_append]
      exact List.nodup_append.2 ⟨h.distinct, List.nodup_singleton _, fun k hk k' hk' same => new (by
        rw [List.map_singleton, List.mem_singleton] at hk'
        rwa [← hk', ← same])⟩
    owned := h.owned.concat known
    knows := h.knows }

variable {depth : Nat} {owner : Option String} {n : Node}

/-- Meeting an element brings a way behind what the visit to it extracts. -/
theorem reports_meet (h : Stands o l p) (known : Knows l owner) (asked : PageSection.IsAsked n)
    (new : n.id ∉ p.visited) (patterns : List (Pattern α)) :
    let visits := met (o.decide? patterns) o.deepest depth owner n
    let inside := around (o.decide? patterns) o.deepest depth owner n
    Reports (Visit.troubles o visits) p
      (fun r p' =>
        r = (inside.1, inside.2.bind (idOfNode? (l ++ visits.filterMap Visit.extraction?))) ∧
        Knows (l ++ visits.filterMap Visit.extraction?) inside.2 ∧
        Stands o (l ++ visits.filterMap Visit.extraction?) p' ∧ MeetsOnly [n] p p')
      ((meet patterns depth (owner.bind (idOfNode? l)) n).run p) := by
  have first : Reports [] p
      (fun _ p' => Stands o l p' ∧ MeetsOnly [n] p p' ∧ n.id ∈ p'.visited)
      ((Operation.change fun p : Extracting α =>
        { p with visited := p.visited ++ [n.id] }).run p) :=
    .ok rfl rfl ⟨h.meet n.id, fun _ mem => List.mem_append.1 mem, List.mem_concat_self⟩
  dsimp only
  rw [meet]
  refine first.bind (m := Visit.troubles o _) fun _ p₁ ⟨here, only, met⟩ => ?_
  rw [Operation.run_bind_of_eq_ok Operation.run_kept, here.options]
  -- Too deep the element is only noted; else it is decided on, and extracted if that says so.
  by_cases below_ : o.deepest < (depth : Int)
  · rw [if_pos below_, met_of_lt _ _ _ below_, around_of_lt _ _ _ below_, List.filterMap_nil,
      List.append_nil]
    exact .ok rfl rfl ⟨rfl, known, here, only⟩
  · have decided := reports_decide asked here.knows patterns
    rw [here.options] at decided
    rw [if_neg below_, met_of_eq owner below_ rfl]
    refine decided.bind fun d p₂ ⟨found, notes, knows⟩ => ?_
    have stands := here.of_onlyNotes notes knows
    rw [← notes.visited] at met
    have only : MeetsOnly [n] p p₂ := fun id mem => only id (notes.visited ▸ mem)
    have found : o.decide? patterns n = d := found.symm
    rw [found]
    cases d with
    | none =>
      rw [around_of_none owner below_ found]
      have same : l ++ [(⟨n, depth, owner, none⟩ : Visit α)].filterMap Visit.extraction? = l :=
        List.append_nil l
      rw [same]
      exact .ok rfl rfl ⟨rfl, known, stands, only⟩
    | some decision =>
      rw [around_of_some owner below_ found]
      have unextracted : n.id ∉ l.map fun e => e.node.id := fun mem => by
        obtain ⟨e, he, same⟩ := List.mem_map.1 mem
        exact new (same ▸ h.visited e he)
      have extracted :=
        reports_extract stands (e := ⟨n, depth, owner, decision⟩) known unextracted met
      refine extracted.bind fun id p₃ ⟨made, stands, visited⟩ => ?_
      refine .ok rfl rfl ⟨?_, knows_concat l _, stands, fun id mem => only id (visited ▸ mem)⟩
      rw [made]
      exact congrArg (depth + 1, ·) (idOfNode?_concat stands.distinct).symm

/-! ## Whole pages -/

mutual
/-- Visiting an element brings a way behind what is extracted of it and below it. -/
theorem reports_visit (patterns : List (Pattern α)) : ∀ (n : Node) (depth : Nat)
    {owner : Option String} {l : List (Extraction α)} {p : Extracting α}, Stands o l p →
    Knows l owner → AreAhead n.preorder p →
    let visits := below (o.decide? patterns) o.deepest depth owner n
    Reports (Visit.troubles o visits) p
      (fun _ p' => Stands o (l ++ visits.filterMap Visit.extraction?) p' ∧
        MeetsOnly n.preorder p p')
      ((visit patterns depth (owner.bind (idOfNode? l)) n).run p)
  | .mk label children, level, outer, l, p, h, known, ahead => by
    dsimp only
    rw [Node.preorder_mk, ← List.singleton_append] at ahead ⊢
    rw [visit, Operation.run_bind_of_eq_ok Operation.run_kept]
    have first : Node.mk label children ∈ [Node.mk label children] ++ Node.preorderAll children :=
      List.mem_cons_self
    have new : label.id ∉ p.visited := ahead.new _ first
    have unmet : p.visited.contains label.id = false := by
      rw [← Bool.not_eq_true, List.contains_iff_mem]
      exact new
    -- Only an element goes on to its children, with what is around them now.
    by_cases element : (Node.mk label children).isElement = true
    · rw [Node.kind_of_isElement element, unmet, Bool.or_false, if_neg Bool.false_ne_true,
        below_eq element, Visit.troubles_append, List.filterMap_append, ← List.append_assoc]
      refine (reports_meet h known (ahead.asked _ first element) new patterns).bind
        fun r p' ⟨inside, known', stands, only⟩ => ?_
      rw [inside]
      exact (reports_visitAll patterns children _ stands known' (ahead.right only)).imp
        fun _ p'' ⟨stands, only'⟩ => ⟨stands, only.trans only'⟩
    · rw [Node.kind_of_not_isElement element, Bool.true_or, if_pos rfl,
        below_of_not_isElement element, List.filterMap_nil, List.append_nil]
      exact .ok rfl rfl ⟨h, fun _ => .inl⟩

/-- Visiting the elements of a list brings a way behind what is extracted of them and below them. -/
theorem reports_visitAll (patterns : List (Pattern α)) : ∀ (ns : List Node) (depth : Nat)
    {owner : Option String} {l : List (Extraction α)} {p : Extracting α}, Stands o l p →
    Knows l owner → AreAhead (Node.preorderAll ns) p →
    let visits := belowAll (o.decide? patterns) o.deepest depth owner ns
    Reports (Visit.troubles o visits) p
      (fun _ p' => Stands o (l ++ visits.filterMap Visit.extraction?) p' ∧
        MeetsOnly (Node.preorderAll ns) p p')
      ((visitAll patterns depth (owner.bind (idOfNode? l)) ns).run p)
  | [], level, outer, l, p, h, known, ahead => by
    dsimp only
    rw [visitAll, belowAll, List.filterMap_nil, List.append_nil]
    exact .ok rfl rfl ⟨h, fun _ => .inl⟩
  | n :: rest, level, outer, l, p, h, known, ahead => by
    dsimp only
    rw [visitAll, belowAll, Visit.troubles_append, List.filterMap_append, ← List.append_assoc]
    rw [Node.preorderAll_cons] at ahead ⊢
    refine (reports_visit patterns n level h known ahead.left).bind fun _ p' ⟨stands, only⟩ => ?_
    have later := reports_visitAll patterns rest level stands (known.append _) (ahead.right only)
    rw [known.bind_idOfNode?_append] at later
    exact later.imp fun _ p'' ⟨stands, only'⟩ => ⟨stands, only.trans only'⟩
end

/-- Going through a page brings a way behind what is extracted of it. -/
theorem reports_page (h : Stands o [] p) {root : Node} (ahead : AreAhead root.preorder p)
    (patterns : List (Pattern α)) :
    let visits := ofRoot (o.decide? patterns) o.deepest root
    Reports (Visit.troubles o visits) p
      (fun _ p' => Stands o (visits.filterMap Visit.extraction?) p')
      ((page patterns root).run p) := by
  dsimp only
  rw [page, ofRoot]
  by_cases element : root.isElement = true
  · rw [if_pos element, if_pos element]
    exact (reports_visit patterns root 0 h (knows_none []) ahead).imp fun _ _ => And.left
  · rw [if_neg element, if_neg element, Node.elementChildren, belowAll_filter_isElement]
    obtain ⟨label, children⟩ := root
    rw [Node.preorder_mk, ← List.singleton_append] at ahead
    have first : Reports [] p
        (fun _ p' => Stands o [] p' ∧ MeetsOnly [.mk label children] p p')
        ((Operation.change fun p : Extracting α =>
          { p with visited := p.visited ++ [label.id] }).run p) :=
      .ok rfl rfl ⟨h.meet label.id, fun _ mem => List.mem_append.1 mem⟩
    refine first.bind (m := Visit.troubles o _) fun _ p' met => ?_
    obtain ⟨stands, only⟩ := met
    exact (reports_visitAll patterns children 0 stands (knows_none []) (ahead.right only)).imp
      fun _ _ => And.left

/-- The components of a page are those of what is extracted of it. -/
theorem reports_componentsOf (h : Stands o [] p) {root : Node} (ahead : AreAhead root.preorder p)
    (patterns : List (Pattern α)) :
    let visits := ofRoot (o.decide? patterns) o.deepest root
    Reports (Visit.troubles o visits) p
      (fun found _ => found = Extraction.components o.namer (visits.filterMap Visit.extraction?))
      ((componentsOf patterns root).run p) := by
  dsimp only
  rw [componentsOf, ← List.append_nil (Visit.troubles o _)]
  refine (reports_page h ahead patterns).bind fun _ p' stands => ?_
  rw [Operation.run_bind_of_eq_ok Operation.run_kept]
  exact .ok rfl rfl stands.found

end Extracting
end Componentry
