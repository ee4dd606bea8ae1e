import Componentry.Proofs.Dict
import Componentry.Proofs.Splitting.Components
import Componentry.Splitting.Splitter

/-!
# Components one by one

Each element that is extracted after others adds a component at the end, and enters it into the
component of its owner; all others stay as they are. So the components of a page can be made one by
one, each complete but for what is found inside it later.
-/

set_option autoImplicit false

namespace Componentry.Extraction
open Componentry.Text

variable {α : Type}

/-- What a namer holds after naming extracted elements. -/
def naming (namer : Namer) (l : List (Extraction α)) : Namer :=
  { namer with given := namer.given ++ names namer l }

/-- The names of extracted elements are claimed one after another. -/
theorem naming_cons (namer : Namer) (e : Extraction α) (l : List (Extraction α)) :
    naming namer (e :: l) = naming (namer.name e.nameRequest).2 l := by
  have given : namer.given ++ names namer (e :: l) =
      (namer.name e.nameRequest).2.given ++ names (namer.name e.nameRequest).2 l :=
    (List.append_assoc namer.given [_] _).symm
  rw [naming, given]
  rfl

/-- Elements that are extracted later get their names from what the earlier ones left. -/
theorem names_append : ∀ (namer : Namer) (l m : List (Extraction α)),
    names namer (l ++ m) = names namer l ++ names (naming namer l) m
  | namer, [], m => by
    have same : naming namer ([] : List (Extraction α)) = namer := by
      rw [naming, names, List.append_nil]
    rw [same]
    rfl
  | namer, e :: rest, m => by
    rw [List.cons_append, names, names, naming_cons, List.cons_append]
    exact congrArg (_ :: ·) (names_append _ rest m)

variable {l : List (Extraction α)} {e : Extraction α}

/-- One more element gets a name from what the others left. -/
theorem names_concat (namer : Namer) (l : List (Extraction α)) (e : Extraction α) :
    names namer (l ++ [e]) = names namer l ++ [((naming namer l).name e.nameRequest).1] :=
  names_append namer l [e]

/-- One more element claims its name. -/
theorem naming_concat (namer : Namer) (l : List (Extraction α)) (e : Extraction α) :
    naming namer (l ++ [e]) = ((naming namer l).name e.nameRequest).2 := by
  rw [naming, names_concat, ← List.append_assoc]
  rfl

/-- An owner is one of extracted elements, if there is one. -/
def Knows (l : List (Extraction α)) (owner : Option String) : Prop :=
  ∀ k, owner = some k → k ∈ l.map fun e => e.node.id

/-- Every owner among extracted elements is one of them. -/
def AreOwned (l : List (Extraction α)) : Prop := ∀ e ∈ l, Knows l e.owner

/-- What is inside no component is known. -/
theorem knows_none (l : List (Extraction α)) : Knows l none := fun _ h => nomatch h

/-- What is known stays so when more is extracted. -/
theorem Knows.append {owner : Option String} (h : Knows l owner) (m : List (Extraction α)) :
    Knows (l ++ m) owner := fun k same => by
  rw [List.map_append]
  exact List.mem_append_left _ (h k same)

/-- An element that was extracted is known. -/
theorem knows_concat (l : List (Extraction α)) (e : Extraction α) :
    Knows (l ++ [e]) (some e.node.id) := fun k same => by
  rw [← Option.some.inj same]
  exact List.mem_map_of_mem List.mem_concat_self

/-- One more element with a known owner leaves all of them owned. -/
theorem AreOwned.concat (owned : AreOwned l) (known : Knows l e.owner) : AreOwned (l ++ [e]) :=
  fun f hf => by
    rcases List.mem_append.1 hf with hf | hf
    · exact (owned f hf).append [e]
    · rw [List.mem_singleton.1 hf]
      exact known.append [e]

/-- Components that are made later change no id. -/
theorem Knows.bind_idOfNode?_append {owner : Option String} (h : Knows l owner)
    (m : List (Extraction α)) : owner.bind (idOfNode? (l ++ m)) = owner.bind (idOfNode? l) := by
  cases owner with
  | none => rfl
  | some k =>
    obtain ⟨e, he, rfl⟩ := List.mem_map.1 (h k rfl)
    have found : (l.findIdx? fun i => i.node.id == e.node.id).isSome = true := by
      rw [List.findIdx?_isSome, List.any_eq_true]
      exact ⟨e, he, beq_self_eq_true _⟩
    obtain ⟨i, found⟩ := Option.isSome_iff_exists.1 found
    rw [Option.bind_some, Option.bind_some, idOfNode?, idOfNode?, List.findIdx?_append, found]
    rfl

/-- The last element has the last id. -/
theorem idOfNode?_concat (distinct : ((l ++ [e]).map fun e => e.node.id).Nodup) :
    idOfNode? (l ++ [e]) e.node.id = some (componentId l.length) := by
  refine idOfNode?_of_mem distinct ?_
  rw [List.zipIdx_append, Nat.zero_add]
  exact List.mem_concat_self

/-- One more element is inside its owner only. -/
theorem idsInside_concat (l : List (Extraction α)) (e : Extraction α) (k : String) :
    idsInside (l ++ [e]) k =
      idsInside l k ++ if e.owner == some k then [componentId l.length] else [] := by
  rw [idsInside, List.zipIdx_append, List.filter_append, List.map_append]
  refine congrArg (_ ++ ·) ?_
  rw [Nat.zero_add, List.zipIdx_singleton, List.filter_singleton]
  dsimp only
  cases e.owner == some k <;> rfl

/-- No component is inside a node that is no owner. -/
theorem idsInside_eq_nil {k : String} (none_ : ∀ e ∈ l, e.owner ≠ some k) : idsInside l k = [] := by
  rw [idsInside, List.map_eq_nil_iff, List.filter_eq_nil_iff]
  intro p hp
  rw [beq_iff_eq]
  exact none_ p.1 (List.fst_mem_of_mem_zipIdx hp)

/-- The component of an element that is extracted next, before anything is found inside it. -/
def nextComponent [Score α] (namer : Namer) (l : List (Extraction α)) (e : Extraction α) :
    Component α :=
  { component [] { e with owner := none } ((naming namer l).name e.nameRequest).1 l.length with
    parentId := e.owner.bind (idOfNode? l) }

/-- A component with what is found inside it next. -/
def enterNext (l : List (Extraction α)) (e : Extraction α) (c : Component α) : Component α :=
  if e.owner = some c.nodeId then c.hold (componentId l.length) else c

variable [Score α] {namer : Namer}

/-- An element that is extracted after others adds its component, and enters it into that of its
owner. -/
theorem components_concat (owned : AreOwned l) (known : Knows l e.owner)
    (new : e.node.id ∉ l.map fun e => e.node.id) :
    components namer (l ++ [e]) =
      (components namer l).map (enterNext l e) ++ [nextComponent namer l e] := by
  have named := names_concat namer l e
  have size := length_names namer l
  rw [components_eq, components_eq, List.zipIdx_append, List.map_append, List.map_map, Nat.zero_add,
    List.zipIdx_singleton, List.map_singleton]
  -- The components there were change by what is inside them at most; the new one has nothing
  -- inside.
  refine congrArg₂ (· ++ [·]) (List.map_congr_left fun p hp => ?_) ?_
  · obtain ⟨f, i⟩ := p
    obtain ⟨small, here⟩ := List.mem_zipIdx' hp
    have name : (names namer (l ++ [e]))[i]? = (names namer l)[i]? := by
      rw [named, List.getElem?_append_left (size ▸ small)]
    have parent := (owned f (here ▸ List.getElem_mem small)).bind_idOfNode?_append [e]
    rw [componentAt, component, name, idsInside_concat, parent, Function.comp_apply, enterNext]
    by_cases inside : e.owner = some f.node.id
    · rw [if_pos (beq_iff_eq.2 inside)]
      exact (if_pos inside).symm
    · rw [if_neg fun same => inside (beq_iff_eq.1 same), List.append_nil]
      exact (if_neg inside).symm
  · have name : (names namer (l ++ [e]))[l.length]? =
        some ((naming namer l).name e.nameRequest).1 := by
      rw [named, ← size, List.getElem?_concat_length]
    have inside : idsInside (l ++ [e]) e.node.id = [] := idsInside_eq_nil fun f hf same => by
      rcases List.mem_append.1 hf with hf | hf
      · exact new (owned f hf _ same)
      · rw [List.mem_singleton.1 hf] at same
        exact new (known _ same)
    rw [componentAt, component, name, inside, known.bind_idOfNode?_append]
    rfl

/-! ## Components by their ids -/

/-- Components, each behind its id. -/
def byId (l : List (Component α)) : List (String × Component α) := l.map fun c => (c.id, c)

/-- Components are entered under their ids, in order. -/
theorem keys_byId (namer : Namer) (l : List (Extraction α)) :
    (byId (components namer l)).map Prod.fst = (List.range l.length).map componentId := by
  rw [byId, List.map_map, ← map_id_components]
  rfl

omit [Score α] in
/-- A component is entered into the one with the id of its owner. -/
theorem entries_enter (id : String) (owner : Option String) (d : Dict (Component α)) :
    (Extracting.enter id owner d).entries = d.entries.map fun x =>
      (x.1, if owner = some x.1 then x.2.hold id else x.2) := by
  have same (other : ∀ x ∈ d.entries, owner ≠ some x.1) : d.entries = d.entries.map fun x =>
      (x.1, if owner = some x.1 then x.2.hold id else x.2) := by
    refine (List.map_id _).symm.trans (List.map_congr_left fun x hx => ?_)
    rw [if_neg (other x hx)]
    rfl
  rw [Extracting.enter]
  cases owner with
  | none => exact same fun _ _ h => nomatch h
  | some k =>
    cases found : d.get? k with
    | none =>
      rw [Option.bind_some, found]
      refine same fun x hx here => ?_
      rw [Option.some.inj here, Dict.get?_eq_some_iff_mem.2 hx] at found
      cases found
    | some c =>
      have known := List.mem_map_of_mem (f := Prod.fst) (Dict.get?_eq_some_iff_mem.1 found)
      rw [Option.bind_some, found]
      refine (Dict.putEntry_of_mem d.distinct known).trans (List.map_congr_left fun x hx => ?_)
      by_cases here : x.1 = k
      · subst here
        rw [Dict.get?_eq_some_iff_mem.2 hx] at found
        rw [if_pos rfl, if_pos rfl, Option.some.inj found]
      · rw [if_neg here, if_neg fun same => here (Option.some.inj same).symm]

/-- The component of an element that is extracted next is put behind the others and entered into the
one of its owner. -/
theorem entries_next (distinct : (l.map fun e => e.node.id).Nodup) (owned : AreOwned l)
    (known : Knows l e.owner) (new : e.node.id ∉ l.map fun e => e.node.id)
    {d : Dict (Component α)} (before : d.entries = byId (components namer l)) :
    (Extracting.enter (componentId l.length) (e.owner.bind (idOfNode? l))
      (d.put (componentId l.length) (nextComponent namer l e))).entries =
        byId (components namer (l ++ [e])) := by
  -- The owner was extracted before, so its id is not the new one.
  have ofOwner : ∀ i : Nat, e.owner.bind (idOfNode? l) = some (componentId i) → i < l.length := by
    intro i h
    obtain ⟨k, _, h⟩ := Option.bind_eq_some_iff.1 h
    obtain ⟨f, j, mem, -, same⟩ := exists_of_idOfNode?_eq_some h
    rw [componentId_inj.1 same]
    exact (List.mem_zipIdx' mem).1
  have fresh : componentId l.length ∉ d.entries.map Prod.fst := by
    rw [before, keys_byId]
    intro mem
    obtain ⟨i, hi, same⟩ := List.mem_map.1 mem
    rw [componentId_inj.1 same] at hi
    exact List.not_mem_range_self hi
  have put : (d.put (componentId l.length) (nextComponent namer l e)).entries =
      byId (components namer l) ++ [(componentId l.length, nextComponent namer l e)] := by
    rw [← before]
    exact Dict.putEntry_of_not_mem fresh
  rw [entries_enter, put, components_concat owned known new, List.map_append, byId, byId,
    List.map_append, List.map_map, List.map_map, List.map_singleton, List.map_singleton]
  refine congrArg₂ (· ++ [·]) (List.map_congr_left fun c hc => ?_) ?_
  · rw [components_eq] at hc
    obtain ⟨⟨f, i⟩, mem, rfl⟩ := List.mem_map.1 hc
    have inside : e.owner.bind (idOfNode? l) = some (componentAt namer l (f, i)).id ↔
        e.owner = some (componentAt namer l (f, i)).nodeId :=
      bind_idOfNode?_eq_some_iff distinct mem
    simp only [Function.comp_apply, enterNext, inside]
    split <;> rfl
  · rw [if_neg fun same => Nat.lt_irrefl _ (ofOwner _ same)]
    rfl

end Componentry.Extraction
