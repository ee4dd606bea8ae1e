import Componentry.Proofs.Document.Reading
import Componentry.Proofs.Outcome
import Componentry.Proofs.Splitting.ClosedForm

/-!
# Splitting a page

A page that was read is split into its chosen elements, unless a selector of the user fails on an
element in another way than by what it is written like. A deeper limit keeps all components in what
they stand in.
-/

set_option autoImplicit false

namespace Componentry
open Componentry.Node Componentry.Extraction

variable {α : Type}

/-- A selector that is asked is one of the list. -/
theorem CustomSelector.mem_of_mem_asked {n : Node} {s : CustomSelector} :
    ∀ {l : List CustomSelector}, s ∈ asked n l → s ∈ l
  | t :: rest, h => by
    rw [asked] at h
    split at h
    · rw [List.mem_singleton.1 h]
      exact List.mem_cons_self
    · rcases List.mem_cons.1 h with rfl | h
      · exact List.mem_cons_self
      · exact List.mem_cons_of_mem _ (mem_of_mem_asked h)

namespace Decision

/-- A selector of the user is refused for what it is written like, or answers for every element. -/
def IsAnswered (s : String) (root : Node) : Prop :=
  (∃ e, Selector.parse s = .error e ∧ e.IsInvalidSelector) ∨
    ∃ selector, Selector.parse s = .ok selector ∧
      ∀ n ∈ root.elements, ∃ b, n.meets selector = .ok b

/-- A selector that is answered fails only for what it is written like. -/
theorem IsAnswered.isInvalidSelector {s : String} {root n : Node} {e : Fault}
    (h : IsAnswered s root) (hn : n ∈ root.elements)
    (failed : (CustomSelector.ofText s).answer n = .error e) : e.IsInvalidSelector := by
  rw [CustomSelector.answer, CustomSelector.ofText] at failed
  rcases h with ⟨e', parsed, invalid⟩ | ⟨selector, parsed, met⟩
  · rw [parsed] at failed
    cases failed
    exact invalid
  · obtain ⟨b, meets⟩ := met n hn
    rw [parsed] at failed
    change n.meets selector = .error e at failed
    rw [meets] at failed
    cases failed

/-- What selectors are in trouble for is how they fail on the element. -/
theorem exists_of_mem_troubles {texts : List String} {n : Node} {p : CustomSelector × Fault}
    (h : p ∈ troubles (texts.map CustomSelector.ofText) n) :
    ∃ s ∈ texts, (CustomSelector.ofText s).answer n = .error p.2 := by
  rw [troubles] at h
  split at h
  next => exact absurd h List.not_mem_nil
  next =>
    obtain ⟨s, hs, trouble⟩ := List.mem_filterMap.1 h
    obtain ⟨text, ht, rfl⟩ := List.mem_map.1 (CustomSelector.mem_of_mem_asked hs)
    refine ⟨text, ht, ?_⟩
    split at trouble
    next => cases trouble
    next failed =>
      cases trouble
      exact failed

variable [Score α]

/-- The decisions on the elements of a page. -/
def onPage? (o : SplitOptions α) (root : Node) : Node → Option (Decision α) :=
  of? o (o.selectors.map CustomSelector.ofText)
    (if o.findsPatterns then Pattern.detect ⟨o.leastOccurrences, o.threshold⟩ root else [])

/-- The elements of a page that are extracted. -/
def extracted (o : SplitOptions α) (root : Node) : List (Extraction α) :=
  (Visit.ofRoot (onPage? o root) o.deepest root).filterMap Visit.extraction?

/-- What selectors are in trouble for on a page. -/
def troublesOnPage (o : SplitOptions α) (root : Node) : List (CustomSelector × Fault) :=
  (Visit.ofRoot (onPage? o root) o.deepest root).flatMap fun v =>
    troubles (o.selectors.map CustomSelector.ofText) v.node

/-- A trouble comes from a selector that fails on an element. -/
theorem exists_of_mem_troublesOnPage {o : SplitOptions α} {root : Node}
    {p : CustomSelector × Fault} (h : p ∈ troublesOnPage o root) :
    ∃ s ∈ o.selectors, ∃ n ∈ root.elements, (CustomSelector.ofText s).answer n = .error p.2 := by
  obtain ⟨v, hv, hp⟩ := List.mem_flatMap.1 h
  obtain ⟨s, hs, failed⟩ := exists_of_mem_troubles hp
  exact ⟨s, hs, v.node, Visit.mem_elements_of_mem_ofRoot hv, failed⟩

end Decision

namespace Split
variable [Score α]

/-- The first trouble that is not about how a selector is written refuses; without one there are
only reports. -/
theorem complaints_cases : ∀ (l : List (CustomSelector × Fault)) (found : List String),
    (∃ reports, complaints found l = (reports, none)) ∨
      ∃ reports, ∃ p ∈ l, complaints found l = (reports, some p.2) ∧ ¬ p.2.IsInvalidSelector
  | [], _ => .inl ⟨[], rfl⟩
  | (s, fault) :: rest, found => by
    unfold complaints
    split
    next text message =>
      split
      · rcases complaints_cases rest found with none | ⟨reports, p, hp, eq⟩
        · exact .inl none
        · exact .inr ⟨reports, p, List.mem_cons_of_mem _ hp, eq⟩
      · rcases complaints_cases rest (s.text :: found) with
          ⟨reports, eq⟩ | ⟨reports, p, hp, eq, other⟩
        · rw [eq]
          exact .inl ⟨_, rfl⟩
        · rw [eq]
          exact .inr ⟨_, p, List.mem_cons_of_mem _ hp, rfl, other⟩
    next other =>
      refine .inr ⟨[], _, List.mem_cons_self, rfl, ?_⟩
      rintro ⟨text, message, same⟩
      exact other text message same

/-- A page whose components have a tree is split into them, or a selector fails. -/
theorem ofRoot_cases (o : SplitOptions α) (root : Node) {tree : ContainmentTree}
    (built : (ContainmentTree.build ((Extraction.components { convention := o.convention }
      (Decision.extracted o root)).map Component.contained)).result = .ok tree) :
    (∃ patterns reports, (ofRoot o root).result = .ok
      ⟨Extraction.components { convention := o.convention } (Decision.extracted o root), patterns,
        tree, reports⟩) ∨
    ∃ p ∈ Decision.troublesOnPage o root, (ofRoot o root).result = .error p.2 ∧
      ¬ p.2.IsInvalidSelector := by
  rw [ofRoot]
  split
  next empty =>
    obtain ⟨fragment, none⟩ := Bool.and_eq_true_iff.1 empty
    have visits : Visit.ofRoot (Decision.onPage? o root) o.deepest root = [] := by
      rw [Visit.ofRoot, if_neg (by rw [Bool.not_eq_true, ← Bool.not_eq_true']; exact fragment),
        List.isEmpty_iff.1 none, Visit.belowAll]
    rw [Decision.extracted, visits] at built ⊢
    cases built
    exact .inl ⟨[], [], rfl⟩
  next =>
    dsimp only
    -- Warnings never fail, so only a trouble of another kind ends the splitting.
    rcases complaints_cases (Decision.troublesOnPage o root) [] with
      ⟨reports, eq⟩ | ⟨reports, p, hp, eq, other⟩
    all_goals
      have warned : ∀ w ∈ reports, ∃ b, (Outcome.warn w).result = .ok b := fun _ _ => ⟨(), rfl⟩
      obtain ⟨results, warned⟩ := Outcome.exists_mapM_ok warned
      rw [Decision.troublesOnPage, Decision.onPage?] at eq
      rw [eq]
    · exact .inl ⟨_, reports, Outcome.result_bind_eq_ok.2 ⟨results, warned,
        Outcome.result_bind_eq_ok.2 ⟨tree, built, rfl⟩⟩⟩
    · exact .inr ⟨p, hp, Outcome.result_bind_of_ok warned _, other⟩

/-- A page is split into its chosen elements, or a selector is in trouble on one of them. -/
theorem ofRoot_isClosed_or_trouble (o : SplitOptions α) {root : Node} (distinct : root.ids.Nodup)
    (plain : ∀ c ∈ root.children, IsPlain c) :
    (∃ split, (ofRoot o root).result = .ok split ∧
      IsClosed (Decision.onPage? o root) o.deepest root split) ∨
    ∃ p ∈ Decision.troublesOnPage o root, (ofRoot o root).result = .error p.2 ∧
      ¬ p.2.IsInvalidSelector := by
  have made : Decision.extracted o root =
      (chosen (Decision.onPage? o root) o.deepest root).filterMap
      (ofNode? (Decision.onPage? o root) root) := extractions_eq distinct plain
  obtain ⟨tree, built⟩ := ContainmentTree.exists_build (isRanked_components distinct plain made)
  rcases ofRoot_cases o root built with ⟨_, _, result⟩ | failed
  · exact .inl ⟨_, result, isClosed_components distinct plain made rfl built⟩
  · exact .inr failed

/-- A page that was read is split in closed form. -/
theorem isClosed_of_read (o : SplitOptions α) {r : ReadOptions} {markup : Option String}
    {d : Document} (read : (Document.read r markup).result = .ok d) {split : Split α}
    (given : (ofRoot o d.root).result = .ok split) :
    IsClosed (Decision.onPage? o d.root) o.deepest d.root split := by
  rcases ofRoot_isClosed_or_trouble o (Document.nodup_ids_of_read read)
    (Document.isPlain_of_read read) with ⟨split', result, form⟩ | ⟨_, _, result, _⟩ <;>
    rw [result] at given
  · cases given
    exact form
  · cases given

/-- A page that was read is split into its chosen elements whenever it is split at all, and a deeper
limit keeps all of them in what they stand in. It is split if every selector is answered, and only a
selector that fails on an element keeps it from being split. -/
theorem ofRoot_isClosed (o : SplitOptions α) {r : ReadOptions} {markup : Option String}
    {d : Document} (read : (Document.read r markup).result = .ok d) :
    ((∀ s ∈ o.selectors, Decision.IsAnswered s d.root) →
      ∃ split, (ofRoot o d.root).result = .ok split) ∧
    (∀ e, (ofRoot o d.root).result = .error e → ¬ e.IsInvalidSelector ∧
      ∃ s ∈ o.selectors, ∃ n ∈ d.root.elements, (CustomSelector.ofText s).answer n = .error e) ∧
    ∀ split, (ofRoot o d.root).result = .ok split →
      IsClosed (Decision.onPage? o d.root) o.deepest d.root split ∧
      ∀ deeper, o.deepest ≤ deeper →
        ∀ other, (ofRoot { o with deepest := deeper } d.root).result = .ok other →
          (split.components.map Component.nodeId).Sublist
            (other.components.map Component.nodeId) ∧
          ∀ c ∈ split.components, ∃ k ∈ other.components, k.nodeId = c.nodeId ∧
            k.depth = c.depth ∧ other.ownerNode? k = split.ownerNode? c := by
  have distinct := Document.nodup_ids_of_read read
  have outcome := ofRoot_isClosed_or_trouble o distinct (Document.isPlain_of_read read)
  refine ⟨fun answered => ?_, fun e failed => ?_, fun split given => ?_⟩
  · rcases outcome with ⟨split, result, _⟩ | ⟨p, hp, _, other⟩
    · exact ⟨split, result⟩
    · obtain ⟨s, hs, n, hn, trouble⟩ := Decision.exists_of_mem_troublesOnPage hp
      exact absurd ((answered s hs).isInvalidSelector hn trouble) other
  · rcases outcome with ⟨split, result, _⟩ | ⟨p, hp, result, other⟩ <;> rw [result] at failed
    · cases failed
    · cases failed
      exact ⟨other, Decision.exists_of_mem_troublesOnPage hp⟩
  · have closed := isClosed_of_read o read given
    refine ⟨closed, fun deeper le other given' => ?_⟩
    have below := isClosed_of_read { o with deepest := deeper } read given'
    constructor
    · rw [closed.nodes, below.nodes]
      exact (chosen_sublist_chosen le).map Node.id
    · exact fun c hc => closed.exists_deeper distinct le below hc

/-- A part of a page with one part in it; of the two selectors, one is no selector. -/
theorem ofRoot_isClosed_nested : ∃ (d : Document) (split : Split Rat),
    (Document.read {} (some "<main><nav class='card'><p>a</p></nav><p>b</p></main>")).result =
      .ok d ∧
    (∀ s ∈ [".card", "["], Decision.IsAnswered s d.root) ∧
    (ofRoot { selectors := [".card", "["], threshold := (7 / 10 : Rat), deepest := 1 }
      d.root).result = .ok split ∧
    split.components.map Component.parentId = [none, some "component-1"] ∧
    IsClosed (Decision.onPage?
      { selectors := [".card", "["], threshold := (7 / 10 : Rat), deepest := 1 } d.root)
      1 d.root split := by
  let page := "<main><nav class='card'><p>a</p></nav><p>b</p></main>"
  let o : SplitOptions Rat := { selectors := [".card", "["], threshold := 7 / 10, deepest := 1 }
  have met : ((Document.read {} (some page)).result.toOption.bind fun d =>
      (Selector.parse ".card").toOption.map fun s =>
        d.root.elements.all fun n => (n.meets s).toOption.isSome) = some true := by decide +kernel
  have refused : failsAs Fault.isInvalidSelector (Selector.parse "[") = true := by decide +kernel
  have parts : ((Document.read {} (some page)).result.toOption.bind fun d =>
      (ofRoot o d.root).result.toOption.map fun split =>
        split.components.map Component.parentId) = some [none, some "component-1"] := by
    decide +kernel
  cases read : (Document.read {} (some page)).result with
  | error e =>
    rw [read] at met
    cases met
  | ok d =>
    rw [read] at met parts
    have answered : ∀ s ∈ o.selectors, Decision.IsAnswered s d.root := by
      intro s hs
      rcases List.mem_cons.1 hs with rfl | hs
      · cases parsed : Selector.parse ".card" with
        | error e =>
          rw [parsed] at met
          cases met
        | ok selector =>
          rw [parsed] at met
          refine .inr ⟨selector, parsed, fun n hn => ?_⟩
          have answer := List.all_eq_true.1 (Option.some.inj met) n hn
          cases meets : n.meets selector with
          | error e =>
            rw [meets] at answer
            cases answer
          | ok b => exact ⟨b, rfl⟩
      · rw [List.mem_singleton.1 hs]
        obtain ⟨e, parsed, invalid⟩ := exists_of_failsAs refused
        exact .inl ⟨e, parsed, Fault.isInvalidSelector_iff.1 invalid⟩
    obtain ⟨exists_, _, closed⟩ := ofRoot_isClosed o read
    obtain ⟨split, result⟩ := exists_ answered
    have form := (closed split result).1
    refine ⟨d, split, rfl, answered, result, ?_, form⟩
    change (ofRoot o d.root).result.toOption.map _ = _ at parts
    rw [result] at parts
    exact Option.some.inj parts

/-- A selector that is read well can fail on an element: one for values within a range fails on a
control without a type, and nothing is split. -/
theorem typeless_control_is_not_split : ∃ (d : Document) (selector : Selector),
    (Document.read {} (some "<p><input></p>")).result = .ok d ∧
    Selector.parse ":in-range" = .ok selector ∧
    (ofRoot { selectors := [":in-range"], threshold := (7 / 10 : Rat) } d.root).result =
      .error .typelessControl ∧
    ¬ ∃ split, (ofRoot { selectors := [":in-range"], threshold := (7 / 10 : Rat) } d.root).result =
      .ok split := by
  have known : ((Document.read {} (some "<p><input></p>")).result.toOption.bind fun d =>
      (Selector.parse ":in-range").toOption.map fun _ => failsAs Fault.isTypelessControl
        (ofRoot { selectors := [":in-range"], threshold := (7 / 10 : Rat) } d.root).result) =
          some true := by decide +kernel
  cases read : (Document.read {} (some "<p><input></p>")).result with
  | error e =>
    rw [read] at known
    cases known
  | ok d =>
    cases parsed : Selector.parse ":in-range" with
    | error e =>
      rw [read, parsed] at known
      cases known
    | ok selector =>
      rw [read, parsed] at known
      obtain ⟨e, failed, typeless⟩ := exists_of_failsAs (Option.some.inj known)
      have result : (ofRoot { selectors := [":in-range"], threshold := (7 / 10 : Rat) }
          d.root).result = .error .typelessControl := by
        rw [failed, Fault.isTypelessControl_iff.1 typeless]
      refine ⟨d, selector, rfl, rfl, result, ?_⟩
      rintro ⟨split, given⟩
      rw [result] at given
      cases given

end Split
end Componentry
