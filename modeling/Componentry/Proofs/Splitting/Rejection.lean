import Componentry.Proofs.Selector.Rejection
import Componentry.Proofs.Splitting.Splitter
import Componentry.Splitting.Statistics

/-!
# Rejected selectors of the user

A splitter whose user gave selectors that are rejected goes through a page like one whose user left
these out: it decides the same on every element, and so gives the same names and ids. On its way the
two differ in what was found unreadable and in what was said of it. Both ways are followed side by
side, each operation beside its counterpart.
-/

set_option autoImplicit false

namespace Componentry
open Operation

variable {α β γ : Type}

/-! ## Without what is rejected -/

/-- The options without the selectors that are rejected. -/
def SplitOptions.readable (o : SplitOptions α) : SplitOptions α :=
  { o with selectors := o.selectors.filter fun s => !Selector.isRejected s }

/-- What finds components, with no rejected selectors and nothing said of them. -/
def Extractor.hushed (x : Extractor α) : Extractor α :=
  { x with options := x.options.readable, warnings := [], unreadable := [] }

namespace Extracting

/-- The way through a page, with no rejected selectors and nothing said of them. -/
def hushed (p : Extracting α) : Extracting α := { p with toExtractor := p.toExtractor.hushed }

@[simp] theorem visited_hushed (p : Extracting α) : p.hushed.visited = p.visited := rfl

@[simp] theorem deepest_hushed (p : Extracting α) :
    p.hushed.options.deepest = p.options.deepest := rfl

end Extracting

/-- The reports of rejected selectors. -/
def Split.reports (rejected : List (String × Fault)) : List String :=
  rejected.map fun r => unreadableReport r.1 r.2

/-! ## Two ways through a page -/

/-- What an operation comes to on the way with rejected selectors, beside what its counterpart comes
to on the way without: the same, but that rejected selectors are reported that were not before. -/
structure Hushes (p : Extracting α) (run run' : Outcome β × Extracting α) : Prop where
  result : run'.1.result = run.1.result
  silent : run'.1.records = []
  hushed : run'.2 = run.2.hushed
  options : run.2.options = p.options
  reported : ∃ new, AreRejected p.options.selectors new ∧ (∀ r ∈ new, r.1 ∉ p.unreadable) ∧
    run.1.records = (Split.reports new).map (Record.mk .warning) ∧
    run.2.warnings = p.warnings ++ Split.reports new ∧
    run.2.unreadable = (new.map Prod.fst).reverse ++ p.unreadable

namespace Hushes

variable {p p' : Extracting α}

/-- What reports nothing, and does the same to both ways. -/
theorem ok {b : β} {q' : Extracting α} (hushed : q' = p'.hushed)
    (options : p'.options = p.options) (warnings : p'.warnings = p.warnings)
    (unreadable : p'.unreadable = p.unreadable) : Hushes p (.ok b, p') (.ok b, q') where
  result := rfl
  silent := rfl
  hushed := hushed
  options := options
  reported := ⟨[], .nil _, by simp, rfl, by rw [warnings]; exact (List.append_nil _).symm,
    unreadable⟩

/-- An answer that is there is the same on both ways. -/
theorem pure (b : β) (p : Extracting α) : Hushes p (.ok b, p) (.ok b, p.hushed) :=
  ok rfl rfl rfl rfl

/-- A failure is the same on both ways. -/
theorem fail (fault : Fault) (p : Extracting α) :
    Hushes p ((.fail fault : Outcome β), p) (.fail fault, p.hushed) where
  result := rfl
  silent := rfl
  hushed := rfl
  options := rfl
  reported := ⟨[], .nil _, by simp, rfl, (List.append_nil _).symm, rfl⟩

/-- What is known to be unreadable stays so. -/
theorem knows {run run' : Outcome β × Extracting α} (h : Hushes p run run')
    (knows : p.KnowsUnreadable) : run.2.KnowsUnreadable := by
  obtain ⟨new, rejected, _, _, _, unreadable⟩ := h.reported
  intro s hs
  rw [unreadable, List.mem_append, List.mem_reverse] at hs
  rcases hs with hs | hs
  · obtain ⟨r, hr, rfl⟩ := List.mem_map.1 hs
    exact ⟨r.2, rejected.faults r hr⟩
  · exact knows s hs

/-- Operations that follow one another, each beside its counterpart. -/
theorem bind {x y : Operation (Extracting α) β} {f g : β → Operation (Extracting α) γ}
    (knows : p.KnowsUnreadable) (h : Hushes p (x.run p) (y.run p.hushed))
    (next : ∀ b p', p'.KnowsUnreadable → p'.options = p.options →
      Hushes p' ((f b).run p') ((g b).run p'.hushed)) :
    Hushes p ((x >>= f).run p) ((y >>= g).run p.hushed) := by
  have knows' := h.knows knows
  cases hx : x.run p with
  | mk o p' =>
  cases hy : y.run p.hushed with
  | mk o' q' =>
  rw [hx, hy] at h
  rw [hx] at knows'
  obtain ⟨records, result⟩ := o
  obtain ⟨records', result'⟩ := o'
  obtain ⟨same, silent, hushed, options, new, rejected, fresh, said, warnings, unreadable⟩ := h
  dsimp only at same silent hushed options said warnings unreadable
  subst same silent hushed
  cases result' with
  | error fault =>
    rw [run_bind_of_error hx, run_bind_of_error hy]
    exact ⟨rfl, rfl, rfl, options, new, rejected, fresh, said, warnings, unreadable⟩
  | ok b =>
    have rest := next b p' knows' options
    obtain ⟨more, rejected', fresh', said', warnings', unreadable'⟩ := rest.reported
    rw [options] at rejected'
    rw [unreadable] at fresh' unreadable'
    rw [run_bind_of_ok hx, run_bind_of_ok hy]
    refine ⟨rest.result, rest.silent, rest.hushed, rest.options.trans options, new ++ more, ?_⟩
    -- What the second operation reports was not known after the first, so no report comes twice.
    refine ⟨rejected.append rejected' fun r hr known => ?_, fun r hr => ?_, ?_, ?_, ?_⟩
    · exact fresh' r hr (List.mem_append_left _ (List.mem_reverse.2 known))
    · rcases List.mem_append.1 hr with first | second
      · exact fresh r first
      · exact fun known => fresh' r second (List.mem_append_right _ known)
    · rw [said, said', Split.reports, Split.reports, Split.reports, List.map_append,
        List.map_append]
    · rw [warnings', warnings, Split.reports, Split.reports, Split.reports, List.map_append,
        List.append_assoc]
    · rw [unreadable', List.map_append, List.reverse_append, List.append_assoc]

/-- What operations do with what is kept they do with what that is on each way. -/
theorem bind_kept {f g : Extracting α → Operation (Extracting α) β}
    (h : Hushes p ((f p).run p) ((g p.hushed).run p.hushed)) :
    Hushes p ((kept >>= f).run p) ((kept >>= g).run p.hushed) := by
  rwa [run_bind_of_eq_ok run_kept, run_bind_of_eq_ok run_kept]

end Hushes

namespace Extracting

variable {p : Extracting α}

/-! ## Asking for selectors -/

/-- A rejected selector means nothing, and is reported if it was not before. -/
theorem hushes_selects_of_isRejected {s : String} (n : Node) (listed : s ∈ p.options.selectors)
    (rejected : Selector.isRejected s = true) :
    Hushes p ((selects n s).run p) ((pure false : Operation (Extracting α) Bool).run p.hushed) := by
  obtain ⟨text, mistake, parsed, asking⟩ := Selector.isSelectedBy_of_isRejected rejected
  rw [selects, run_bind_of_eq_ok run_kept, asking]
  cases known : p.unreadable.contains s with
  | true =>
    rw [if_pos rfl]
    exact .pure false p
  | false =>
    rw [if_neg Bool.false_ne_true]
    refine ⟨rfl, rfl, rfl, rfl, [(s, .invalidSelector text mistake)], ?_⟩
    refine ⟨.singleton listed parsed rfl, ?_, rfl, rfl, rfl⟩
    intro r hr mem
    rw [List.mem_singleton.1 hr, ← List.contains_iff_mem, known] at mem
    cases mem

/-- A selector that is not rejected is asked for on both ways. -/
theorem hushes_selects {s : String} (n : Node) (knows : p.KnowsUnreadable)
    (read : Selector.isRejected s = false) :
    Hushes p ((selects n s).run p) ((selects n s).run p.hushed) := by
  have unknown : p.unreadable.contains s = false := by
    rw [Bool.eq_false_iff]
    intro known
    obtain ⟨e, parsed, invalid⟩ := knows s (List.contains_iff_mem.1 known)
    rw [Selector.isRejected_of_parse parsed invalid] at read
    cases read
  have here := Selector.ne_of_not_isRejected read n
  rw [selects]
  refine .bind_kept ?_
  rw [unknown]
  cases asking : n.isSelectedBy s with
  | ok answer => exact .pure answer p
  | error fault =>
    cases fault with
    | invalidSelector text mistake => exact absurd asking (here text mistake)
    | _ => exact .fail _ p

/-- The selectors that are not rejected decide, in their order. -/
theorem hushes_selectsAny (n : Node) : ∀ (l : List String) {p : Extracting α},
    p.KnowsUnreadable → (∀ s ∈ l, s ∈ p.options.selectors) →
    Hushes p ((selectsAny n l).run p)
      ((selectsAny n (l.filter fun s => !Selector.isRejected s)).run p.hushed)
  | [], p, _, _ => .pure false p
  | s :: rest, p, knows, listed => by
    obtain ⟨first, listed⟩ := List.forall_mem_cons.1 listed
    have others (p' : Extracting α) (knows' : p'.KnowsUnreadable)
        (options : p'.options = p.options) :=
      hushes_selectsAny n rest (p := p') knows' (by rwa [options])
    rw [selectsAny, List.filter_cons]
    -- A rejected selector answers no and is asked on one way only; any other is asked on both.
    cases rejected : Selector.isRejected s with
    | true =>
      have both := Hushes.bind knows (hushes_selects_of_isRejected n first rejected)
        (f := fun b => do if b then return true else selectsAny n rest)
        (g := fun b => do if b then return true else
          selectsAny n (rest.filter fun s => !Selector.isRejected s))
      rw [run_bind_of_eq_ok (run_pure false)] at both
      refine both fun b p' knows' options => ?_
      cases b with
      | true => exact .pure true p'
      | false => exact others p' knows' options
    | false =>
      refine .bind knows (hushes_selects n knows rejected) fun b p' knows' options => ?_
      cases b with
      | true => exact .pure true p'
      | false => exact others p' knows' options

/-! ## Going through a page -/

variable [Score α]

/-- Each element is decided on alike. -/
theorem hushes_decide (patterns : List (Pattern α)) (n : Node) (knows : p.KnowsUnreadable) :
    Hushes p ((decide patterns n).run p) ((decide patterns n).run p.hushed) := by
  refine .bind_kept ?_
  dsimp only
  split
  · exact .pure _ p
  · refine .bind knows (hushes_selectsAny n p.options.selectors knows fun _ hs => hs) ?_
    intro b p' _ _
    cases b with
    | true => exact .pure _ p'
    | false => exact .pure _ p'

/-- Taking out a component says nothing of selectors. -/
theorem hushes_extract (n : Node) (depth : Nat) (owner : Option String) (decision : Decision α)
    (p : Extracting α) :
    Hushes p ((extract n depth owner decision).run p)
      ((extract n depth owner decision).run p.hushed) :=
  .ok rfl rfl rfl rfl

omit [Score α] in
/-- Noting that a node was met says nothing of selectors. -/
theorem hushes_visited (id : String) (p : Extracting α) :
    Hushes p ((change fun p => { p with visited := p.visited ++ [id] }).run p)
      ((change fun p => { p with visited := p.visited ++ [id] }).run p.hushed) :=
  .ok rfl rfl rfl rfl

/-- Meeting a node asks for the same decision on both ways. -/
theorem hushes_meet (patterns : List (Pattern α)) (depth : Nat) (owner : Option String) (n : Node)
    (knows : p.KnowsUnreadable) :
    Hushes p ((meet patterns depth owner n).run p)
      ((meet patterns depth owner n).run p.hushed) := by
  refine .bind knows (hushes_visited n.id p) fun _ p' knows' _ => .bind_kept ?_
  rw [deepest_hushed]
  split
  · exact .pure _ p'
  · refine .bind knows' (hushes_decide patterns n knows') fun decision p'' knows'' _ => ?_
    cases decision with
    | none => exact .pure _ p''
    | some decision =>
      exact .bind knows'' (hushes_extract n depth owner decision p'') fun _ p₃ _ _ => .pure _ p₃

mutual
/-- The ways through a tree are the same, but for what is said of selectors. -/
theorem hushes_visit (patterns : List (Pattern α)) : ∀ (n : Node) (depth : Nat)
    (owner : Option String) {p : Extracting α}, p.KnowsUnreadable →
    Hushes p ((visit patterns depth owner n).run p) ((visit patterns depth owner n).run p.hushed)
  | .mk label children, depth, owner, p, knows => by
    rw [visit]
    refine .bind_kept ?_
    rw [visited_hushed]
    split
    · exact .pure _ p
    · refine .bind knows (hushes_meet patterns depth owner _ knows) fun inside p' knows' _ => ?_
      exact hushes_visitAll patterns children inside.1 inside.2 knows'

/-- The ways through a forest are the same, but for what is said of selectors. -/
theorem hushes_visitAll (patterns : List (Pattern α)) : ∀ (l : List Node) (depth : Nat)
    (owner : Option String) {p : Extracting α}, p.KnowsUnreadable →
    Hushes p ((visitAll patterns depth owner l).run p)
      ((visitAll patterns depth owner l).run p.hushed)
  | [], depth, owner, p, knows => by
    rw [visitAll]
    exact .pure _ p
  | n :: rest, depth, owner, p, knows => by
    rw [visitAll]
    exact .bind knows (hushes_visit patterns n depth owner knows) fun _ p' knows' _ =>
      hushes_visitAll patterns rest depth owner knows'
end

/-- The components of a page are the same on both ways. -/
theorem hushes_componentsOf (patterns : List (Pattern α)) (root : Node)
    (knows : p.KnowsUnreadable) :
    Hushes p ((componentsOf patterns root).run p) ((componentsOf patterns root).run p.hushed) := by
  have gone : Hushes p ((page patterns root).run p) ((page patterns root).run p.hushed) := by
    rw [page]
    split
    · exact hushes_visit patterns root 0 none knows
    · exact .bind knows (hushes_visited root.id p) fun _ p' knows' _ =>
        hushes_visitAll patterns root.children 0 none knows'
  exact .bind knows gone fun _ p' _ _ => .bind_kept (.pure _ p')

end Extracting

/-! ## Splitting pages -/

/-- Two splits that differ in nothing but their warnings, and so have the same figures. -/
structure Split.IsAlike [Score α] (s t : Split α) : Prop where
  components : t.components = s.components
  patterns : t.patterns = s.patterns
  tree : t.tree = s.tree
  total : t.total = s.total
  byType : t.byType = s.byType
  byRole : t.byRole = s.byRole
  byDepth : t.byDepth = s.byDepth
  maxDepth : t.maxDepth = s.maxDepth
  patternItems : t.patternItems = s.patternItems
  averageConfidence : t.averageConfidence = s.averageConfidence
  elementTotal : t.elementTotal = s.elementTotal
  textRatio : t.textRatio = s.textRatio

/-- What is split with selectors some of which are rejected, beside what is split without these.
Both are refused for the same fault, or give the same but for the warnings; what is said of rejected
selectors is one report of each. -/
structure IsSplitAlike [Score α] (texts : List String) (o o' : Outcome (Split α)) : Prop where
  refused : ∀ fault, o.result = .error fault → o'.result = .error fault
  given : ∀ s, o.result = .ok s → ∃ t, o'.result = .ok t ∧ s.IsAlike t ∧ t.warnings = []
  reported : ∃ rejected before after, AreRejected texts rejected ∧
    o.records = before ++ (Split.reports rejected).map (Record.mk .warning) ++ after ∧
    o'.records = before ++ after ∧
    ∀ s, o.result = .ok s → s.warnings = Split.reports rejected

/-- A split without its warnings. -/
def Split.muted (s : Split α) : Split α := { s with warnings := [] }

/-- A split is like itself with nothing said. -/
theorem Split.isAlike_muted [Score α] (s : Split α) : s.IsAlike s.muted :=
  ⟨rfl, rfl, rfl, rfl, rfl, rfl, rfl, rfl, rfl, rfl, rfl, rfl⟩

namespace IsSplitAlike

variable [Score α] {texts : List String} {rejected : List (String × Fault)}
  {o o' : Outcome (Split α)}

/-- Two outcomes with one result, of which the one says more of rejected selectors, are alike.
-/
theorem of_muted (before after : List Record) (known : AreRejected texts rejected)
    (same : o'.result = o.result.map Split.muted)
    (said : o.records = before ++ (Split.reports rejected).map (Record.mk .warning) ++ after)
    (said' : o'.records = before ++ after)
    (warned : ∀ s, o.result = .ok s → s.warnings = Split.reports rejected) :
    IsSplitAlike texts o o' where
  refused := by
    intro fault failed
    rw [same, failed]
    rfl
  given := by
    intro s given
    refine ⟨s.muted, ?_, s.isAlike_muted, rfl⟩
    rw [same, given]
    rfl
  reported := ⟨rejected, before, after, known, said, said', warned⟩

/-- A page without elements is split into nothing. -/
theorem nothing (texts : List String) : IsSplitAlike texts (.ok ({} : Split α)) (.ok {}) := by
  refine of_muted [] [] (.nil texts) rfl rfl rfl fun s given => ?_
  cases given
  rfl

/-- One failure, with the same records, is alike on both sides. -/
theorem of_error (records : List Record) (fault : Fault) (texts : List String) :
    IsSplitAlike (α := α) texts ⟨records, .error fault⟩ ⟨records, .error fault⟩ := by
  refine of_muted records [] (.nil texts) rfl ?_ (List.append_nil _).symm fun s given => ?_
  · simp [Split.reports]
  · cases given

/-- What was said before is said on both ways. -/
theorem behind (h : IsSplitAlike texts o o') (records : List Record) :
    IsSplitAlike texts ⟨records ++ o.records, o.result⟩ ⟨records ++ o'.records, o'.result⟩ where
  refused := h.refused
  given := h.given
  reported := by
    obtain ⟨rejected, before, after, known, said, said', warned⟩ := h.reported
    refine ⟨rejected, records ++ before, after, known, ?_, ?_, warned⟩
    · simp only [said, List.append_assoc]
    · simp only [said', List.append_assoc]

end IsSplitAlike

namespace Extractor

variable [Score α]

/-- The components of a page, found by one that starts the page. -/
def found (patterns : List (Pattern α)) (root : Node) :
    Operation (Extractor α) (List (Component α)) :=
  (Extracting.componentsOf patterns root).within (fun x => { toExtractor := x })
    fun p _ => p.toExtractor

/-- The patterns that one has for a page. -/
def patternsOf (x : Extractor α) (root : Node) : List (Pattern α) :=
  if x.options.findsPatterns then Pattern.detect x.detection root else []

/-- A page without elements has nothing to split. -/
theorem run_split_of_empty {root : Node}
    (empty : (!root.isElement && root.elementChildren.isEmpty) = true) (x : Extractor α) :
    (split root).run x = (.ok {}, x) := by
  rw [split, run_bind_of_eq_ok run_kept, if_pos empty, run_pure]

/-- A page with elements is split by the components found in it. -/
theorem run_split_of_filled {root : Node}
    (filled : ¬ (!root.isElement && root.elementChildren.isEmpty) = true) (x : Extractor α) :
    (split root).run x = ((found (x.patternsOf root) root) >>= fun components => do
      let tree ← Operation.ofOutcome (ContainmentTree.build (components.map Component.contained))
      return { components, patterns := x.patternsOf root, tree,
               warnings := (← .kept).warnings }).run
        x := by
  rw [split, run_bind_of_eq_ok run_kept, if_neg filled]
  rfl

/-- The components found by one that starts the page with rejected selectors, beside those found by
one that starts it without. -/
theorem found_hushed (patterns : List (Pattern α)) (root : Node) (x : Extractor α) :
    ∃ (result : Except Fault (List (Component α))) (x' : Extractor α) (rejected : _),
      AreRejected x.options.selectors rejected ∧ x'.warnings = Split.reports rejected ∧
      (found patterns root).run x.reset =
        (⟨(Split.reports rejected).map (Record.mk .warning), result⟩, x') ∧
      (found patterns root).run x.reset.hushed = (⟨[], result⟩, x'.hushed) := by
  have knows : Extracting.KnowsUnreadable ({ toExtractor := x.reset } : Extracting α) :=
    fun s hs => absurd hs List.not_mem_nil
  have both := Extracting.hushes_componentsOf patterns root knows
  cases run : (Extracting.componentsOf patterns root).run { toExtractor := x.reset } with
  | mk o p =>
  cases run' : (Extracting.componentsOf patterns root).run { toExtractor := x.reset.hushed } with
  | mk o' q =>
  obtain ⟨records, result⟩ := o
  obtain ⟨records', result'⟩ := o'
  obtain ⟨same, silent, hushed, _, rejected, known, _, said, warnings, _⟩ :=
    (by rwa [run, Extracting.hushed, run'] at both : Hushes _ _ _)
  dsimp only at same silent hushed said
  subst same silent hushed said
  refine ⟨result', p.toExtractor, rejected, known, warnings, ?_, ?_⟩
  · rw [found, run_within, run]
  · rw [found, run_within, run']
    rfl

/-- A page is split alike by one that starts the page with rejected selectors and by one that starts
it without. -/
theorem isSplitAlike_split (root : Node) (x : Extractor α) :
    IsSplitAlike x.options.selectors ((split root).run x.reset).1
      ((split root).run x.reset.hushed).1 := by
  by_cases empty : (!root.isElement && root.elementChildren.isEmpty) = true
  · rw [run_split_of_empty empty, run_split_of_empty empty]
    exact .nothing _
  · have patterns : x.reset.hushed.patternsOf root = x.reset.patternsOf root := rfl
    obtain ⟨result, x', rejected, known, warnings, run, run'⟩ :=
      found_hushed (x.reset.patternsOf root) root x
    rw [run_split_of_filled empty, run_split_of_filled empty, patterns]
    -- The walk may fail, and so may the tree of the components that were found.
    cases result with
    | error fault =>
      rw [run_bind_of_error run, run_bind_of_error run']
      refine .of_muted [] [] known rfl (List.append_nil _).symm rfl ?_
      intro s given
      cases given
    | ok components =>
      rw [run_bind_of_ok run, run_bind_of_ok run', fst_run_tree, fst_run_tree, warnings]
      cases ContainmentTree.build (components.map Component.contained) with
      | mk records result =>
      cases result with
      | error fault =>
        refine .of_muted [] records known rfl rfl rfl ?_
        intro s given
        cases given
      | ok tree =>
        refine .of_muted [] (records ++ []) known rfl rfl rfl ?_
        intro s given
        cases given
        rfl

/-- A text or a page is split alike. -/
theorem isSplitAlike_splitSource (source : SplitSource) (x : Extractor α) :
    IsSplitAlike x.options.selectors ((splitSource source).run x.reset).1
      ((splitSource source).run x.reset.hushed).1 := by
  unfold splitSource
  match source with
  | .page d => exact isSplitAlike_split d.root x
  | .text none => exact .nothing _
  | .text (some markup) =>
    dsimp only
    by_cases blank : Text.isBlankText markup = true
    · rw [if_pos blank]
      exact .nothing _
    · rw [if_neg blank, fst_run_bind, fst_run_bind, run_ofOutcome, run_ofOutcome]
      cases Document.read {} (some markup) with
      | mk records result =>
      cases result with
      | error fault => exact .of_error records fault _
      | ok d => exact (isSplitAlike_split d.root x).behind records

end Extractor

/-- A splitter whose options have no rejected selectors. -/
def Splitter.readable (s : Splitter α) : Splitter α :=
  { s with options := s.options.readable }

/-- Rejected selectors are as good as absent. A splitter comes to the same for every text and every
page with them and without them, with one report of each that is rejected and no further one; and
rules for sections with rejected selectors find the sections that are found without these rules,
with one report of each of these selectors. -/
theorem rejected_selectors_are_absent [Score α] :
    (∀ (s : Splitter α) (source : SplitSource),
      IsSplitAlike s.options.selectors ((Splitter.split source).run s).1
        ((Splitter.split source).run s.readable).1) ∧
    ∀ (root : Node) (rules : List SectionRule) (r : PageReader),
      let outcome := ((PageReader.sections root rules).run r).1
      let outcome' := ((PageReader.sections root (SectionRule.readable rules)).run r).1
      outcome'.result = outcome.result ∧ outcome'.records = [] ∧
        ∃ rejected, AreRejected (rules.map SectionRule.selector) rejected ∧
          outcome.records = rejected.map fun r => PageSection.unreadableReport r.2 := by
  constructor
  · intro s source
    have alike := Extractor.isSplitAlike_splitSource source s.toExtractor
    have same : s.readable.toExtractor.reset = s.toExtractor.reset.hushed := rfl
    rw [(Prod.mk.inj (Splitter.run_split source s)).1,
      (Prod.mk.inj (Splitter.run_split source s.readable)).1, same]
    exact alike
  · intro root rules r
    dsimp only
    rw [PageReader.fst_sections, PageReader.fst_sections]
    exact PageSection.analyze_readable root rules

/-- A selector that is given twice and rejected is reported once, and those around it decide. -/
example :
    let s : Splitter Rat := .ofOptions { selectors := ["[", "p", "["], threshold := 1 }
    let page : SplitSource := .text "<i>x</i><p>y</p><p>z</p>"
    let outcome := ((Splitter.split page).run s).1
    let outcome' := ((Splitter.split page).run s.readable).1
    s.readable.options.selectors = ["p"] ∧ outcome.records.length = 1 ∧ outcome'.records = [] ∧
      outcome.result.toOption.map Split.total = some 2 ∧
      outcome'.result.toOption.map Split.total = some 2 := by
  decide +kernel

end Componentry
