import Componentry.Document.PageReader
import Componentry.Proofs.Splitting.Spelling
import Componentry.Proofs.Splitting.Walk

/-!
# Readers and splitters used again

No operation changes the options of a splitter, or how it names, and every page starts from these
alone. So a splitter that was used comes to what a new one does, whatever it was used for and
wherever that ended, and leaves the same behind; and what both come to is the page split by itself.
A reader that was used reads a page as a new one does.
-/

set_option autoImplicit false

/-! ## Pages read by one reader

Whatever a reader has kept, the page that it reads is the one that is read by itself: numbers start
anew before the first node takes one, and rules and selectors before the first element is asked for.
-/

namespace Componentry.PageReader
open Componentry.Text Componentry.Markup Componentry.Document

variable {o : ReadOptions} {parent : Place} {depth : Nat}

/-- The nodes in slots take the numbers from the next one on. -/
theorem run_slots : ∀ (l : List Slot) (r : PageReader), (slots o parent depth l).run r =
    (.ok (readSlots o parent depth r.next l).1,
      { r with next := (readSlots o parent depth r.next l).2 })
  | [], r => rfl
  | s :: rest, r => by
    rw [slots, slot, Operation.run_bind_of_eq_ok (Operation.run_take _),
      Operation.run_bind_of_eq_ok (run_slots rest _)]
    rfl

/-- A fragment takes the first number, and the nodes inside it those behind. -/
theorem run_fragment (l : List Slot) {r : PageReader} (new : r.next = 0) :
    (fragment (slots o parent 1 l)).run r =
      (.ok (Document.fragment (readSlots o parent 1 1 l).1),
        { r with next := (readSlots o parent 1 1 l).2 }) := by
  rw [fragment, number, Operation.run_bind_of_eq_ok (Operation.run_take _),
    Operation.run_bind_of_eq_ok (run_slots l _), new]
  rfl

/-- A reader whose numbers start anew reads the root of a page. -/
theorem fst_root? (top : Place) {r : PageReader} (new : r.next = 0) :
    ((root? o top).run r).1 = .ok (readRoot? o top) := by
  unfold root? readRoot?
  have one (parent : Place) (s : Slot) : ((slot o parent 0 s).run r).1 =
      .ok (Node.readOne o parent s.before s.after 0 0 s.tree).1 := by
    rw [slot, Operation.run_take, new]
  have several (parent : Place) (l : List Slot) :
      ((do return some (← fragment (slots o parent 1 l)) :
        Operation PageReader (Option Node)).run r).1 =
      .ok (some (Document.fragment (readSlots o parent 1 1 l).1)) := by
    rw [Operation.run_bind_of_eq_ok (run_fragment l new)]
    rfl
  dsimp only
  generalize (shown top).2.filter (fun s => o.keeps s.tree) = kept
  match kept with
  | [⟨before, .element tag children, after⟩] => exact one _ _
  | ⟨_, .element _ _, _⟩ :: _ :: _ => exact several _ _
  | ⟨_, .string _ _, _⟩ :: _ => exact several _ _
  | [] => exact several _ _

/-- The sections of a page are found by its rules alone. -/
theorem fst_sections (root : Node) (rules : List SectionRule) (r : PageReader) :
    ((sections root rules).run r).1 = PageSection.analyze root rules := by
  rw [sections, start, Operation.run_bind_of_eq_ok (Operation.run_change _), Operation.fst_run_bind,
    candidates, Operation.run_find, PageSection.analyze]
  cases PageSection.candidates rules [] root.elements with
  | mk unreadable found =>
    cases found with
    | error fault => rfl
    | ok sections => exact congrArg (Outcome.mk · _) (List.append_nil _)

/-- Whatever was read before, a page is read as it is by itself. -/
theorem fst_read (o : ReadOptions) (markup : Option String) (r : PageReader) :
    ((read o markup).run r).1 = Document.read o markup := by
  cases markup with
  | none => rfl
  | some markup =>
    unfold read Document.read
    dsimp only
    rw [Operation.run_bind_of_eq_ok (Operation.run_change _)]
    split
    · rfl
    · rw [Operation.fst_run_bind]
      refine congrArg (Outcome.bind _) (funext fun _ => ?_)
      rw [Operation.fst_run_bind]
      refine congrArg (Outcome.bind _) (funext fun tree => ?_)
      rw [Operation.fst_run_bind, fst_root? _ rfl, Outcome.bind_ok]
      cases readRoot? o ((Place.ofTree tree).getD default) with
      | none =>
        dsimp only
        rw [Operation.fst_run_bind, Operation.run_ofOutcome]
        rfl
      | some root =>
        dsimp only
        rw [Operation.fst_run_bind]
        refine congrArg (Outcome.bind _) (funext fun _ => ?_)
        rw [Operation.fst_run_bind, fst_sections]
        refine congrArg (Outcome.bind _) (funext fun sections => ?_)
        rw [Operation.fst_run_bind]
        rfl

end Componentry.PageReader

/-! ## Pages split by one splitter -/

namespace Componentry
open Componentry.Text

variable {α : Type} [Score α]

/-! ### Pages split by a new one -/

namespace Extractor
open Extracting

omit [Score α] in
/-- The nodes of a page that was read are ahead of a new extractor. -/
theorem areAhead_of_read {r : ReadOptions} {markup : Option String} {d : Document}
    (read : (Document.read r markup).result = .ok d) (x : Extractor α) :
    AreAhead d.root.preorder { toExtractor := x } where
  distinct := Document.nodup_ids_of_read read
  new _ _ h := nomatch h
  asked n _ _ := PageSection.isAsked n

omit [Score α] in
/-- Components and patterns are given with their tree and the warnings that are kept. -/
theorem fst_run_tree (components : List (Component α)) (patterns : List (Pattern α))
    (x : Extractor α) :
    ((do
        let tree ← Operation.ofOutcome (ContainmentTree.build (components.map Component.contained))
        return { components, patterns, tree, warnings := (← .kept).warnings } :
          Operation (Extractor α) (Split α)).run x).1 =
      (ContainmentTree.build (components.map Component.contained)).bind fun tree =>
        .ok { components, patterns, tree, warnings := x.warnings } := by
  rw [Operation.fst_run_bind]
  rfl

/-- A new extractor splits a page that was read as it is split by itself. -/
theorem fst_split (o : SplitOptions α) {r : ReadOptions} {markup : Option String} {d : Document}
    (read : (Document.read r markup).result = .ok d) :
    ((split d.root).run (.ofOptions o)).1 = Split.ofRoot o d.root := by
  rw [split, Operation.run_bind_of_eq_ok Operation.run_kept]
  by_cases empty : (!d.root.isElement && d.root.elementChildren.isEmpty) = true
  · rw [if_pos empty, Split.ofRoot, if_pos empty]
    rfl
  · rw [if_neg empty, Split.ofRoot_eq_withComponents o empty, Split.withComponents]
    let patterns := if (ofOptions o).options.findsPatterns then
      Pattern.detect (ofOptions o).detection d.root else []
    -- What the walk reports in its state is what the closed form lists beforehand.
    have reports :=
      reports_componentsOf (stands_new o) (areAhead_of_read read (.ofOptions o)) patterns
    cases found : (componentsOf patterns d.root).run { toExtractor := ofOptions o } with
    | mk outcome p =>
    have first : (Operation.within (fun x => { toExtractor := x }) (fun p _ => p.toExtractor)
        (componentsOf patterns d.root)).run (ofOptions o) = (outcome, p.toExtractor) := by
      rw [Operation.run_within, found]
    rw [found] at reports
    cases reports with
    | @refused said fault _ complained =>
      have complained :
          Split.complaints [] (Decision.troublesOnPage o d.root) = (said, some fault) :=
        complained
      rw [Operation.run_bind_of_error first, complained]
      dsimp only
      rw [Outcome.mapM_warn_bind]
      exact (congrArg (Outcome.mk · _) (List.append_nil _)).symm
    | @passed said components _ complained _ warned made =>
      have complained : Split.complaints [] (Decision.troublesOnPage o d.root) = (said, none) :=
        complained
      have warned : p.warnings = said := warned
      have made : components = Extraction.components { convention := o.convention }
        (Decision.extracted o d.root) := made
      have rest := fst_run_tree components patterns p.toExtractor
      rw [warned] at rest
      rw [Operation.run_bind_of_ok first, complained]
      dsimp only
      rw [Outcome.mapM_warn_bind, ← made, rest]
      rfl

end Extractor

/-! ### What no operation changes -/

section
open Operation

namespace Extracting

/-- What finds components as it starts a page. -/
def start (p : Extracting α) : Extractor α := p.toExtractor.reset

omit [Score α] in
/-- Asking a selector leaves what a page is started with. -/
theorem leaves_selects (n : Node) (selector : String) :
    Leaves start (selects n selector : Operation (Extracting α) Bool) := by
  refine .bind_kept fun p => ?_
  split
  · exact .ok _
  · split
    · exact .ok _
    · exact .bind (.change fun _ => rfl) fun _ => .bind (.ofOutcome _) fun _ => .ok _
    · exact .ofOutcome _

omit [Score α] in
/-- Asking selectors leaves what a page is started with. -/
theorem leaves_selectsAny (n : Node) : ∀ selectors : List String,
    Leaves start (selectsAny n selectors : Operation (Extracting α) Bool)
  | [] => .ok _
  | s :: rest => .bind (leaves_selects n s) fun b => by
    cases b with
    | true => exact .ok _
    | false => exact leaves_selectsAny n rest

/-- Deciding on a node leaves what a page is started with. -/
theorem leaves_decide (patterns : List (Pattern α)) (n : Node) :
    Leaves start (decide patterns n) := by
  refine .bind_kept fun p => ?_
  dsimp only
  split
  · exact .ok _
  · refine .bind (leaves_selectsAny n _) fun b => ?_
    split
    · exact .ok _
    · exact .ok _

/-- Taking out a component leaves what a page is started with. -/
theorem leaves_extract (n : Node) (depth : Nat) (owner : Option String) (decision : Decision α) :
    Leaves start (extract n depth owner decision) := fun _ => rfl

/-- Meeting a node leaves what a page is started with. -/
theorem leaves_meet (patterns : List (Pattern α)) (depth : Nat) (owner : Option String) (n : Node) :
    Leaves start (meet patterns depth owner n) := by
  refine .bind (.change fun _ => rfl) fun _ => .bind_kept fun p => ?_
  split
  · exact .ok _
  · refine .bind (leaves_decide patterns n) fun d => ?_
    split
    · exact .ok _
    · exact .bind (leaves_extract n depth owner _) fun _ => .ok _

mutual
/-- The way through a tree leaves what a page is started with. -/
theorem leaves_visit (patterns : List (Pattern α)) (depth : Nat) (owner : Option String) :
    ∀ n : Node, Leaves start (visit patterns depth owner n)
  | .mk label children => by
    rw [visit]
    refine .bind_kept fun p => ?_
    split
    · exact .ok _
    · exact .bind (leaves_meet patterns depth owner _) fun (depth, owner) =>
        leaves_visitAll patterns depth owner children

/-- The way through a forest leaves what a page is started with. -/
theorem leaves_visitAll (patterns : List (Pattern α)) (depth : Nat) (owner : Option String) :
    ∀ l : List Node, Leaves start (visitAll patterns depth owner l)
  | [] => by
    rw [visitAll]
    exact .ok _
  | n :: rest => by
    rw [visitAll]
    exact .bind (leaves_visit patterns depth owner n) fun _ =>
      leaves_visitAll patterns depth owner rest
end

/-- Finding components leaves what a page is started with. -/
theorem leaves_componentsOf (patterns : List (Pattern α)) (root : Node) :
    Leaves start (componentsOf patterns root) := by
  refine .bind ?_ fun _ => .bind_kept fun _ => .ok _
  rw [page]
  split
  · exact leaves_visit patterns 0 none root
  · exact .bind (.change fun _ => rfl) fun _ => leaves_visitAll patterns 0 none root.children

end Extracting

/-- Splitting a page leaves what a page is started with. -/
theorem Extractor.leaves_split (root : Node) :
    Leaves Extractor.reset (Extractor.split root : Operation (Extractor α) (Split α)) := by
  refine .bind_kept fun x => ?_
  split
  · exact .ok _
  · exact .bind (fun x => Extracting.leaves_componentsOf _ root { toExtractor := x }) fun _ =>
      .bind (.ofOutcome _) fun _ => .bind_kept fun _ => .ok _

end

/-! ### Used ones -/

/-- Splits a text or a page without a reader to be used again. -/
def Extractor.splitSource (source : SplitSource) : Operation (Extractor α) (Split α) := do
  match source with
  | .page d => Extractor.split d.root
  | .text none => return {}
  | .text (some markup) =>
    if isBlankText markup then return {}
    let d ← Operation.ofOutcome (Document.read {} (some markup))
    Extractor.split d.root

/-- Splitting a source leaves what a page is started with. -/
theorem Extractor.leaves_splitSource (source : SplitSource) :
    (Extractor.splitSource source : Operation (Extractor α) (Split α)).Leaves Extractor.reset := by
  unfold splitSource
  split
  · exact leaves_split _
  · exact .ok _
  · split
    · exact .ok _
    · exact .bind (.ofOutcome _) fun d => leaves_split d.root

/-- A new extractor splits a text as it is split by itself. -/
theorem Extractor.fst_splitSource (o : SplitOptions α) (markup : Option String) :
    ((Extractor.splitSource (.text markup)).run (.ofOptions o)).1 = Split.ofText o markup := by
  cases markup with
  | none => rfl
  | some markup =>
    unfold splitSource Split.ofText
    dsimp only
    split
    · rfl
    · rw [Operation.fst_run_bind, Operation.run_ofOutcome]
      cases read : Document.read {} (some markup) with
      | mk records result =>
      cases result with
      | error fault => rfl
      | ok d =>
        have given : (Document.read {} (some markup)).result = .ok d := by rw [read]
        exact congrArg (fun rest : Outcome (Split α) =>
          (⟨records ++ rest.records, rest.result⟩ : Outcome (Split α))) (fst_split o given)

namespace PageReader

/-- What is left of a reader after some pages. -/
def after (r : PageReader) (before : List (ReadOptions × Option String)) : PageReader :=
  before.foldl (fun r page => ((read page.1 page.2).run r).2) r

end PageReader

/-- A call on a splitter or its reader. -/
inductive SplitterCall where
  | split (source : SplitSource)
  | read (o : ReadOptions) (markup : Option String)

namespace Splitter

/-- A splitter comes to what its extractor comes to that starts a page, whatever its reader has
kept. -/
theorem run_split (source : SplitSource) (s : Splitter α) :
    (((split source).run s).1, ((split source).run s).2.toExtractor) =
      (Extractor.splitSource source).run s.toExtractor.reset := by
  unfold split Extractor.splitSource
  rw [Operation.run_bind_of_eq_ok (Operation.run_change _)]
  match source with
  | .page d => rfl
  | .text none => rfl
  | .text (some markup) =>
    dsimp only
    split
    · rfl
    · have known := PageReader.fst_read {} (some markup) s.reader
      -- The reader keeps memory of its own, but its answer does not depend on it.
      cases read : (PageReader.read {} (some markup)).run s.reader with
      | mk o r =>
      rw [read] at known
      rw [← known]
      have first : ((PageReader.read {} (some markup)).within reader fun r s =>
          { s with reader := r }).run { s with toExtractor := s.toExtractor.reset } =
            (o, { toExtractor := s.toExtractor.reset, reader := r }) := by
        rw [Operation.run_within, read]
      obtain ⟨records, result⟩ := o
      cases result with
      | ok d =>
        rw [Operation.run_bind_of_ok first, Operation.run_bind_of_ok (Operation.run_ofOutcome _)]
        rfl
      | error fault =>
        rw [Operation.run_bind_of_error first,
          Operation.run_bind_of_error (Operation.run_ofOutcome _)]

/-- What is left of a splitter after a call. -/
def call (s : Splitter α) : SplitterCall → Splitter α
  | .split source => ((split source).run s).2
  | .read o markup => { s with reader := ((PageReader.read o markup).run s.reader).2 }

/-- What is left of a splitter after some calls. -/
def after (s : Splitter α) (before : List SplitterCall) : Splitter α := before.foldl call s

/-- A call leaves a splitter that is as new. -/
theorem asNew_call (s : Splitter α) (c : SplitterCall) : (s.call c).asNew = s.asNew := by
  cases c with
  | read o markup => rfl
  | split source =>
    have leaves := Extractor.leaves_splitSource source s.toExtractor.reset
    rw [← run_split source s] at leaves
    exact congrArg (fun x => ({ toExtractor := x } : Splitter α)) leaves

/-- Any calls leave a splitter that is as new. -/
theorem asNew_after (s : Splitter α) (before : List SplitterCall) :
    (s.after before).asNew = s.asNew := by
  induction before generalizing s with
  | nil => rfl
  | cons c rest ih => exact (ih (s.call c)).trans (s.asNew_call c)

/-- A splitter that was used comes to what a new extractor with its options comes to. -/
theorem fst_split_after (o : SplitOptions α) (before : List SplitterCall) (source : SplitSource) :
    ((split source).run ((ofOptions o).after before)).1 =
      ((Extractor.splitSource source).run (.ofOptions o)).1 := by
  have start : ((ofOptions o).after before).toExtractor.reset = .ofOptions o :=
    congrArg Splitter.toExtractor ((ofOptions o).asNew_after before)
  have run := (Prod.mk.inj (run_split source ((ofOptions o).after before))).1
  rwa [start] at run

/-- A reader that was used reads a page as a new one does, and a splitter that was used splits a
text or a page as a new one does and leaves the same behind; and that is how the page is read, and
the text split, by itself. -/
theorem used_splitter_is_new :
    (∀ (before : List (ReadOptions × Option String)) (o : ReadOptions) (markup : Option String),
      let new : PageReader := {}
      ((PageReader.read o markup).run (new.after before)).1 =
        ((PageReader.read o markup).run new).1 ∧
      ((PageReader.read o markup).run new).1 = Document.read o markup) ∧
    (∀ (s : Splitter α) (before : List SplitterCall) (source : SplitSource),
      let (outcome, used) := (split source).run (s.after before)
      let (outcome', new) := (split source).run s.asNew
      outcome = outcome' ∧ used.toExtractor = new.toExtractor) ∧
    ∀ (o : SplitOptions α) (before : List SplitterCall) (markup : Option String),
      ((split (.text markup)).run ((ofOptions o).after before)).1 = Split.ofText o markup := by
  have same (s : Splitter α) (before : List SplitterCall) (source : SplitSource) :
      (((split source).run (s.after before)).1,
        ((split source).run (s.after before)).2.toExtractor) =
        (((split source).run s.asNew).1, ((split source).run s.asNew).2.toExtractor) := by
    have start : (s.after before).toExtractor.reset = s.asNew.toExtractor.reset :=
      congrArg Splitter.toExtractor (s.asNew_after before)
    rw [run_split, run_split, start]
  refine ⟨fun before o markup => ?_, fun s before source => ?_, fun o before markup => ?_⟩
  · exact ⟨(PageReader.fst_read o markup _).trans (PageReader.fst_read o markup _).symm,
      PageReader.fst_read o markup _⟩
  · exact Prod.mk.inj (same s before source)
  · rw [(Prod.mk.inj (same (ofOptions o) before (.text markup))).1, ← Extractor.fst_splitSource]
    exact (Prod.mk.inj (run_split (.text markup) (ofOptions o))).1

/-- A selector that was found unreadable on one page is reported again on the next one. -/
example :
    let o : SplitOptions Rat := { selectors := ["["], threshold := 1, findsPatterns := false }
    let page : SplitSource := .text "<p>x</p>"
    let used := (ofOptions o).after [.split page]
    used.unreadable = ["["] ∧ ((split page).run used).1.records.length = 1 := by
  decide +kernel

end Splitter
end Componentry
