import Componentry.Proofs.Conversion.Content
import Componentry.Proofs.Conversion.Warnings
import Componentry.Proofs.Lists

/-!
# Stages of a conversion

A conversion always ends. It runs its stages in their order, up to the first that fails after the
styles; every stage is reported, a failed one also by one warning of its own. A conversion that
fails has no files and the message of its last stage. One that succeeds has a file for each part of
the page, an index if there are several, and the style sheet if the styles gave one.
-/

set_option autoImplicit false

namespace Componentry
open Componentry.Text

/-- The warning that a report of a failed stage makes. -/
def StageReport.failure? (r : StageReport) : Option String :=
  if r.completed then none else some (r.stage.failureStart ++ r.message)

namespace Conversion
variable {α : Type} {c : Conversion} {stage : Stage} {action : Outcome (StageResult α)}
  {before : List String} {reports : List StageReport}

/-! ## Reports -/

/-- How a stage went, by what its action gave. -/
def reportOf (stage : Stage) (action : Outcome (StageResult α)) : StageReport :=
  match action.result with
  | .ok r => ⟨stage, true, r.message⟩
  | .error fault => ⟨stage, false, fault.message⟩

/-- The warnings of a stage: those of its own, and that of its failure. -/
def warningsOf (stage : Stage) (action : Outcome (StageResult α)) (before : List String) :
    List String :=
  match action.result with
  | .ok r => r.warnings
  | .error fault => before ++ [failureWarning stage fault]

/-- A conversion after a stage. -/
def after (c : Conversion) (stage : Stage) (action : Outcome (StageResult α))
    (before : List String) : Conversion :=
  { c with
    stages := c.stages ++ [reportOf stage action]
    warnings := c.warnings ++ warningsOf stage action before }

/-- A stage that runs never ends the conversion: it is recorded, with its value if it has one.
-/
theorem result_run (c : Conversion) (stage : Stage) (action : Outcome (StageResult α))
    (before : Unit → List String) : (c.run stage action before).result =
      .ok (action.result.toOption.map StageResult.value, c.after stage action (before ())) := by
  rw [run, after, reportOf, warningsOf]
  cases action.result with
  | ok r => rfl
  | error fault =>
    simp only [List.append_assoc]
    rfl

/-- A conversion that is under way: its stages are reported, each failure has its warning, and
nothing is given yet. -/
structure IsReported (c : Conversion) (reports : List StageReport) : Prop where
  stages : c.stages = reports
  warnings : ∀ stage : Stage, c.warnings.filter (startsWith · stage.failureStart) =
    (reports.filter (·.stage == stage)).filterMap StageReport.failure?
  files : c.files = []
  succeeded : c.succeeded = false
  error : c.error = none

/-- Before its first stage a conversion has nothing to report. -/
theorem isReported_empty : IsReported {} [] where
  stages := rfl
  warnings := fun _ => rfl
  files := rfl
  succeeded := rfl
  error := rfl

/-- A warning of the conversion itself reports no failed stage. -/
theorem filter_own {l : List String} (own : ∀ w ∈ l, IsOwnWarning w) (stage : Stage) :
    l.filter (startsWith · stage.failureStart) = [] := by
  refine List.filter_eq_nil_iff.2 fun w hw => ?_
  rw [own w hw stage]
  exact Bool.false_ne_true

/-- The warnings of a stage tell of its failure only. -/
theorem filter_warningsOf (own : ∀ r, action.result = .ok r → ∀ w ∈ r.warnings, IsOwnWarning w)
    (ownBefore : ∀ w ∈ before, IsOwnWarning w) (other : Stage) :
    (warningsOf stage action before).filter (startsWith · other.failureStart) =
      ([reportOf stage action].filter (·.stage == other)).filterMap StageReport.failure? := by
  rw [warningsOf, reportOf]
  cases result : action.result with
  | ok r =>
    refine (filter_own (own r result) other).trans (Eq.symm ?_)
    refine List.filterMap_eq_nil_iff.2 fun r hr => ?_
    rw [List.mem_singleton.1 (List.mem_of_mem_filter hr)]
    rfl
  | error fault =>
    dsimp only
    rw [List.filter_append, filter_own ownBefore, List.nil_append, List.filter_cons,
      startsWith_failureWarning, List.filter_cons]
    cases stage == other <;> rfl

/-- Running a stage reports it. -/
theorem IsReported.after (h : IsReported c reports)
    (own : ∀ r, action.result = .ok r → ∀ w ∈ r.warnings, IsOwnWarning w)
    (ownBefore : ∀ w ∈ before, IsOwnWarning w) :
    IsReported (c.after stage action before) (reports ++ [reportOf stage action]) where
  stages := congrArg (· ++ _) h.stages
  warnings := by
    intro other
    rw [List.filter_append, List.filterMap_append, ← h.warnings other,
      ← filter_warningsOf own ownBefore other, ← List.filter_append]
    rfl
  files := h.files
  succeeded := h.succeeded
  error := h.error

/-! ## Records -/

/-- The stages that a conversion cannot do without. -/
def neededStages : List Stage := [.parse, .split, .generate]

/-- What a conversion records, however it ends. -/
structure IsRecorded (c : Conversion) : Prop where
  /-- The stages that were run are those up to one of them. -/
  order : c.stages.map StageReport.stage <+: Stage.all
  /-- A failed stage has one warning, a completed one has none that tells of a failure. -/
  failures : ∀ r ∈ c.stages,
    c.warnings.filter (startsWith · r.stage.failureStart) = r.failure?.toList
  /-- No warning tells of a stage that was not run. -/
  untold : ∀ stage : Stage, stage ∉ c.stages.map StageReport.stage →
    ∀ w ∈ c.warnings, startsWith w stage.failureStart = false
  succeeded : c.succeeded = true ↔
    ∀ stage ∈ neededStages, ∃ r ∈ c.stages, r.stage = stage ∧ r.completed = true
  failed : c.succeeded = false → c.files = [] ∧
    ∃ r, c.stages.getLast? = some r ∧ r.completed = false ∧ c.error = some r.message
  faultless : c.succeeded = true → c.error = none

/-- Stages in their order are distinct. -/
theorem nodup_of_order (order : reports.map StageReport.stage <+: Stage.all) :
    (reports.map StageReport.stage).Nodup :=
  order.sublist.nodup (by decide)

/-- The report of a stage tells its one warning. -/
theorem IsReported.failures (h : IsReported c reports)
    (order : reports.map StageReport.stage <+: Stage.all) {r : StageReport} (hr : r ∈ reports) :
    c.warnings.filter (startsWith · r.stage.failureStart) = r.failure?.toList := by
  rw [h.warnings, Lists.filter_of_nodup_keys (nodup_of_order order) hr]
  cases eq : r.failure? with
  | none => rw [List.filterMap_cons_none eq]; rfl
  | some w => rw [List.filterMap_cons_some eq]; rfl

/-- Of a stage that did not run nothing is told. -/
theorem IsReported.untold (h : IsReported c reports)
    (absent : stage ∉ reports.map StageReport.stage) :
    ∀ w ∈ c.warnings, startsWith w stage.failureStart = false := by
  have none_ : reports.filter (·.stage == stage) = [] := by
    refine List.filter_eq_nil_iff.2 fun r hr same => absent ?_
    rw [← beq_iff_eq.1 same]
    exact List.mem_map_of_mem hr
  have empty := h.warnings stage
  rw [none_] at empty
  exact fun w hw => Bool.eq_false_iff.2 (List.filter_eq_nil_iff.1 empty w hw)

/-- A conversion whose last stage failed, and which cannot do without it. -/
theorem isRecorded_failed {r : StageReport} (h : IsReported c (reports ++ [r]))
    (order : (reports ++ [r]).map StageReport.stage <+: Stage.all)
    (needed : r.stage ∈ neededStages) (incomplete : r.completed = false) :
    IsRecorded c.failed where
  order := by
    show c.stages.map StageReport.stage <+: Stage.all
    rw [h.stages]
    exact order
  failures := fun r' hr' => h.failures order (h.stages ▸ hr')
  untold := fun stage absent => h.untold (h.stages ▸ absent)
  succeeded := by
    refine iff_of_false Bool.false_ne_true fun all => ?_
    obtain ⟨r', hr', same, completed⟩ := all r.stage needed
    replace hr' : r' ∈ reports ++ [r] := h.stages ▸ hr'
    -- Stages are distinct, so a needed one that failed has no other report to make up for it.
    have one := Lists.filter_of_nodup_keys (nodup_of_order order) (List.mem_append_right reports
      (List.mem_singleton_self r))
    have found : r' ∈ (reports ++ [r]).filter (·.stage == r.stage) :=
      List.mem_filter.2 ⟨hr', beq_iff_eq.2 same⟩
    rw [one] at found
    rw [List.mem_singleton.1 found, incomplete] at completed
    cases completed
  failed := by
    intro _
    refine ⟨rfl, r, ?_, incomplete, ?_⟩
    · show c.stages.getLast? = some r
      rw [h.stages, List.getLast?_concat]
    · show (c.stages.reverse.find? fun r => !r.completed).map StageReport.message = some r.message
      rw [h.stages, List.reverse_concat, List.find?_cons_of_pos (by rw [incomplete]; rfl)]
      rfl
  faultless := fun succeeded => absurd succeeded Bool.false_ne_true

/-- A conversion that has completed the stages it cannot do without. -/
theorem isRecorded_written (h : IsReported c reports)
    (order : reports.map StageReport.stage <+: Stage.all)
    (all : ∀ stage ∈ neededStages, ∃ r ∈ reports, r.stage = stage ∧ r.completed = true)
    (files : List GeneratedFile) : IsRecorded { c with succeeded := true, files } where
  order := by
    show c.stages.map StageReport.stage <+: Stage.all
    rw [h.stages]
    exact order
  failures := fun r hr => h.failures order (h.stages ▸ hr)
  untold := fun stage absent => h.untold (h.stages ▸ absent)
  succeeded := iff_of_true rfl (by
    show ∀ stage ∈ neededStages, ∃ r ∈ c.stages, r.stage = stage ∧ r.completed = true
    rw [h.stages]
    exact all)
  failed := fun failed => absurd failed.symm Bool.false_ne_true
  faultless := fun _ => h.error

/-- A report is about the stage that ran. -/
theorem stage_reportOf : (reportOf stage action).stage = stage := by
  rw [reportOf]
  split <;> rfl

/-- A stage is reported completed just when it had a result. -/
theorem completed_reportOf :
    (reportOf stage action).completed = true ↔ ∃ r, action.result = .ok r := by
  rw [reportOf]
  split
  next r result => exact iff_of_true rfl ⟨r, result⟩
  next fault result =>
    rw [result]
    exact iff_of_false Bool.false_ne_true fun ⟨_, h⟩ => by cases h

/-- A stage that failed is not reported completed. -/
theorem completed_reportOf_of_error {fault : Fault} (h : action.result = .error fault) :
    (reportOf stage action).completed = false := by
  rw [reportOf, h]

/-! ## Parts -/

/-- The parts that a page was split into. -/
def parts (c : Conversion) : List (Component Float) := (c.split.map Split.components).getD []

end Conversion

namespace ConversionOptions
open Conversion

variable {settings : Settings} {o : ConversionOptions} {markup : Option String}

/-! ## Runs -/

/-- A conversion after its styles. -/
def afterStyles (o : ConversionOptions) (markup : Option String) : Conversion :=
  ({} : Conversion).after .css (o.convertStyles markup) []

/-- A conversion after the page is read. -/
def afterReading (settings : Settings) (o : ConversionOptions) (markup : Option String) :
    Conversion :=
  (o.afterStyles markup).after .parse (readPage settings (o.styledPage markup).markup) []

/-- A conversion after the page is split. -/
def afterSplitting (settings : Settings) (o : ConversionOptions) (markup : Option String)
    (d : Document) : Conversion :=
  (o.afterReading settings markup).after .split (splitPage settings o d) []

/-- A conversion after the components are written. -/
def afterWriting (settings : Settings) (o : ConversionOptions) (markup : Option String)
    (d : Document) (split : Option (Split Float)) : Conversion :=
  let sources := o.sources d split
  { o.afterSplitting settings markup d with split }.after .generate
    (o.generate (o.styledPage markup).sheet sources)
    (o.warningsBefore (o.styledPage markup).sheet sources)

/-- How a conversion ends: with the first stage after the styles that fails, or with files. -/
inductive Runs (settings : Settings) (o : ConversionOptions) (markup : Option String) :
    Conversion → Prop where
  | unread {fault : Fault} :
      (readPage settings (o.styledPage markup).markup).result = .error fault →
      Runs settings o markup (o.afterReading settings markup).failed
  | unsplit {page : StageResult Document} {fault : Fault} :
      (readPage settings (o.styledPage markup).markup).result = .ok page →
      (splitPage settings o page.value).result = .error fault →
      Runs settings o markup (o.afterSplitting settings markup page.value).failed
  | unwritten {page : StageResult Document} {split : StageResult (Option (Split Float))}
      {fault : Fault} :
      (readPage settings (o.styledPage markup).markup).result = .ok page →
      (splitPage settings o page.value).result = .ok split →
      (o.generate (o.styledPage markup).sheet (o.sources page.value split.value)).result =
        .error fault →
      Runs settings o markup (o.afterWriting settings markup page.value split.value).failed
  | written {page : StageResult Document} {split : StageResult (Option (Split Float))}
      {files : StageResult (List GeneratedFile)} :
      (readPage settings (o.styledPage markup).markup).result = .ok page →
      (splitPage settings o page.value).result = .ok split →
      (o.generate (o.styledPage markup).sheet (o.sources page.value split.value)).result =
        .ok files →
      Runs settings o markup { o.afterWriting settings markup page.value split.value with
        succeeded := true
        files := files.value ++ (o.styledPage markup).sheet.toList }

/-- A conversion ends in one of these ways. -/
theorem exists_runs (settings : Settings) (o : ConversionOptions) (markup : Option String) :
    ∃ c, (o.convert settings markup).result = .ok c ∧ Runs settings o markup c := by
  have css := result_run {} .css (o.convertStyles markup) fun _ => []
  have parse := result_run (o.afterStyles markup) .parse
    (readPage settings (o.styledPage markup).markup) fun _ => []
  -- Each further stage runs only if the one before it has a value to hand on.
  cases read : (readPage settings (o.styledPage markup).markup).result with
  | error fault =>
    rw [read] at parse
    exact ⟨_, Outcome.result_bind_eq_ok.2 ⟨_, css, Outcome.result_bind_eq_ok.2 ⟨_, parse, rfl⟩⟩,
      .unread read⟩
  | ok page =>
    rw [read] at parse
    have cut := result_run (o.afterReading settings markup) .split
      (splitPage settings o page.value) fun _ => []
    cases given : (splitPage settings o page.value).result with
    | error fault =>
      rw [given] at cut
      exact ⟨_, Outcome.result_bind_eq_ok.2 ⟨_, css, Outcome.result_bind_eq_ok.2 ⟨_, parse,
        Outcome.result_bind_eq_ok.2 ⟨_, cut, rfl⟩⟩⟩, .unsplit read given⟩
    | ok split =>
      rw [given] at cut
      have written := result_run { o.afterSplitting settings markup page.value with
          split := split.value } .generate
        (o.generate (o.styledPage markup).sheet (o.sources page.value split.value))
        fun _ => o.warningsBefore (o.styledPage markup).sheet (o.sources page.value split.value)
      cases made :
          (o.generate (o.styledPage markup).sheet (o.sources page.value split.value)).result with
      | error fault =>
        rw [made] at written
        exact ⟨_, Outcome.result_bind_eq_ok.2 ⟨_, css, Outcome.result_bind_eq_ok.2 ⟨_, parse,
          Outcome.result_bind_eq_ok.2 ⟨_, cut, Outcome.result_bind_eq_ok.2 ⟨_, written, rfl⟩⟩⟩⟩,
          .unwritten read given made⟩
      | ok files =>
        rw [made] at written
        exact ⟨_, Outcome.result_bind_eq_ok.2 ⟨_, css, Outcome.result_bind_eq_ok.2 ⟨_, parse,
          Outcome.result_bind_eq_ok.2 ⟨_, cut, Outcome.result_bind_eq_ok.2 ⟨_, written, rfl⟩⟩⟩⟩,
          .written read given made⟩

/-! ## Reports of a run -/

/-- After the styles the first stage is reported. -/
theorem isReported_afterStyles (o : ConversionOptions) (markup : Option String) :
    IsReported (o.afterStyles markup) [reportOf .css (o.convertStyles markup)] :=
  isReported_empty.after (fun _ => isOwnWarning_of_convertStyles)
    fun _ hw => absurd hw List.not_mem_nil

/-- After the reading two stages are reported. -/
theorem isReported_afterReading (settings : Settings) (o : ConversionOptions)
    (markup : Option String) : IsReported (o.afterReading settings markup)
      ([reportOf .css (o.convertStyles markup)] ++
        [reportOf .parse (readPage settings (o.styledPage markup).markup)]) :=
  (isReported_afterStyles o markup).after (fun _ => isOwnWarning_of_readPage)
    fun _ hw => absurd hw List.not_mem_nil

/-- After the splitting three stages are reported. -/
theorem isReported_afterSplitting (settings : Settings) (o : ConversionOptions)
    (markup : Option String) (d : Document) : IsReported (o.afterSplitting settings markup d)
      ([reportOf .css (o.convertStyles markup),
        reportOf .parse (readPage settings (o.styledPage markup).markup)] ++
        [reportOf .split (splitPage settings o d)]) :=
  (isReported_afterReading settings o markup).after (fun _ => isOwnWarning_of_splitPage)
    fun _ hw => absurd hw List.not_mem_nil

/-- After the writing all four stages are reported. -/
theorem isReported_afterWriting (settings : Settings) (o : ConversionOptions)
    (markup : Option String) (d : Document) (split : Option (Split Float)) :
    IsReported (o.afterWriting settings markup d split)
      ([reportOf .css (o.convertStyles markup),
        reportOf .parse (readPage settings (o.styledPage markup).markup),
        reportOf .split (splitPage settings o d)] ++
        [reportOf .generate (o.generate (o.styledPage markup).sheet (o.sources d split))]) := by
  have before := isReported_afterSplitting settings o markup d
  -- the parts that are kept are no report
  have kept : IsReported { o.afterSplitting settings markup d with split } _ :=
    ⟨before.stages, before.warnings, before.files, before.succeeded, before.error⟩
  exact kept.after (fun _ => isOwnWarning_of_generate) fun w => isOwnWarning_of_mem_warningsUpTo w

/-- However a conversion ends, it records what it did. -/
theorem Runs.isRecorded {c : Conversion} (h : Runs settings o markup c) : IsRecorded c := by
  -- Three ways end with a needed stage that failed, the last one with all of them done.
  cases h with
  | unread read =>
    refine isRecorded_failed (isReported_afterReading settings o markup) ?_ ?_
      (completed_reportOf_of_error read)
    · simp only [List.map_append, List.map_cons, List.map_nil, stage_reportOf]
      exact ⟨[.split, .generate], rfl⟩
    · rw [stage_reportOf]
      decide
  | unsplit read given =>
    refine isRecorded_failed (isReported_afterSplitting settings o markup _) ?_ ?_
      (completed_reportOf_of_error given)
    · simp only [List.map_append, List.map_cons, List.map_nil, stage_reportOf]
      exact ⟨[.generate], rfl⟩
    · rw [stage_reportOf]
      decide
  | unwritten read given made =>
    refine isRecorded_failed (isReported_afterWriting settings o markup _ _) ?_ ?_
      (completed_reportOf_of_error made)
    · simp only [List.map_append, List.map_cons, List.map_nil, stage_reportOf]
      exact ⟨[], rfl⟩
    · rw [stage_reportOf]
      decide
  | written read given made =>
    refine isRecorded_written (isReported_afterWriting settings o markup _ _) ?_ ?_ _
    · simp only [List.map_append, List.map_cons, List.map_nil, stage_reportOf]
      exact ⟨[], rfl⟩
    · simp only [neededStages, List.forall_mem_cons]
      refine ⟨⟨_, ?_, stage_reportOf, completed_reportOf.2 ⟨_, read⟩⟩,
        ⟨_, ?_, stage_reportOf, completed_reportOf.2 ⟨_, given⟩⟩,
        ⟨_, ?_, stage_reportOf, completed_reportOf.2 ⟨_, made⟩⟩,
        fun _ h => absurd h List.not_mem_nil⟩ <;> simp

/-! ## Files -/

/-- What the styles of a page are converted to, if they are to be converted and can be. -/
def convertedStyles? (o : ConversionOptions) (markup : Option String) : Option StyledMarkup :=
  if keepingStrategies.contains (lower o.strategy) then none
  else markup.bind fun text =>
    (StyleStrategy.ofName (lower o.strategy)).toOption.bind fun strategy =>
      (strategy.convert o.styles text).result.toOption

/-- There is a style sheet exactly if the styles gave one that is not empty. -/
theorem content_sheet (o : ConversionOptions) (markup : Option String) :
    (o.styledPage markup).sheet.map GeneratedFile.content =
      ((o.convertedStyles? markup).map StyledMarkup.sheet).filter (· != "") := by
  unfold styledPage convertStyles convertedStyles?
  cases markup with
  | none => cases keepingStrategies.contains (lower o.strategy) <;> rfl
  | some text =>
    dsimp only
    cases keepingStrategies.contains (lower o.strategy) with
    | true => rfl
    | false =>
      rw [if_neg Bool.false_ne_true, if_neg Bool.false_ne_true, Option.bind_some]
      cases StyleStrategy.ofName (lower o.strategy) with
      | error fault => rfl
      | ok strategy =>
        simp only [Outcome.ofExcept, Outcome.bind, Except.toOption, Option.bind_some]
        cases (strategy.convert o.styles text).result with
        | error fault => rfl
        | ok styled =>
          simp only [Option.map_some, Option.filter_some, bne]
          cases styled.sheet == "" <;> rfl

/-- Styles that cannot be converted leave the page as it was. -/
theorem styledPage_of_error {fault : Fault} (h : (o.convertStyles markup).result = .error fault) :
    o.styledPage markup = ⟨markup, none⟩ := by
  rw [styledPage, h]
  rfl

/-- There is a source for each component, and one for the page where there is none. -/
theorem length_sources (o : ConversionOptions) (d : Document) (split : Option (Split Float)) :
    (o.sources d split).length = max 1 ((split.map Split.components).getD []).length := by
  rw [sources]
  cases (split.map Split.components).getD [] with
  | nil => rfl
  | cons first rest =>
    rw [List.length_map, List.length_cons]
    omega

/-- An index is written for two files or more. -/
theorem length_index (o : ConversionOptions) (names : List String) :
    (o.index names).length = if 1 < names.length then 1 else 0 := by
  rw [index]
  by_cases several : 1 < names.length
  · rw [if_neg (Nat.not_le.2 several), if_pos several]
    rfl
  · rw [if_pos (Nat.not_lt.1 several), if_neg several]
    rfl

/-- Files of one kind have none of another kind among them. -/
theorem filter_kind_of_other {l : List GeneratedFile} {kind other : FileKind}
    (h : ∀ f ∈ l, f.kind = kind) (differ : kind ≠ other) :
    l.filter (fun f => f.kind == other) = [] := by
  refine List.filter_eq_nil_iff.2 fun f hf same => differ ?_
  rw [← h f hf]
  exact beq_iff_eq.1 same

/-- The files of a conversion that succeeds: components, then their index, then the style sheet. -/
structure HasFiles (o : ConversionOptions) (markup : Option String) (d : Document) (c : Conversion)
    (components index sheet : List GeneratedFile) : Prop where
  files : c.files = components ++ index ++ sheet
  /-- Each part is a component of its own, a page without parts is one as a whole. -/
  written : List.Forall₂ (o.IsFileOf (sheetImports (o.styledPage markup).sheet))
    ((o.sources d c.split).map ComponentSource.page) components
  made : ∀ f ∈ components, f.kind = .component
  names : components.map GeneratedFile.name =
    (fileIdentifiers (o.sources d c.split)).map (· ++ o.componentEnding)
  parts : components.length = max 1 c.parts.length
  /-- Several components have an index. -/
  several : index.length = if 1 < c.parts.length then 1 else 0
  indexed : ∀ f ∈ index, f.kind = .index
  /-- A style sheet is there if the styles gave one that is not empty. -/
  given : sheet = (o.styledPage markup).sheet.toList
  styles : sheet.map GeneratedFile.content =
    (((o.convertedStyles? markup).map StyledMarkup.sheet).filter (· != "")).toList
  styled : ∀ f ∈ sheet, f.kind = .style
  fileCount : c.fileCount = components.length + index.length + sheet.length
  componentCount : c.componentCount = components.length

/-- How a conversion goes: what it records, what each of its stages was run on, and its files. -/
structure IsStaged (settings : Settings) (o : ConversionOptions) (markup : Option String)
    (c : Conversion) : Prop extends c.IsRecorded where
  css : c.stages[0]? = some (reportOf .css (o.convertStyles markup))
  parse : c.stages[1]? = some (reportOf .parse (readPage settings (o.styledPage markup).markup))
  split : ∀ page, (readPage settings (o.styledPage markup).markup).result = .ok page →
    c.stages[2]? = some (reportOf .split (splitPage settings o page.value))
  generate : ∀ page split, (readPage settings (o.styledPage markup).markup).result = .ok page →
    (splitPage settings o page.value).result = .ok split → c.split = split.value ∧
      c.stages[3]? = some (reportOf .generate
        (o.generate (o.styledPage markup).sheet (o.sources page.value split.value)))
  /-- Without styles the page is read as it was, and there is no style sheet. -/
  unstyled : ∀ r ∈ c.stages, r.stage = .css → r.completed = false →
    (o.styledPage markup).markup = markup ∧ ∀ f ∈ c.files, f.kind ≠ .style
  written : c.succeeded = true →
    ∃ page, (readPage settings (o.styledPage markup).markup).result = .ok page ∧
      ∃ components index sheet, HasFiles o markup page.value c components index sheet

/-- The files of a conversion that wrote them: components, the index and the sheet, counted. -/
theorem hasFiles_of_generate {d : Document} {c : Conversion} {split : Option (Split Float)}
    {files : StageResult (List GeneratedFile)}
    (h : (o.generate (o.styledPage markup).sheet (o.sources d split)).result = .ok files)
    (parted : c.split = split)
    (all : c.files = files.value ++ (o.styledPage markup).sheet.toList) :
    ∃ components index sheet, HasFiles o markup d c components index sheet := by
  subst parted
  obtain ⟨components, value, each⟩ := written_of_generate h
  have size := each.length_eq
  rw [List.length_map, length_sources] at size
  have kinds : ∀ f ∈ components, f.kind = .component := by
    intro f hf
    obtain ⟨i, hi, rfl⟩ := List.mem_iff_getElem.1 hf
    obtain ⟨_, _, _, _, kind, _⟩ := each.get (by rwa [each.length_eq]) hi
    exact kind
  have names : components.map GeneratedFile.name =
      (fileIdentifiers (o.sources d c.split)).map (· ++ o.componentEnding) := by
    have both := names_of_generate h
    rw [value, List.map_append] at both
    exact List.append_cancel_right both
  have indexed : ∀ f ∈ o.index (fileIdentifiers (o.sources d c.split)), f.kind = .index :=
    fun _ => kind_of_mem_index
  have styled : ∀ f ∈ (o.styledPage markup).sheet.toList, f.kind = .style :=
    fun _ hf => kind_of_mem_sheet (Option.mem_toList.1 hf)
  have whole : c.files = components ++ o.index (fileIdentifiers (o.sources d c.split)) ++
      (o.styledPage markup).sheet.toList := by rw [all, value]
  refine ⟨components, _, _, whole, each, kinds, names, size.symm, ?_, indexed, rfl, ?_, styled,
    ?_, ?_⟩
  · rw [length_index, fileIdentifiers, length_identifiers, List.length_map, length_sources]
    refine if_congr ?_ rfl rfl
    rw [Conversion.parts]
    omega
  · rw [← content_sheet, Option.toList_map]
  · rw [Conversion.fileCount, whole, List.length_append, List.length_append]
  · rw [Conversion.componentCount, whole, List.filter_append, List.filter_append,
      filter_kind_of_other indexed (by decide), filter_kind_of_other styled (by decide),
      List.append_nil, List.append_nil,
      List.filter_eq_self.2 fun f hf => beq_iff_eq.2 (kinds f hf)]

/-- A conversion that succeeded has read its page and has its files. -/
theorem hasFiles_of_runs {c : Conversion} (h : Runs settings o markup c)
    (succeeded : c.succeeded = true) :
    ∃ page, (readPage settings (o.styledPage markup).markup).result = .ok page ∧
      ∃ components index sheet, HasFiles o markup page.value c components index sheet := by
  cases h with
  | unread read => cases succeeded
  | unsplit read given => cases succeeded
  | unwritten read given made => cases succeeded
  | written read given made => exact ⟨_, read, hasFiles_of_generate made rfl rfl⟩

/-- Where the styles failed, nothing of them is left. -/
theorem unstyled_of_runs {c : Conversion} (h : Runs settings o markup c) {r : StageReport}
    (hr : r ∈ c.stages) (css : r.stage = .css) (incomplete : r.completed = false) :
    (o.styledPage markup).markup = markup ∧ ∀ f ∈ c.files, f.kind ≠ .style := by
  have first : reportOf .css (o.convertStyles markup) ∈ c.stages := by
    cases h <;> exact List.mem_cons_self
  -- The report of the styles is the first one, and there is no second of that stage.
  have one := Lists.find?_of_nodup_keys (nodup_of_order h.isRecorded.order) first
  rw [stage_reportOf, ← css, Lists.find?_of_nodup_keys (nodup_of_order h.isRecorded.order) hr,
    Option.some.injEq, css] at one
  subst one
  obtain ⟨fault, failed⟩ : ∃ fault, (o.convertStyles markup).result = .error fault := by
    cases result : (o.convertStyles markup).result with
    | error fault => exact ⟨fault, rfl⟩
    | ok r =>
      rw [completed_reportOf.2 ⟨r, result⟩] at incomplete
      cases incomplete
  have page := styledPage_of_error failed
  refine ⟨by rw [page], fun f hf => ?_⟩
  cases succeeded : c.succeeded with
  | false =>
    rw [(h.isRecorded.failed succeeded).1] at hf
    cases hf
  | true =>
    obtain ⟨_, _, components, index, sheet, files⟩ := hasFiles_of_runs h succeeded
    have none_ : sheet = [] := by
      rw [files.given, page]
      rfl
    rw [files.files, none_, List.append_nil] at hf
    rcases List.mem_append.1 hf with hf | hf
    · rw [files.made f hf]
      decide
    · rw [files.indexed f hf]
      decide

/-- A conversion of any markup, or of none, ends with a result, and has gone through its stages up
to the first one after the styles that failed, if one did. -/
theorem convert_isStaged (settings : Settings) (o : ConversionOptions) (markup : Option String) :
    ∃ c, (o.convert settings markup).result = .ok c ∧ IsStaged settings o markup c := by
  obtain ⟨c, ends, run⟩ := exists_runs settings o markup
  refine ⟨c, ends, { run.isRecorded with
    css := ?_, parse := ?_, split := ?_, generate := ?_
    unstyled := fun _ => unstyled_of_runs run
    written := hasFiles_of_runs run }⟩
  · cases run <;> rfl
  · cases run <;> rfl
  · intro page read
    -- The results that were given pick out the way the conversion ended.
    cases run with
    | unread failed =>
      rw [read] at failed
      cases failed
    | unsplit same | unwritten same | written same =>
      rw [read] at same
      cases same
      rfl
  · intro page split read given
    cases run with
    | unread failed =>
      rw [read] at failed
      cases failed
    | unsplit same failed =>
      rw [read] at same
      cases same
      rw [given] at failed
      cases failed
    | unwritten same kept | written same kept =>
      rw [read] at same
      cases same
      rw [given] at kept
      cases kept
      exact ⟨rfl, rfl⟩

end ConversionOptions
end Componentry
