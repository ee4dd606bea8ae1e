import Componentry.Conversion
import Componentry.Proofs.Outcome
import Componentry.Proofs.Stylesheet.Classing

/-!
# Warnings of stages

A failed stage is told by a warning that starts with its title. The warnings that a stage gives
itself, about declarations, style sheets, selectors and handlers, start otherwise, so no warning is
taken for that of a failure.
-/

set_option autoImplicit false

namespace Componentry
open Componentry.Text Componentry.Stylesheet

namespace Stage

/-- The stages in their order. -/
def all : List Stage := [.css, .parse, .split, .generate]

/-- Every stage is among all of them. -/
theorem mem_all (stage : Stage) : stage ∈ all := by
  cases stage <;> decide

/-- How the warning of a failed stage starts. -/
def failureStart (stage : Stage) : String := stage.title ++ " error: "

/-- The letter that a title starts with. -/
def initial : Stage → Char
  | .css => 'C'
  | .parse => 'P'
  | .split => 'S'
  | .generate => 'G'

/-- The report of a failed stage starts with the initial of the stage. -/
theorem head?_failureStart (stage : Stage) :
    stage.failureStart.toList.head? = some stage.initial := by
  cases stage <;> rfl

/-- No two stages share an initial. -/
theorem initial_injective {a b : Stage} (h : a.initial = b.initial) : a = b := by
  cases a <;> cases b <;> first | rfl | cases h

end Stage

/-- A warning that is not that of a failed stage. -/
def IsOwnWarning (w : String) : Prop := ∀ stage : Stage, startsWith w stage.failureStart = false

/-- A text starts with the first character of its start. -/
theorem head?_of_startsWith {s start : String} {c : Char} (h : startsWith s start = true)
    (first : start.toList.head? = some c) : s.toList.head? = some c := by
  obtain ⟨rest, whole⟩ := List.isPrefixOf_iff_prefix.1 h
  rw [← whole, List.head?_append, first]
  rfl

/-- A warning that starts with another letter than the titles. -/
theorem isOwnWarning_append {start : String} {c : Char} (first : start.toList.head? = some c)
    (other : c ∉ Stage.all.map Stage.initial) (rest : String) : IsOwnWarning (start ++ rest) := by
  intro stage
  rw [Bool.eq_false_iff]
  intro starts
  have letter := head?_of_startsWith starts stage.head?_failureStart
  rw [String.toList_append, List.head?_append, first] at letter
  exact other (List.mem_map.2 ⟨stage, stage.mem_all, (Option.some.inj letter).symm⟩)

/-- The warning of a failed stage is that of no other. -/
theorem startsWith_failureWarning (stage other : Stage) (fault : Fault) :
    startsWith (Conversion.failureWarning stage fault) other.failureStart = (stage == other) := by
  rw [Bool.eq_iff_iff, beq_iff_eq]
  constructor
  · intro starts
    have letter := head?_of_startsWith starts other.head?_failureStart
    have own : (Conversion.failureWarning stage fault).toList.head? = some stage.initial := by
      rw [Conversion.failureWarning, ← Stage.failureStart, String.toList_append, List.head?_append,
        stage.head?_failureStart]
      rfl
    rw [own] at letter
    exact Stage.initial_injective (Option.some.inj letter)
  · rintro rfl
    refine List.isPrefixOf_iff_prefix.2 ?_
    rw [Conversion.failureWarning, ← Stage.failureStart, String.toList_append]
    exact List.prefix_append _ _

/-! ## Styles -/

namespace StyleStrategy

/-- Giving a rule reports nothing. -/
theorem unsupported_giveRule (s : StyleStrategy) (o : StyleOptions) (c : Classing)
    (style : ElementStyle) : (s.giveRule o c style).unsupported = c.unsupported := by
  rcases giveRule_cases s o c style with ⟨name, -, -, eq⟩ | ⟨-, eq⟩ <;> rw [eq]

/-- Rules for styles report nothing. -/
theorem unsupported_rulesFor (s : StyleStrategy) (o : StyleOptions) (styles : List ElementStyle) :
    (s.rulesFor o styles).unsupported = [] := by
  have kept (c : Classing) : (styles.foldl (s.giveRule o) c).unsupported = c.unsupported := by
    induction styles generalizing c with
    | nil => rfl
    | cons style rest ih => rw [List.foldl_cons, ih, unsupported_giveRule]
  exact kept {}

/-- Giving utilities to an element reports declarations only. -/
theorem isOwnWarning_giveUtilities {c c' : Classing} {style : ElementStyle}
    (h : giveUtilities c style = .ok c') (own : ∀ w ∈ c.unsupported, IsOwnWarning w) :
    ∀ w ∈ c'.unsupported, IsOwnWarning w := by
  rw [giveUtilities] at h
  cases given : style.declared.entries.mapM withUtility with
  | error fault =>
    rw [given] at h
    cases h
  | ok found =>
    rw [given] at h
    cases h
    intro w hw
    rcases List.mem_append.1 hw with old | new
    · exact own w old
    · obtain ⟨⟨⟨property, value⟩, class?⟩, -, said⟩ := List.mem_filterMap.1 new
      dsimp only at said
      split at said
      · cases said
        rw [String.append_assoc, String.append_assoc]
        exact isOwnWarning_append (c := 'U') rfl (by decide) _
      · cases said

/-- Giving utilities to all elements reports declarations only. -/
theorem isOwnWarning_giveAllUtilities : ∀ {c : Classing} {styles : List ElementStyle},
    (∀ w ∈ c.unsupported, IsOwnWarning w) →
    ∀ w ∈ (giveAllUtilities c styles).1.unsupported, IsOwnWarning w
  | c, [], own => own
  | c, style :: rest, own => by
    rw [giveAllUtilities]
    split
    next c' given => exact isOwnWarning_giveAllUtilities (isOwnWarning_giveUtilities given own)
    next => exact own

/-- The warnings of a conversion are about declarations without a class. -/
theorem isOwnWarning_of_convert {s : StyleStrategy} {o : StyleOptions} {markup : String}
    {styled : StyledMarkup} (h : (s.convert o markup).result = .ok styled) :
    ∀ w ∈ styled.warnings, IsOwnWarning w := by
  have none_ : ∀ w ∈ ([] : List String), IsOwnWarning w := fun w hw => absurd hw List.not_mem_nil
  have own (styles : List ElementStyle) :
      ∀ w ∈ (s.classing o styles).1.unsupported, IsOwnWarning w := by
    cases s
    · rw [classing, unsupported_rulesFor]
      exact none_
    · exact isOwnWarning_giveAllUtilities none_
    · rw [classing, unsupported_rulesFor]
      exact none_
  rw [convert] at h
  split at h
  next tree parsed =>
    rw [convertTree] at h
    have classes := own (ElementStyle.ofTree tree)
    split at h
    · cases h
    next c given =>
      cases h
      rw [given] at classes
      exact classes
  next => cases h

end StyleStrategy

/-! ## Selectors -/

namespace Split
variable {α : Type} [Score α]

/-- The report of a selector that cannot be read is one of the conversion's own. -/
theorem isOwnWarning_unreadableReport (selector : String) (fault : Fault) :
    IsOwnWarning (unreadableReport selector fault) := by
  unfold unreadableReport
  rw [String.append_assoc, String.append_assoc]
  exact isOwnWarning_append (c := 'I') rfl (by decide) _

/-- Complaints about selectors are the conversion's own. -/
theorem isOwnWarning_of_mem_complaints : ∀ (l : List (CustomSelector × Fault))
    (found : List String), ∀ w ∈ (complaints found l).1, IsOwnWarning w
  | [], _ => fun w hw => absurd hw List.not_mem_nil
  | (s, fault) :: rest, found => by
    unfold complaints
    split
    next selector mistake =>
      split
      · exact isOwnWarning_of_mem_complaints rest found
      · intro w hw
        rcases List.mem_cons.1 hw with rfl | hw
        · exact isOwnWarning_unreadableReport _ _
        · exact isOwnWarning_of_mem_complaints rest (s.text :: found) w hw
    next => exact fun w hw => absurd hw List.not_mem_nil

/-- The warnings of a split are about selectors. -/
theorem isOwnWarning_of_ofRoot {o : SplitOptions α} {root : Node} {split : Split α}
    (h : (ofRoot o root).result = .ok split) : ∀ w ∈ split.warnings, IsOwnWarning w := by
  rw [ofRoot] at h
  split at h
  · cases h
    exact fun w hw => absurd hw List.not_mem_nil
  · dsimp only at h
    obtain ⟨_, -, h⟩ := Outcome.result_bind_eq_ok.1 h
    split at h
    · obtain ⟨_, refused, -⟩ := Outcome.result_bind_eq_ok.1 h
      cases refused
    · obtain ⟨_, -, h⟩ := Outcome.result_bind_eq_ok.1 h
      cases h
      exact isOwnWarning_of_mem_complaints _ _

end Split

/-! ## Handlers -/

/-- The warnings of a written component are about handlers. -/
theorem isOwnWarning_of_writeComponent {o : ConversionOptions} {imports : List String}
    {s : ComponentSource × String} {w : GeneratedSource}
    (h : (o.writeComponent imports s).result = .ok w) : ∀ t ∈ w.warnings, IsOwnWarning t := by
  obtain ⟨page, _, written⟩ := Outcome.result_bind_eq_ok.1 h
  change ((Generator.start (o.source imports s.2) Dict.empty).generate page).1 = .ok w at written
  rw [Generator.generate] at written
  split at written
  · cases written
  · cases written
    intro t ht
    obtain ⟨p, -, said⟩ := List.mem_filterMap.1 ht
    rw [Jsx.warning?] at said
    split at said
    · split at said
      · cases said
      · cases said
        rw [String.append_assoc]
        exact isOwnWarning_append (c := 'I') rfl (by decide) _
    · cases said

/-! ## Stages -/

namespace ConversionOptions

/-- Warnings about a sheet are the conversion's own. -/
theorem isOwnWarning_sheetWarnings (sheet : String) :
    ∀ w ∈ sheetWarnings sheet, IsOwnWarning w := by
  rw [sheetWarnings]
  split
  · intro w hw stage
    rw [List.mem_singleton.1 hw]
    cases stage <;> decide
  · exact fun w hw => absurd hw List.not_mem_nil

/-- The stage of the styles gives its own warnings only. -/
theorem isOwnWarning_of_convertStyles {o : ConversionOptions} {markup : Option String}
    {r : StageResult StyledPage} (h : (o.convertStyles markup).result = .ok r) :
    ∀ w ∈ r.warnings, IsOwnWarning w := by
  unfold convertStyles at h
  split at h
  · cases h
    exact fun w hw => absurd hw List.not_mem_nil
  · dsimp only at h
    split at h
    · cases h
      exact fun w hw => absurd hw List.not_mem_nil
    · obtain ⟨strategy, _, h⟩ := Outcome.result_bind_eq_ok.1 h
      obtain ⟨styled, run, h⟩ := Outcome.result_bind_eq_ok.1 h
      have own := StyleStrategy.isOwnWarning_of_convert run
      split at h
      · cases h
        exact own
      · cases h
        intro w hw
        exact (List.mem_append.1 hw).elim (own w) (isOwnWarning_sheetWarnings _ w)

/-- The stage of reading gives its own warnings only. -/
theorem isOwnWarning_of_readPage {settings : Settings} {markup : Option String}
    {r : StageResult Document} (h : (readPage settings markup).result = .ok r) :
    ∀ w ∈ r.warnings, IsOwnWarning w := by
  obtain ⟨_, _, h⟩ := Outcome.result_bind_eq_ok.1 h
  obtain ⟨_, _, h⟩ := Outcome.result_bind_eq_ok.1 h
  cases h
  exact fun w hw => absurd hw List.not_mem_nil

/-- The stage of splitting gives its own warnings only. -/
theorem isOwnWarning_of_splitPage {settings : Settings} {o : ConversionOptions} {d : Document}
    {r : StageResult (Option (Split Float))} (h : (splitPage settings o d).result = .ok r) :
    ∀ w ∈ r.warnings, IsOwnWarning w := by
  rw [splitPage] at h
  split at h
  · cases h
    exact fun w hw => absurd hw List.not_mem_nil
  · obtain ⟨_, _, h⟩ := Outcome.result_bind_eq_ok.1 h
    obtain ⟨split, given, h⟩ := Outcome.result_bind_eq_ok.1 h
    cases h
    exact Split.isOwnWarning_of_ofRoot given

/-- The stage of writing gives its own warnings only. -/
theorem isOwnWarning_of_generate {o : ConversionOptions} {sheet : Option GeneratedFile}
    {sources : List ComponentSource} {r : StageResult (List GeneratedFile)}
    (h : (o.generate sheet sources).result = .ok r) : ∀ w ∈ r.warnings, IsOwnWarning w := by
  obtain ⟨written, all, h⟩ := Outcome.result_bind_eq_ok.1 h
  cases h
  intro t ht
  obtain ⟨w, hw, ht⟩ := List.mem_flatMap.1 ht
  obtain ⟨i, hi, rfl⟩ := List.mem_iff_getElem.1 hw
  have each := Outcome.forall₂_of_mapM all
  exact isOwnWarning_of_writeComponent (each.get (by rwa [each.length_eq]) hi) t ht

/-- The warnings of the components that are written before one fails. -/
theorem isOwnWarning_of_mem_warningsUpTo {o : ConversionOptions} {imports : List String} :
    ∀ {l : List (ComponentSource × String)}, ∀ w ∈ o.warningsUpTo imports l, IsOwnWarning w
  | [] => fun w hw => absurd hw List.not_mem_nil
  | s :: rest => by
    intro w hw
    rw [warningsUpTo] at hw
    split at hw
    next written made =>
      exact (List.mem_append.1 hw).elim (isOwnWarning_of_writeComponent made w)
        (isOwnWarning_of_mem_warningsUpTo w)
    next => exact absurd hw List.not_mem_nil

end ConversionOptions
end Componentry
