import Componentry.Outcome
import Componentry.Output
import Componentry.Splitting

/-!
# Stages of a conversion

A conversion goes through stages, each of which is completed with a result or fails. Either way it
is reported; a failure is also a warning, after those that the stage gave before. The conversion
keeps what the stages gave.
-/

set_option autoImplicit false

namespace Componentry

/-- The stages of a conversion in their order. -/
inductive Stage where
  | css
  | parse
  | split
  | generate
deriving Repr, DecidableEq

namespace Stage

/-- The word for a stage. -/
def name : Stage → String
  | .css => "css"
  | .parse => "parse"
  | .split => "split"
  | .generate => "generate"

/-- The word for a stage at the start of a report. -/
def title : Stage → String
  | .css => "Css"
  | .parse => "Parse"
  | .split => "Split"
  | .generate => "Generate"

end Stage

/-- How a stage went. -/
structure StageReport where
  stage : Stage
  completed : Bool
  message : String
deriving Repr, DecidableEq

/-- What a completed stage gives: its result, a message, and warnings. -/
structure StageResult (α : Type) where
  value : α
  message : String
  warnings : List String := []

/-- A conversion. -/
structure Conversion where
  succeeded : Bool := false
  error : Option String := none
  files : List GeneratedFile := []
  stages : List StageReport := []
  warnings : List String := []
  split : Option (Split Float) := none

namespace Conversion
variable {α : Type}

/-- The warning of a failed stage. -/
def failureWarning (stage : Stage) (fault : Fault) : String :=
  stage.title ++ " error: " ++ fault.message

/-- The record of a failed stage. -/
def failureRecord (stage : Stage) (fault : Fault) : Record :=
  ⟨.error, "Stage '" ++ stage.name ++ "' failed: " ++ fault.message⟩

/-- Runs a stage, and gives its result if it is completed. Of one that fails, the warnings that it
gave before stay. -/
def run (c : Conversion) (stage : Stage) (action : Outcome (StageResult α))
    (before : Unit → List String := fun _ => []) : Outcome (Option α × Conversion) :=
  match action.result with
  | .ok r =>
    ⟨action.records, .ok (some r.value,
      { c with
        stages := c.stages ++ [⟨stage, true, r.message⟩]
        warnings := c.warnings ++ r.warnings })⟩
  | .error fault =>
    ⟨action.records ++ [failureRecord stage fault], .ok (none,
      { c with
        stages := c.stages ++ [⟨stage, false, fault.message⟩]
        warnings := c.warnings ++ before () ++ [failureWarning stage fault] })⟩

/-- Ends a conversion whose last stage failed. -/
def failed (c : Conversion) : Conversion :=
  { c with
    succeeded := false
    files := []
    error := (c.stages.reverse.find? fun r => !r.completed).map StageReport.message }

/-- The number of files. -/
def fileCount (c : Conversion) : Nat := c.files.length

/-- The number of components written. -/
def componentCount (c : Conversion) : Nat :=
  (c.files.filter fun f => f.kind == .component).length

end Conversion
end Componentry
