import Componentry.Section
import Componentry.Document.Selection

/-!
# Finding sections

Every element is classified: by the first rule whose selector means it, else by class names that
make a card or a hero, else by its own name. Of the elements that have a kind, the outermost ones
are sections. A rule whose selector cannot be read is passed over and reported once.
-/

set_option autoImplicit false

namespace Componentry.PageSection
open Componentry.Text

/-- The kind of an element by its class names and its name. -/
def classify (n : Node) : SectionKind :=
  let classes := n.attributes.classes
  if classes.any fun c => SectionKind.card.classes.contains c then .card
  else if classes.any fun c => SectionKind.hero.classes.contains c then .hero
  else SectionKind.ofTag n.tagOrNone

/-- The name of an element stands for a kind by itself. -/
def namesKind (n : Node) (kind : SectionKind) : Bool :=
  n.tagOrNone != "" && kind != .none && SectionKind.ofTag n.tagOrNone == kind

/-- The score that class names add: much for one that suggests the kind, which ends the count, and
a little for each one that shares a part with such a name. -/
def classScore (kind : SectionKind) : Float → List String → Float
  | score, [] => score
  | score, c :: rest =>
    if kind.classes.contains c then score + 0.4
    else if kind.classes.any fun p => contains p c || contains c p then
      classScore kind (score + 0.2) rest
    else classScore kind score rest

/-- How well an element fits a kind, by its name and its class names. -/
def confidenceOf (n : Node) (kind : SectionKind) : Float :=
  let start : Float := if n.tagOrNone != "" && kind.tags.contains n.tagOrNone then 0.9 else 0.0
  let score := classScore kind start n.attributes.classes
  if score ≤ 1.0 then score else 1.0

/-- The name of the component of a section. -/
def nameOf (n : Node) (kind : SectionKind) (rule : Option SectionRule) : String :=
  match rule.bind fun r => r.componentName.filter fun s => s != "" with
  | some name => name
  | none =>
    match n.attributes.textOf? "id" with
    | some id => kind.componentName ++ capitalWords id
    | none =>
      match n.attributes.classes with
      | c :: _ => kind.componentName ++ capitalWords c
      | [] => kind.componentName

/-- Why an element was taken for a section. -/
def reasoningOf (n : Node) (kind : SectionKind) : String :=
  let byTag := if n.tag == some kind.name then
    ["Tag name matches semantic type \"" ++ kind.name ++ "\""] else []
  let byClass := match n.attributes.classes.find? fun c => contains c kind.name with
    | some c => ["Class name \"" ++ c ++ "\" suggests " ++ kind.name ++ " component"]
    | none => []
  let byId := match n.attributes.textOf? "id" with
    | some id => ["Has ID \"" ++ id ++ "\""]
    | none => []
  let reasons := byTag ++ byClass ++ byId
  if reasons.isEmpty then "Pattern matching detected " ++ kind.name ++ " component"
  else join "; " reasons

/-- The section of an element. -/
def ofNode (n : Node) (kind : SectionKind) (rule : Option SectionRule) : PageSection :=
  let plain := if namesKind n kind then 1.0 else confidenceOf n kind
  let confidence := match rule with
    | none => plain
    | some r =>
      let raised := if plain < r.leastConfidence then r.leastConfidence else plain
      if raised ≤ 1.0 then raised else 1.0
  { kind, node := n, componentName := nameOf n kind rule, confidence,
    reasoning := reasoningOf n kind }

/-- Selectors that cannot be read, with their faults. -/
abbrev Unreadable : Type := List (String × Fault)

/-- The first rule that means an element, and the selectors found unreadable so far. Any other fault
ends the analysis. -/
def ruleFor (n : Node) : Unreadable → List SectionRule →
    Unreadable × Except Fault (Option SectionRule)
  | unreadable, [] => (unreadable, .ok none)
  | unreadable, r :: rules =>
    if (unreadable.lookup r.selector).isSome then ruleFor n unreadable rules
    else match n.isSelectedBy r.selector with
      | .ok true => (unreadable, .ok (some r))
      | .ok false => ruleFor n unreadable rules
      | .error (.invalidSelector selector mistake) =>
        ruleFor n (unreadable ++ [(r.selector, .invalidSelector selector mistake)]) rules
      | .error fault => (unreadable, .error fault)

/-- The candidates among elements in order, and the selectors found unreadable. -/
def candidates (rules : List SectionRule) : Unreadable → List Node →
    Unreadable × Except Fault (List PageSection)
  | unreadable, [] => (unreadable, .ok [])
  | unreadable, n :: rest =>
    match ruleFor n unreadable rules with
    | (unreadable, .error e) => (unreadable, .error e)
    | (unreadable, .ok rule) =>
      let kind := match rule with
        | some r => r.kind
        | none => classify n
      let (unreadable, more) := candidates rules unreadable rest
      (unreadable, more.map fun sections =>
        if kind == .none then sections else ofNode n kind rule :: sections)

/-- Keeps each section whose node no earlier kept one covers. -/
def sweep : List String → List PageSection → List PageSection
  | _, [] => []
  | covered, s :: rest =>
    if covered.contains s.node.id then sweep covered rest
    else s :: sweep (covered ++ s.node.ids) rest

/-- The outermost sections in document order: the shallow ones are taken first, of equal depth the
surer ones. -/
def outermost (sections : List PageSection) : List PageSection :=
  let bySureness := sections.mergeSort fun s t => t.confidence ≤ s.confidence
  let byDepth := bySureness.mergeSort fun s t => s.node.depth ≤ t.node.depth
  (sweep [] byDepth).mergeSort fun s t => idNumber s.node.id ≤ idNumber t.node.id

/-- The report of an unreadable selector of a rule. -/
def unreadableReport (fault : Fault) : Record :=
  ⟨.warning, "Ignoring semantic rule: " ++ fault.message⟩

/-- The sections of a page. -/
def analyze (root : Node) (rules : List SectionRule) : Outcome (List PageSection) :=
  let (unreadable, found) := candidates rules [] root.elements
  ⟨unreadable.map fun u => unreadableReport u.2, found.map outermost⟩

end Componentry.PageSection
