import Componentry.Proofs.Document.Tidy
import Componentry.Proofs.Selector.Mistakes
import Componentry.Section.Analysis

/-!
# Candidates for sections

An element is a candidate by the first rule that means it, or else by its class names and its own
name. The analysis remembers which selectors cannot be read and does not ask for them again. Only
such selectors are passed over, so it finds for every element the first rule that means it.
-/

set_option autoImplicit false

namespace Componentry.PageSection

/-- A rule means an element. -/
def isMet (n : Node) (r : SectionRule) : Bool := (n.isSelectedBy r.selector).toOption.getD false

/-- The first rule that means an element. -/
def firstRule? (rules : List SectionRule) (n : Node) : Option SectionRule := rules.find? (isMet n)

/-- The kind of an element by the rules, or else by what it says of itself. -/
def kindOf (rules : List SectionRule) (n : Node) : SectionKind :=
  ((firstRule? rules n).map SectionRule.kind).getD (classify n)

/-- An element is a candidate if it is of some kind. -/
def isCandidate (rules : List SectionRule) (n : Node) : Bool := kindOf rules n != .none

/-- The section that an element would make. -/
def sectionOf (rules : List SectionRule) (n : Node) : PageSection :=
  ofNode n (kindOf rules n) (firstRule? rules n)

/-- The selectors kept as unreadable cannot be read. -/
def AreUnreadable (unreadable : Unreadable) : Prop :=
  ∀ u ∈ unreadable, ∃ e, Selector.parse u.1 = .error e

/-- Asking an element for selectors finds no mistake in one that was read. -/
def IsAsked (n : Node) : Prop := ∀ s : Selector, FindsNoMistake (n.meets s)

variable {n : Node} {rules : List SectionRule} {unreadable unreadable' : Unreadable}

/-- No selector that was read is unreadable on an element. -/
theorem isAsked (n : Node) : IsAsked n := n.findsNoMistake_meets

/-- A rule whose selector cannot be read means no element. -/
theorem isMet_of_error {r : SectionRule} {e : Fault} (h : Selector.parse r.selector = .error e) :
    isMet n r = false := by
  rw [isMet, Node.isSelectedBy, h]
  rfl

/-- A mistake that comes up for an element is one in the text of the selector. -/
theorem exists_parse_error (asked : IsAsked n) {r : SectionRule} {text mistake : String}
    (h : n.isSelectedBy r.selector = .error (.invalidSelector text mistake)) :
    ∃ e, Selector.parse r.selector = .error e := by
  unfold Node.isSelectedBy at h
  cases parsed : Selector.parse r.selector with
  | error e => exact ⟨e, rfl⟩
  | ok s =>
    rw [parsed] at h
    exact absurd ⟨text, mistake, rfl⟩ (asked s _ h)

/-- The rule that is found for an element is the first one that means it. -/
theorem ruleFor_eq (asked : IsAsked n) {rule : Option SectionRule}
    (known : AreUnreadable unreadable)
    (h : ruleFor n unreadable rules = (unreadable', .ok rule)) :
    rule = firstRule? rules n ∧ AreUnreadable unreadable' := by
  induction rules generalizing unreadable with
  | nil =>
    cases h
    exact ⟨rfl, known⟩
  | cons r rules ih =>
    -- A rule that is passed over, as unreadable or as not meant, changes no answer.
    have pass (not_met : isMet n r = false) : firstRule? (r :: rules) n = firstRule? rules n := by
      rw [firstRule?, List.find?_cons, not_met]
      rfl
    rw [ruleFor] at h
    split at h
    next kept =>
      obtain ⟨u, hu, same⟩ := List.lookup_isSome_iff.1 kept
      obtain ⟨e, parsed⟩ := known u hu
      rw [← beq_iff_eq.1 same] at parsed
      rw [pass (isMet_of_error parsed)]
      exact ih known h
    · split at h
      next answer =>
        cases h
        have met : isMet n r = true := by
          rw [isMet, answer]
          rfl
        refine ⟨?_, known⟩
        rw [firstRule?, List.find?_cons, met]
      next answer =>
        have not_met : isMet n r = false := by
          rw [isMet, answer]
          rfl
        rw [pass not_met]
        exact ih known h
      next text mistake answer =>
        obtain ⟨e, parsed⟩ := exists_parse_error asked answer
        rw [pass (isMet_of_error parsed)]
        refine ih ?_ h
        intro u hu
        rcases List.mem_append.1 hu with hu | hu
        · exact known u hu
        · rw [List.mem_singleton.1 hu]
          exact ⟨e, parsed⟩
      next => cases h

/-- An element with its rule found is taken if it is of some kind. -/
theorem candidates_cons {l : List Node} {now : Unreadable}
    (h : ruleFor n unreadable rules = (now, .ok (firstRule? rules n))) :
    candidates rules unreadable (n :: l) = ((candidates rules now l).1,
      (candidates rules now l).2.map fun sections =>
        if isCandidate rules n then sectionOf rules n :: sections else sections) := by
  have swapped (sections : List PageSection) :
      (if isCandidate rules n then sectionOf rules n :: sections else sections) =
        if kindOf rules n == .none then sections else sectionOf rules n :: sections := by
    by_cases none : (kindOf rules n == .none) = true
    · rw [isCandidate, bne, none, if_pos rfl, Bool.not_true, if_neg Bool.false_ne_true]
    · rw [isCandidate, bne, if_neg none, if_pos (by simpa using none)]
  simp only [swapped]
  cases rule : firstRule? rules n with
  | none =>
    rw [rule] at h
    simp only [candidates, h, sectionOf, kindOf, rule]
    rfl
  | some r =>
    rw [rule] at h
    simp only [candidates, h, sectionOf, kindOf, rule]
    rfl

/-- The candidates that are found are the elements that are of some kind, in their order. -/
theorem candidates_eq {l : List Node} {found : List PageSection} (asked : ∀ n ∈ l, IsAsked n)
    (known : AreUnreadable unreadable)
    (h : candidates rules unreadable l = (unreadable', .ok found)) :
    found = (l.filter (isCandidate rules)).map (sectionOf rules) := by
  induction l generalizing unreadable found with
  | nil =>
    cases h
    rfl
  | cons n l ih =>
    obtain ⟨first, others⟩ := List.forall_mem_cons.1 asked
    cases rule : ruleFor n unreadable rules with
    | mk now answer =>
      cases answer with
      | error e =>
        rw [candidates, rule] at h
        cases h
      | ok chosen =>
        obtain ⟨rfl, known'⟩ := ruleFor_eq first known rule
        rw [candidates_cons rule] at h
        cases rest : candidates rules now l with
        | mk later more =>
          rw [rest] at h
          cases more with
          | error e => cases h
          | ok more =>
            cases h
            rw [ih others known' rest, List.filter_cons]
            split
            · rfl
            · rfl

end Componentry.PageSection
