import Componentry.Proofs.Section.Candidate

/-!
# Rejected selectors

A text that is rejected as a selector is rejected for every element alike, and no other text is. So
the analysis of a page goes by the rules whose selectors are not rejected, and notes each of the
others no more than once.
-/

set_option autoImplicit false

namespace Componentry

/-- A text is rejected as a selector, for the way it is written. -/
def Selector.isRejected (s : String) : Bool := failsAs Fault.isInvalidSelector (Selector.parse s)

/-- Selectors that are rejected, each listed once, with what they are rejected for. -/
structure AreRejected (texts : List String) (rejected : List (String × Fault)) : Prop where
  once : (rejected.map Prod.fst).Nodup
  listed : ∀ r ∈ rejected, r.1 ∈ texts
  faults : ∀ r ∈ rejected, Selector.parse r.1 = .error r.2 ∧ r.2.isInvalidSelector = true

namespace Selector

variable {s : String} {n : Node} {e : Fault}

/-- A selector that is refused for its text is rejected. -/
theorem isRejected_of_parse (parsed : Selector.parse s = .error e)
    (invalid : e.isInvalidSelector = true) : isRejected s = true := by
  rw [isRejected, parsed]
  exact invalid

/-- A fault about the way a selector is written comes up where its text is read. -/
theorem parse_eq_of_isSelectedBy (asking : n.isSelectedBy s = .error e)
    (invalid : e.isInvalidSelector = true) : Selector.parse s = .error e := by
  unfold Node.isSelectedBy at asking
  cases parsed : Selector.parse s with
  | error e' =>
    rw [parsed] at asking
    cases asking
    rfl
  | ok selector =>
    rw [parsed] at asking
    exact absurd (Fault.isInvalidSelector_iff.1 invalid) (n.findsNoMistake_meets selector e asking)

/-- A rejected selector is rejected by every node. -/
theorem isSelectedBy_of_isRejected (h : isRejected s = true) :
    ∃ text mistake, Selector.parse s = .error (.invalidSelector text mistake) ∧
      ∀ n : Node, n.isSelectedBy s = .error (.invalidSelector text mistake) := by
  obtain ⟨e, parsed, invalid⟩ := exists_of_failsAs h
  obtain ⟨text, mistake, rfl⟩ := Fault.isInvalidSelector_iff.1 invalid
  refine ⟨text, mistake, parsed, fun n => ?_⟩
  rw [Node.isSelectedBy, parsed]
  rfl

/-- Asking for a selector that is not rejected fails for no mistake in it. -/
theorem ne_of_not_isRejected (h : isRejected s = false) (n : Node) (text mistake : String) :
    n.isSelectedBy s ≠ .error (.invalidSelector text mistake) := by
  intro asking
  have parsed := parse_eq_of_isSelectedBy asking rfl
  rw [isRejected_of_parse parsed rfl] at h
  cases h

end Selector

namespace AreRejected

variable {texts : List String} {rejected : List (String × Fault)} {s : String} {e : Fault}

/-- No selector is rejected among none. -/
theorem nil (texts : List String) : AreRejected texts [] where
  once := List.nodup_nil
  listed := by simp
  faults := by simp

/-- One selector of the list that cannot be read is rejected. -/
theorem singleton (listed : s ∈ texts) (parsed : Selector.parse s = .error e)
    (invalid : e.isInvalidSelector = true) : AreRejected texts [(s, e)] where
  once := List.nodup_singleton s
  listed := by
    intro r hr
    rw [List.mem_singleton.1 hr]
    exact listed
  faults := by
    intro r hr
    rw [List.mem_singleton.1 hr]
    exact ⟨parsed, invalid⟩

/-- Rejected selectors in a row are rejected, each once, where the later ones are new. -/
theorem append {more : List (String × Fault)} (h : AreRejected texts rejected)
    (h' : AreRejected texts more) (apart : ∀ r ∈ more, r.1 ∉ rejected.map Prod.fst) :
    AreRejected texts (rejected ++ more) where
  once := by
    rw [List.map_append, List.nodup_append]
    refine ⟨h.once, h'.once, ?_⟩
    intro a ha b hb same
    obtain ⟨r, hr, rfl⟩ := List.mem_map.1 hb
    exact apart r hr (same ▸ ha)
  listed := by
    intro r hr
    rcases List.mem_append.1 hr with first | second
    · exact h.listed r first
    · exact h'.listed r second
  faults := by
    intro r hr
    rcases List.mem_append.1 hr with first | second
    · exact h.faults r first
    · exact h'.faults r second

/-- What is noted as rejected is rejected. -/
theorem isRejected_of_mem (h : AreRejected texts rejected) (hs : s ∈ rejected.map Prod.fst) :
    Selector.isRejected s = true := by
  obtain ⟨r, hr, rfl⟩ := List.mem_map.1 hs
  obtain ⟨parsed, invalid⟩ := h.faults r hr
  exact Selector.isRejected_of_parse parsed invalid

end AreRejected

/-! ## Rules for sections -/

/-- The rules whose selectors are not rejected. -/
def SectionRule.readable (rules : List SectionRule) : List SectionRule :=
  rules.filter fun r => !Selector.isRejected r.selector

namespace PageSection
open SectionRule

variable {texts : List String} {noted : Unreadable} {rules : List SectionRule} {n : Node}

/-- A rule with a rejected selector is passed over; its selector is noted, if it is not yet. -/
theorem ruleFor_of_isRejected (n : Node) {r : SectionRule} (rules : List SectionRule)
    (h : AreRejected texts noted) (listed : r.selector ∈ texts)
    (rejected : Selector.isRejected r.selector = true) :
    ∃ noted', AreRejected texts noted' ∧ ruleFor n noted (r :: rules) = ruleFor n noted' rules := by
  obtain ⟨text, mistake, parsed, asking⟩ := Selector.isSelectedBy_of_isRejected rejected
  rw [ruleFor, asking]
  split
  · exact ⟨noted, h, rfl⟩
  next unknown =>
    refine ⟨_, h.append (.singleton listed parsed rfl) ?_, rfl⟩
    intro r' hr' known
    rw [List.mem_singleton.1 hr'] at known
    obtain ⟨u, hu, same⟩ := List.mem_map.1 known
    exact unknown (List.lookup_isSome_iff.2 ⟨u, hu, beq_iff_eq.2 same.symm⟩)

/-- What is found for an element is what the rules find whose selectors are not rejected; these note
nothing. -/
theorem ruleFor_readable (h : AreRejected texts noted) (listed : ∀ r ∈ rules, r.selector ∈ texts) :
    AreRejected texts (ruleFor n noted rules).1 ∧
      ruleFor n [] (readable rules) = ([], (ruleFor n noted rules).2) := by
  induction rules generalizing noted with
  | nil => exact ⟨h, rfl⟩
  | cons r rules ih =>
    obtain ⟨first, others⟩ := List.forall_mem_cons.1 listed
    -- A rejected rule is passed over on both sides; any other is asked on both.
    cases rejected : Selector.isRejected r.selector with
    | true =>
      obtain ⟨noted', h', same⟩ := ruleFor_of_isRejected n rules h first rejected
      rw [same, readable, List.filter_cons, rejected]
      exact ih h' others
    | false =>
      have unknown : (noted.lookup r.selector).isSome = false := by
        rw [Bool.eq_false_iff]
        intro known
        obtain ⟨u, hu, same⟩ := List.lookup_isSome_iff.1 known
        have invalid := h.isRejected_of_mem (List.mem_map_of_mem hu)
        rw [← beq_iff_eq.1 same, rejected] at invalid
        cases invalid
      have kept : readable (r :: rules) = r :: readable rules := by
        rw [readable, List.filter_cons, rejected]
        rfl
      have here := Selector.ne_of_not_isRejected rejected n
      rw [kept, ruleFor, ruleFor, unknown]
      cases asking : n.isSelectedBy r.selector with
      | ok answer =>
        cases answer with
        | true => exact ⟨h, rfl⟩
        | false => exact ih h others
      | error fault =>
        cases fault with
        | invalidSelector text mistake => exact absurd asking (here text mistake)
        | _ => exact ⟨h, rfl⟩

/-- The candidates are those of the rules whose selectors are not rejected. -/
theorem candidates_readable (l : List Node) (h : AreRejected texts noted)
    (listed : ∀ r ∈ rules, r.selector ∈ texts) :
    AreRejected texts (candidates rules noted l).1 ∧
      candidates (readable rules) [] l = ([], (candidates rules noted l).2) := by
  induction l generalizing noted with
  | nil => exact ⟨h, rfl⟩
  | cons n l ih =>
    obtain ⟨h', same⟩ := ruleFor_readable (n := n) h listed
    rw [candidates, candidates, same]
    cases found : ruleFor n noted rules with
    | mk noted' answer =>
      rw [found] at h'
      cases answer with
      | error fault => exact ⟨h', rfl⟩
      | ok rule =>
        obtain ⟨h'', rest⟩ := ih h'
        dsimp only
        rw [rest]
        exact ⟨h'', rfl⟩

/-- Rules with rejected selectors add nothing to the analysis of a page but their reports, one for
each selector. -/
theorem analyze_readable (root : Node) (rules : List SectionRule) :
    (analyze root (readable rules)).result = (analyze root rules).result ∧
      (analyze root (readable rules)).records = [] ∧
      ∃ rejected, AreRejected (rules.map SectionRule.selector) rejected ∧
        (analyze root rules).records = rejected.map fun r => unreadableReport r.2 := by
  have listed : ∀ r ∈ rules, r.selector ∈ rules.map SectionRule.selector :=
    fun r hr => List.mem_map_of_mem hr
  obtain ⟨rejected, same⟩ := candidates_readable root.elements (.nil _) listed
  rw [analyze, analyze, same]
  exact ⟨rfl, rfl, _, rejected, rfl⟩

end PageSection
end Componentry
