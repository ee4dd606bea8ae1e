import Componentry.Proofs.Outcome
import Componentry.Proofs.Section.Candidate
import Componentry.Splitting.Splitter

/-!
# Reports on the way

Selectors that fail on an element are reported where they fail, each that cannot be read once, and
another failure ends the way through a page. What is said in the end is what is said of all the
troubles in their order, since a selector that cannot be read means no element.
-/

set_option autoImplicit false

namespace Componentry

variable {α β γ : Type}

/-! ## Troubles in a row -/

/-- Troubles: selectors with the faults that they end with. -/
abbrev Troubles : Type := List (CustomSelector × Fault)

namespace Split

/-- The selectors found unreadable after some troubles. -/
def noted : List String → Troubles → List String
  | found, [] => found
  | found, (s, fault) :: rest =>
    if fault.isInvalidSelector && !found.contains s.text then noted (s.text :: found) rest
    else noted found rest

/-- Troubles in a row are noted in a row. -/
theorem noted_append : ∀ (found : List String) (l m : Troubles),
    noted found (l ++ m) = noted (noted found l) m
  | _, [], _ => rfl
  | found, (s, fault) :: rest, m => by
    rw [List.cons_append, noted, noted]
    split
    · exact noted_append _ rest m
    · exact noted_append _ rest m

section
variable {found : List String} {s : CustomSelector} {fault : Fault}

/-- A rejected selector that is known is not complained of again. -/
theorem complaints_of_known (invalid : fault.isInvalidSelector = true)
    (known : found.contains s.text = true) (l : Troubles) :
    complaints found ((s, fault) :: l) = complaints found l := by
  obtain ⟨text, mistake, rfl⟩ := Fault.isInvalidSelector_iff.1 invalid
  rw [complaints, if_pos known]

/-- A rejected selector that is new is complained of, then known. -/
theorem complaints_of_new (invalid : fault.isInvalidSelector = true)
    (new : found.contains s.text = false) (l : Troubles) :
    complaints found ((s, fault) :: l) =
      (unreadableReport s.text fault :: (complaints (s.text :: found) l).1,
        (complaints (s.text :: found) l).2) := by
  obtain ⟨text, mistake, rfl⟩ := Fault.isInvalidSelector_iff.1 invalid
  rw [complaints, if_neg (by rw [new]; exact Bool.false_ne_true)]

/-- A selector that is known is not noted again. -/
theorem noted_of_known (known : found.contains s.text = true) (l : Troubles) :
    noted found ((s, fault) :: l) = noted found l := by
  rw [noted, known, Bool.not_true, Bool.and_false, if_neg Bool.false_ne_true]

/-- A rejected selector that is new is noted. -/
theorem noted_of_new (invalid : fault.isInvalidSelector = true)
    (new : found.contains s.text = false) (l : Troubles) :
    noted found ((s, fault) :: l) = noted (s.text :: found) l := by
  rw [noted, invalid, new, Bool.not_false, Bool.and_true, if_pos rfl]

/-- Any other trouble ends the complaints and is given back. -/
theorem complaints_of_other (other : fault.isInvalidSelector = false) (l : Troubles) :
    complaints found ((s, fault) :: l) = ([], some fault) := by
  unfold complaints
  split
  · cases other
  · rfl

end

/-- What refuses early refuses, and what does not goes on with what was found unreadable. -/
theorem complaints_append : ∀ (l m : Troubles) (found : List String), complaints found (l ++ m) =
    match complaints found l with
    | (reports, some fault) => (reports, some fault)
    | (reports, none) =>
      (reports ++ (complaints (noted found l) m).1, (complaints (noted found l) m).2)
  | [], m, found => rfl
  | (s, fault) :: rest, m, found => by
    rw [List.cons_append]
    cases invalid : fault.isInvalidSelector with
    | false => rw [complaints_of_other invalid, complaints_of_other invalid]
    | true =>
      cases known : found.contains s.text with
      | true =>
        rw [complaints_of_known invalid known, complaints_of_known invalid known,
          complaints_append rest m found, noted_of_known known]
      | false =>
        rw [complaints_of_new invalid known, complaints_of_new invalid known,
          complaints_append rest m (s.text :: found), noted_of_new invalid known]
        cases complaints (s.text :: found) rest with
        | mk reports refusal => cases refusal <;> rfl

end Split

/-! ## What an operation reports -/

/-- An operation on the way through a page reports troubles: one of them refuses, or it has a result
that is good. -/
inductive Reports (l : Troubles) (p : Extracting α) (good : β → Extracting α → Prop) :
    Outcome β × Extracting α → Prop
  | refused {reports : List String} {fault : Fault} {p' : Extracting α}
      (found : Split.complaints p.unreadable l = (reports, some fault)) :
      Reports l p good (⟨reports.map (Record.mk .warning), .error fault⟩, p')
  | passed {reports : List String} {b : β} {p' : Extracting α}
      (found : Split.complaints p.unreadable l = (reports, none))
      (unreadable : p'.unreadable = Split.noted p.unreadable l)
      (warnings : p'.warnings = p.warnings ++ reports) (holds : good b p') :
      Reports l p good (⟨reports.map (Record.mk .warning), .ok b⟩, p')

namespace Reports

variable {l m : Troubles} {p p' : Extracting α} {good : β → Extracting α → Prop}
  {good' : γ → Extracting α → Prop}

/-- What keeps to itself reports nothing. -/
theorem ok {b : β} (unreadable : p'.unreadable = p.unreadable) (warnings : p'.warnings = p.warnings)
    (holds : good b p') : Reports [] p good (.ok b, p') :=
  have warnings : p'.warnings = p.warnings ++ [] := by rw [warnings, List.append_nil]
  .passed rfl unreadable warnings holds

/-- What is reported of an operation holds for whatever follows from its outcome. -/
theorem imp {run : Outcome β × Extracting α} {better : β → Extracting α → Prop}
    (h : Reports l p good run) (each : ∀ b p', good b p' → better b p') :
    Reports l p better run := by
  cases h with
  | refused found => exact .refused found
  | passed found unreadable warnings holds =>
    exact .passed found unreadable warnings (each _ _ holds)

/-- Operations that follow one another report their troubles in a row. -/
theorem bind {x : Operation (Extracting α) β} {f : β → Operation (Extracting α) γ}
    (h : Reports l p good (x.run p))
    (next : ∀ b p', good b p' → Reports m p' good' ((f b).run p')) :
    Reports (l ++ m) p good' ((x >>= f).run p) := by
  have both := Split.complaints_append l m p.unreadable
  cases hx : x.run p with
  | mk o p₁ =>
  rw [hx] at h
  -- A first operation that is refused ends both; else the second starts from what was noted.
  cases h with
  | refused found =>
    rw [found] at both
    rw [Operation.run_bind_of_error hx]
    exact .refused both
  | @passed reports b _ found unreadable warnings holds =>
    rw [found] at both
    rw [Operation.run_bind_of_ok hx]
    have rest := next b p₁ holds
    cases hf : (f b).run p₁ with
    | mk o p₂ =>
    rw [hf] at rest
    cases rest with
    | @refused more fault _ found' =>
      rw [unreadable] at found'
      rw [found'] at both
      rw [← List.map_append]
      exact .refused both
    | @passed more c _ found' unreadable' warnings' holds' =>
      rw [unreadable] at found' unreadable'
      rw [found'] at both
      rw [← List.map_append]
      refine .passed both ?_ ?_ holds'
      · rw [unreadable', Split.noted_append]
      · rw [warnings', warnings, List.append_assoc]

end Reports

/-! ## Asking for selectors -/

/-- What a selector is in trouble for on an element. -/
def CustomSelector.trouble (n : Node) (s : CustomSelector) : Troubles :=
  match s.answer n with
  | .ok _ => []
  | .error fault => [(s, fault)]

/-- Only an element without a meaning of its own is asked the selectors. -/
theorem Decision.troubles_eq (selectors : List CustomSelector) (n : Node) :
    troubles selectors n = if Node.semanticTags.contains n.tagOrNone then []
      else (CustomSelector.asked n selectors).flatMap (CustomSelector.trouble n) := by
  rw [troubles]
  split
  · rfl
  · rw [List.filterMap_eq_flatMap_toList]
    refine List.flatMap_congr fun s _ => ?_
    rw [CustomSelector.trouble]
    cases s.answer n <;> rfl

namespace Extracting

/-- Only what was found unreadable, and what was said of it, has changed. -/
def OnlyNotes (p p' : Extracting α) : Prop :=
  p' = { p with warnings := p'.warnings, unreadable := p'.unreadable }

/-- A way that stays notes nothing. -/
theorem OnlyNotes.refl (p : Extracting α) : OnlyNotes p p := rfl

/-- Two ways in a row that only note selectors do only that. -/
theorem OnlyNotes.trans {p p' p'' : Extracting α} (h : OnlyNotes p p') (h' : OnlyNotes p' p'') :
    OnlyNotes p p'' := by
  rw [OnlyNotes] at *
  rw [h', h]

/-- What was found unreadable cannot be read. -/
def KnowsUnreadable (p : Extracting α) : Prop :=
  ∀ s ∈ p.unreadable, ∃ e, Selector.parse s = .error e ∧ e.isInvalidSelector = true

variable {p : Extracting α} {n : Node}

/-- An element fails for a selector that cannot be read as the selector does. -/
theorem isSelectedBy_of_unread {s : String} {e : Fault} (h : Selector.parse s = .error e) :
    n.isSelectedBy s = .error e := by
  rw [Node.isSelectedBy, h]
  rfl

/-- Where only selectors that can be read are asked, one that is rejected is one that cannot be. -/
theorem unread_of_rejected {s : String} {e : Fault} (asked : PageSection.IsAsked n)
    (h : n.isSelectedBy s = .error e) (invalid : e.isInvalidSelector = true) :
    Selector.parse s = .error e := by
  cases parsed : Selector.parse s with
  | error f =>
    cases (isSelectedBy_of_unread parsed).symm.trans h
    rfl
  | ok selector =>
    rw [Node.isSelectedBy, parsed] at h
    exact absurd (Fault.isInvalidSelector_iff.1 invalid) (asked selector _ h)

/-- A selector is asked for, unless it is known that it cannot be read; and then it means nothing.
-/
theorem reports_selects (asked : PageSection.IsAsked n) (knows : p.KnowsUnreadable) (s : String) :
    Reports ((CustomSelector.ofText s).trouble n) p
      (fun b p' => b = (CustomSelector.ofText s).means n ∧ OnlyNotes p p' ∧ p'.KnowsUnreadable)
      ((selects n s).run p) := by
  have answer : (CustomSelector.ofText s).answer n = n.isSelectedBy s := rfl
  rw [selects, Operation.run_bind_of_eq_ok Operation.run_kept, CustomSelector.trouble,
    CustomSelector.means, answer]
  -- Known as rejected, the selector is not asked; asked, it may answer, be rejected or fail
  -- otherwise.
  cases known : p.unreadable.contains s with
  | true =>
    obtain ⟨e, parsed, invalid⟩ := knows s (List.contains_iff_mem.1 known)
    rw [isSelectedBy_of_unread parsed]
    have found : Split.complaints p.unreadable [(.ofText s, e)] = ([], none) := by
      rw [Split.complaints_of_known invalid known]
      rfl
    refine .passed found ?_ (List.append_nil _).symm ⟨rfl, .refl p, knows⟩
    rw [Split.noted_of_known known]
    rfl
  | false =>
    cases asking : n.isSelectedBy s with
    | ok b =>
      dsimp only
      rw [if_neg Bool.false_ne_true]
      exact .ok rfl rfl ⟨rfl, .refl p, knows⟩
    | error e =>
      cases invalid : e.isInvalidSelector with
      | true =>
        have unread := unread_of_rejected asked asking invalid
        obtain ⟨text, mistake, rfl⟩ := Fault.isInvalidSelector_iff.1 invalid
        have found : Split.complaints p.unreadable
            [(.ofText s, .invalidSelector text mistake)] =
              ([Split.unreadableReport s (.invalidSelector text mistake)], none) := by
          rw [Split.complaints_of_new invalid known]
          rfl
        refine .passed found ?_ rfl ⟨rfl, rfl, ?_⟩
        · rw [Split.noted_of_new invalid known]
          rfl
        · intro t ht
          rcases List.mem_cons.1 ht with rfl | ht
          · exact ⟨_, unread, invalid⟩
          · exact knows t ht
      | false =>
        dsimp only
        rw [if_neg Bool.false_ne_true]
        split
        · next same => cases same
        · next same =>
          cases same
          cases invalid
        · next fault _ same =>
          cases same
          exact Reports.refused (Split.complaints_of_other invalid [])

/-- What selectors are in trouble for that are asked one after the other. -/
theorem reports_selectsAny (asked : PageSection.IsAsked n) : ∀ (texts : List String)
    {p : Extracting α}, p.KnowsUnreadable →
    Reports ((CustomSelector.asked n (texts.map CustomSelector.ofText)).flatMap
        (CustomSelector.trouble n)) p
      (fun b p' => b = (texts.map CustomSelector.ofText).any (fun s => s.means n) ∧
        OnlyNotes p p' ∧ p'.KnowsUnreadable)
      ((selectsAny n texts).run p)
  | [], p, knows => .ok rfl rfl ⟨rfl, .refl p, knows⟩
  | s :: rest, p, knows => by
    rw [selectsAny, List.map_cons, CustomSelector.asked, List.any_cons]
    cases met : (CustomSelector.ofText s).means n with
    | true =>
      rw [if_pos rfl, List.flatMap_singleton, ← List.append_nil (CustomSelector.trouble n _)]
      refine (reports_selects asked knows s).bind fun b p' ⟨answer, only, knows'⟩ => ?_
      rw [met] at answer
      rw [answer]
      exact .ok rfl rfl ⟨rfl, only, knows'⟩
    | false =>
      rw [if_neg Bool.false_ne_true, List.flatMap_cons]
      refine (reports_selects asked knows s).bind fun b p' ⟨answer, only, knows'⟩ => ?_
      rw [met] at answer
      rw [answer]
      exact (reports_selectsAny asked rest knows').imp
        fun b p'' ⟨answer, only', knows''⟩ => ⟨answer, only.trans only', knows''⟩

variable [Score α]

/-- Deciding on an element comes to the decision on it, and reports the troubles of its selectors.
-/
theorem reports_decide (asked : PageSection.IsAsked n) (knows : p.KnowsUnreadable)
    (patterns : List (Pattern α)) :
    Reports (Decision.troubles (p.options.selectors.map CustomSelector.ofText) n) p
      (fun d p' =>
        d = Decision.of? p.options (p.options.selectors.map CustomSelector.ofText) patterns n ∧
          OnlyNotes p p' ∧ p'.KnowsUnreadable)
      ((decide patterns n).run p) := by
  rw [decide, Operation.run_bind_of_eq_ok Operation.run_kept, Decision.troubles_eq, Decision.of?]
  dsimp only
  split
  · next semantic =>
    refine .ok rfl rfl ⟨?_, .refl p, knows⟩
    rw [Decision.of?, if_pos semantic]
  · next plain =>
    rw [← List.append_nil (List.flatMap _ _)]
    refine (reports_selectsAny asked p.options.selectors knows).bind
      fun b p' ⟨answer, only, knows'⟩ => ?_
    rw [← answer]
    cases b with
    | true => exact .ok rfl rfl ⟨rfl, only, knows'⟩
    | false =>
      refine .ok rfl rfl ⟨?_, only, knows'⟩
      rw [Decision.of?, if_neg plain]
      rfl

end Extracting
end Componentry
