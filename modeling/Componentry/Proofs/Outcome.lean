import Componentry.Fault
import Componentry.Outcome
import Mathlib.Data.List.Forall2

/-!
# Faults and outcomes

What is known of results that may fail, and of outcomes that follow one another.
-/

set_option autoImplicit false

/-! ## Ways of failing

A fault says that a text is no selector, or that a control has no type, and a check tells it from
other faults. A computation that finds no mistake may fail, but never for the way a selector is
written.
-/

namespace Componentry

variable {α β : Type}

/-- A fault says that a text is no selector. -/
def Fault.IsInvalidSelector (e : Fault) : Prop := ∃ text message, e = .invalidSelector text message

/-- A fault says so, as a check. -/
def Fault.isInvalidSelector : Fault → Bool
  | .invalidSelector _ _ => true
  | _ => false

/-- The test for a rejected selector tells what it says. -/
theorem Fault.isInvalidSelector_iff {e : Fault} :
    e.isInvalidSelector = true ↔ e.IsInvalidSelector := by
  constructor
  · intro h
    unfold isInvalidSelector at h
    split at h
    · next text message => exact ⟨text, message, rfl⟩
    · cases h
  · rintro ⟨text, message, rfl⟩
    rfl

/-- A fault says that a control has no type. -/
def Fault.isTypelessControl : Fault → Bool
  | .typelessControl => true
  | _ => false

/-- The test for the control without a type holds of that fault alone. -/
theorem Fault.isTypelessControl_iff {e : Fault} :
    e.isTypelessControl = true ↔ e = .typelessControl := by
  constructor
  · intro h
    unfold isTypelessControl at h
    split at h
    · rfl
    · cases h
  · rintro rfl
    rfl

/-- What fails in a way. -/
def failsAs (way : Fault → Bool) : Except Fault α → Bool
  | .ok _ => false
  | .error e => way e

/-- A result that fails in a given way is a fault of that kind. -/
theorem exists_of_failsAs {way : Fault → Bool} {r : Except Fault α} (h : failsAs way r = true) :
    ∃ e, r = .error e ∧ way e = true := by
  cases r with
  | ok a => cases h
  | error e => exact ⟨e, rfl, h⟩

/-! ### Results that are known -/

/-- A value read off a result, with a map after it, comes from a result that went well. -/
theorem exists_ok_of_toOption_map {ε : Type} {r : Except ε α} {f : α → β} {b : β}
    (h : r.toOption.map f = some b) : ∃ a, r = .ok a ∧ f a = b := by
  cases r with
  | ok a => exact ⟨a, rfl, Option.some.inj h⟩
  | error e => cases h

/-- A value read off a result, with a partial map after it, comes from a result that went well.
-/
theorem exists_ok_of_toOption_bind {ε : Type} {r : Except ε α} {f : α → Option β} {b : β}
    (h : r.toOption.bind f = some b) : ∃ a, r = .ok a ∧ f a = some b := by
  cases r with
  | ok a => exact ⟨a, rfl, h⟩
  | error e => cases h

/-! ### Mistakes in selectors -/

/-- A result is not a fault about the way a selector is written. -/
def FindsNoMistake (r : Except Fault α) : Prop := ∀ e, r = .error e → ¬ e.IsInvalidSelector

namespace FindsNoMistake

/-- A value that was reached finds no mistake. -/
theorem ok (a : α) : FindsNoMistake (.ok a) := by
  intro e h
  cases h

/-- A fault of another kind is no mistake of a selector. -/
theorem error {e : Fault} (h : e.isInvalidSelector = false) :
    FindsNoMistake (.error e : Except Fault α) := by
  rintro _ ⟨⟩
  rw [← Fault.isInvalidSelector_iff, h]
  exact Bool.false_ne_true

/-- A sequence finds no mistake when neither of its parts does. -/
theorem bind {r : Except Fault α} {f : α → Except Fault β} (h : FindsNoMistake r)
    (next : ∀ a, FindsNoMistake (f a)) : FindsNoMistake (r.bind f) := by
  cases r with
  | ok a => exact next a
  | error e =>
    rintro _ ⟨⟩
    exact h e rfl

/-- A map over the value finds no mistake either. -/
theorem map {r : Except Fault α} (h : FindsNoMistake r) (f : α → β) : FindsNoMistake (r.map f) := by
  cases r with
  | ok a => exact .ok _
  | error e =>
    rintro _ ⟨⟩
    exact h e rfl

end FindsNoMistake

end Componentry

/-! ## Laws of outcomes

Outcomes follow one another like results that may fail: what comes out of a step and its
continuation is a result exactly when both give one. Steps made for the members of a list give a
result for each of them, in their order.
-/

namespace Componentry.Outcome
variable {α β : Type}

/-- To hand the value on as it is adds nothing. -/
theorem bind_pure_right (o : Outcome α) : o.bind ok = o := by
  obtain ⟨records, result⟩ := o
  cases result with
  | error _ => rfl
  | ok a => exact congrArg (Outcome.mk · _) (List.append_nil records)

/-- How a sequence of three outcomes is bracketed does not matter. -/
theorem bind_assoc {γ : Type} (o : Outcome α) (f : α → Outcome β) (g : β → Outcome γ) :
    (o.bind f).bind g = o.bind fun a => (f a).bind g := by
  obtain ⟨records, result⟩ := o
  cases result with
  | error _ => rfl
  | ok a =>
    show Outcome.bind ⟨records ++ (f a).records, (f a).result⟩ g
      = ⟨records ++ ((f a).bind g).records, ((f a).bind g).result⟩
    cases hf : (f a).result with
    | error _ => simp only [bind, hf]
    | ok b => simp only [bind, hf, List.append_assoc]

instance : LawfulMonad Outcome :=
  LawfulMonad.mk' Outcome (fun o => bind_pure_right o) (fun _ _ => rfl)
    fun o f g => bind_assoc o f g

/-- The result of a sequence whose first part went well is that of the second. -/
theorem result_bind_of_ok {o : Outcome α} {a : α} (h : o.result = .ok a) (f : α → Outcome β) :
    (o.bind f).result = (f a).result := by
  rw [bind, h]

/-- The result of a sequence whose first part failed is that failure. -/
theorem result_bind_of_error {o : Outcome α} {e : Fault} (h : o.result = .error e)
    (f : α → Outcome β) : (o.bind f).result = .error e := by
  rw [bind, h]

/-- A step and its continuation give a result exactly when both do. -/
theorem result_bind_eq_ok {o : Outcome α} {f : α → Outcome β} {b : β} :
    (o.bind f).result = .ok b ↔ ∃ a, o.result = .ok a ∧ (f a).result = .ok b := by
  cases h : o.result with
  | error e => simp only [result_bind_of_error h, reduceCtorEq, false_and, exists_false]
  | ok a => simp only [result_bind_of_ok h, Except.ok.injEq, exists_eq_left']

/-- Steps made for the members of a list give a result for each of them. -/
theorem forall₂_of_mapM {f : α → Outcome β} : ∀ {l : List α} {results : List β},
    (l.mapM f).result = .ok results → List.Forall₂ (fun a b => (f a).result = .ok b) l results
  | [], results, h => by
    rw [List.mapM_nil] at h
    cases h
    exact .nil
  | a :: rest, results, h => by
    rw [List.mapM_cons] at h
    obtain ⟨b, first, h⟩ := result_bind_eq_ok.1 h
    obtain ⟨more, others, h⟩ := result_bind_eq_ok.1 h
    cases h
    exact .cons first (forall₂_of_mapM others)

/-- What steps made for the members of a list give, seen through a function that says of each
result what is known of its member. -/
theorem map_of_mapM {γ : Type} {f : α → Outcome β} {seen : β → γ} {known : α → γ} {l : List α}
    {results : List β} (each : ∀ a ∈ l, ∀ b, (f a).result = .ok b → seen b = known a)
    (h : (l.mapM f).result = .ok results) : results.map seen = l.map known := by
  have steps := forall₂_of_mapM h
  clear h
  induction steps with
  | nil => rfl
  | @cons a b rest more first _ ih =>
    rw [List.map_cons, List.map_cons, each a List.mem_cons_self b first,
      ih fun a ha => each a (List.mem_cons_of_mem _ ha)]

/-- Steps that all give a result give one for the list. -/
theorem exists_mapM_ok {f : α → Outcome β} : ∀ {l : List α},
    (∀ a ∈ l, ∃ b, (f a).result = .ok b) → ∃ results, (l.mapM f).result = .ok results
  | [], _ => ⟨[], by rw [List.mapM_nil]; rfl⟩
  | a :: rest, each => by
    obtain ⟨b, first⟩ := each a List.mem_cons_self
    obtain ⟨more, others⟩ := exists_mapM_ok fun a ha => each a (List.mem_cons_of_mem _ ha)
    refine ⟨b :: more, ?_⟩
    rw [List.mapM_cons]
    exact result_bind_eq_ok.2 ⟨b, first, result_bind_eq_ok.2 ⟨more, others, rfl⟩⟩

/-- Warnings are said in their order. -/
theorem mapM_warn : ∀ l : List String,
    l.mapM warn = ⟨l.map (Record.mk .warning), .ok (l.map fun _ => ())⟩
  | [] => by
    rw [List.mapM_nil]
    rfl
  | s :: rest => by
    rw [List.mapM_cons, mapM_warn rest]
    exact congrArg (Outcome.mk · _) (congrArg (_ :: ·) (List.append_nil _))

/-- A list of warnings is said in its order, before what follows is run. -/
theorem mapM_warn_bind (l : List String) (f : List Unit → Outcome β) : (l.mapM warn >>= f) =
    ⟨l.map (Record.mk .warning) ++ (f (l.map fun _ => ())).records,
      (f (l.map fun _ => ())).result⟩ := by
  rw [mapM_warn]
  rfl

end Componentry.Outcome
