import Componentry.Outcome

/-!
# Operations on what is kept

An operation works on something that is kept for the next one. It has an outcome, and leaves behind
how far it came, also where it ends with a fault.
-/

set_option autoImplicit false

namespace Componentry

/-- An operation: from what is kept to an outcome and what is kept then. -/
def Operation (σ α : Type) : Type := σ → Outcome α × σ

namespace Operation
variable {σ τ α β : Type}

/-- The outcome of an operation, and what it leaves. -/
def run (x : Operation σ α) (s : σ) : Outcome α × σ := x s

/-- A result that leaves everything as it is. -/
def ok (a : α) : Operation σ α := fun s => (.ok a, s)

/-- Goes on with a result; a fault ends there, and what was changed before it stays. -/
def bind (x : Operation σ α) (f : α → Operation σ β) : Operation σ β := fun s =>
  match x.run s with
  | (⟨records, .error fault⟩, s) => (⟨records, .error fault⟩, s)
  | (⟨records, .ok a⟩, s) =>
    let (o, s) := (f a).run s
    (⟨records ++ o.records, o.result⟩, s)

instance : Monad (Operation σ) where
  pure := ok
  bind := bind

/-- An outcome that leaves everything as it is. -/
def ofOutcome (o : Outcome α) : Operation σ α := fun s => (o, s)

/-- What is kept. -/
def kept : Operation σ σ := fun s => (.ok s, s)

/-- Changes what is kept. -/
def change (f : σ → σ) : Operation σ Unit := fun s => (.ok (), f s)

/-- Takes a result out of what is kept. -/
def take (f : σ → α × σ) : Operation σ α := fun s => (.ok (f s).1, (f s).2)

/-- An outcome that is found in what is kept. -/
def find (f : σ → Outcome α × σ) : Operation σ α := f

/-- An operation on a part of what is kept. -/
def within (part : τ → σ) (put : σ → τ → τ) (x : Operation σ α) : Operation τ α := fun t =>
  let (o, s) := x.run (part t)
  (o, put s t)

/-! ## What they come to -/

variable {x : Operation σ α} {f : α → Operation σ β} {s s' : σ} {records : List Record}

@[simp] theorem run_pure (a : α) : (pure a : Operation σ α).run s = (.ok a, s) := rfl

@[simp] theorem run_ofOutcome (o : Outcome α) : (ofOutcome o).run s = (o, s) := rfl

@[simp] theorem run_kept : (kept : Operation σ σ).run s = (.ok s, s) := rfl

@[simp] theorem run_change (f : σ → σ) : (change f).run s = (.ok (), f s) := rfl

@[simp] theorem run_take (f : σ → α × σ) : (take f).run s = (.ok (f s).1, (f s).2) := rfl

@[simp] theorem run_find (f : σ → Outcome α × σ) : (find f).run s = f s := rfl

/-- An operation on a part changes that part only, and answers what it answers there. -/
@[simp] theorem run_within (part : τ → σ) (put : σ → τ → τ) (t : τ) :
    (within part put x).run t = ((x.run (part t)).1, put (x.run (part t)).2 t) := rfl

/-- An operation that went well hands its answer and its state on, and its records come first.
-/
theorem run_bind_of_ok {a : α} (h : x.run s = (⟨records, .ok a⟩, s')) :
    (x >>= f).run s =
      (⟨records ++ ((f a).run s').1.records, ((f a).run s').1.result⟩, ((f a).run s').2) := by
  show bind x f s = _
  rw [bind, h]

/-- An operation that failed ends the sequence: what would follow is not run. -/
theorem run_bind_of_error {fault : Fault} (h : x.run s = (⟨records, .error fault⟩, s')) :
    (x >>= f).run s = (⟨records, .error fault⟩, s') := by
  show bind x f s = _
  rw [bind, h]

/-- What comes after a result without records. -/
theorem run_bind_of_eq_ok {a : α} (h : x.run s = (.ok a, s')) :
    (x >>= f).run s = (f a).run s' := run_bind_of_ok h

/-- The outcomes of operations follow one another. -/
theorem fst_run_bind (x : Operation σ α) (f : α → Operation σ β) (s : σ) :
    ((x >>= f).run s).1 = (x.run s).1.bind fun a => ((f a).run (x.run s).2).1 := by
  cases h : x.run s with
  | mk o s' =>
    obtain ⟨records, result⟩ := o
    cases result with
    | ok a => rw [run_bind_of_ok h, Outcome.bind]
    | error fault => rw [run_bind_of_error h, Outcome.bind]

/-! ## What they leave alone -/

/-- An operation leaves a part of what is kept as it is, also where it ends with a fault. -/
def Leaves (part : σ → τ) (x : Operation σ α) : Prop := ∀ s, part (x.run s).2 = part s

namespace Leaves
variable {part : σ → τ}

/-- An answer that is already there changes nothing. -/
theorem ok (a : α) : Leaves part (pure a : Operation σ α) := fun _ => rfl

/-- An outcome taken in changes nothing. -/
theorem ofOutcome (o : Outcome α) : Leaves part (.ofOutcome o) := fun _ => rfl

/-- A change leaves a part alone when it maps every state to one of the same part. -/
theorem change {f : σ → σ} (h : ∀ s, part (f s) = part s) : Leaves part (.change f) := h

/-- Two operations in a row leave a part alone when each of them does. -/
theorem bind (h : Leaves part x) (each : ∀ a, Leaves part (f a)) : Leaves part (x >>= f) := by
  intro s
  cases hx : x.run s with
  | mk o s' =>
    have first : part s' = part s := by
      rw [← h s, hx]
    obtain ⟨records, result⟩ := o
    cases result with
    | ok a =>
      rw [run_bind_of_ok hx]
      exact (each a s').trans first
    | error fault =>
      rw [run_bind_of_error hx]
      exact first

/-- What an operation does with what is kept it does with what that is now. -/
theorem bind_kept {f : σ → Operation σ β} (each : ∀ a, Leaves part (f a)) :
    Leaves part (kept >>= f) :=
  .bind (fun _ => rfl) each

end Leaves

end Operation
end Componentry
