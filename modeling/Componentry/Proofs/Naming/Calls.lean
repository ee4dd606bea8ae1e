import Componentry.Proofs.Naming.Freshness

/-!
# Runs of calls

A namer answers one call after the other and remembers what it has given. Each call has an answer of
its own: however far numbers have to be counted up for it, counting ends, with one name and no
other. The name is new to the namer and to those who call, and not too long. Step by step the names
of a whole run are therefore different.
-/

set_option autoImplicit false

namespace Componentry.Namer
open Componentry.Text Componentry.Naming

/-- A call that a namer gives a name for: for a component, or by a base. Both say which names exist
elsewhere. -/
inductive Call where
  | component (request : NameRequest)
  | unique (base : String) (others : List String)

namespace Call

/-- The names that exist elsewhere. -/
def existing : Call → List String
  | component request => request.existing
  | unique _ others => others

/-- The name that is wanted of a namer. -/
def wanted (n : Namer) : Call → String
  | component request => n.wanted request
  | unique base _ => base

/-- All names that a namer cannot give. -/
def taken (c : Call) (n : Namer) : List String := c.existing ++ n.given

end Call

/-- Answers a call with a name. -/
def answer (n : Namer) : Call → String × Namer
  | .component request => n.name request
  | .unique base others => n.claim base others

/-- The names given for calls, one after the other. -/
def answers (n : Namer) : List Call → List String
  | [] => []
  | c :: calls => (n.answer c).1 :: (n.answer c).2.answers calls

/-- The namer after calls. -/
def after (n : Namer) : List Call → Namer
  | [] => n
  | c :: calls => (n.answer c).2.after calls

/-! ## One call -/

/-- A call is answered with a claim for what it wants. -/
theorem answer_eq (n : Namer) (c : Call) : n.answer c = n.claim (c.wanted n) c.existing := by
  cases c with
  | component _ => rfl
  | unique _ _ => rfl

@[simp] theorem given_answer (n : Namer) (c : Call) :
    (n.answer c).2.given = n.given ++ [(n.answer c).1] := by
  rw [answer_eq, given_claim]

/-- What a good answer is: the name that is settled on, new to everyone, and short unless very many
names are taken. -/
structure IsAnswer (n : Namer) (c : Call) (name : String) : Prop where
  settles_iff : ∀ s, Settles (c.wanted n) (c.taken n) s ↔ s = name
  not_mem_given : name ∉ n.given
  not_mem_existing : name ∉ c.existing
  size_le : (c.taken n).toFinset.card < mostTaken → size name ≤ longest

/-- What a call is answered with is an answer to it. -/
theorem isAnswer_answer (n : Namer) (c : Call) : n.IsAnswer c (n.answer c).1 := by
  have name : (n.answer c).1 = Naming.claim (c.wanted n) (c.taken n) := by
    rw [answer_eq]
    rfl
  have fresh : (n.answer c).1 ∉ c.existing ++ n.given := by
    rw [name]
    exact claim_not_mem _ _
  constructor
  · intro s
    rw [name]
    exact Naming.settles_iff
  · intro mem
    exact fresh (List.mem_append_right _ mem)
  · intro mem
    exact fresh (List.mem_append_left _ mem)
  · intro few
    rw [name]
    exact size_claim_le few

/-! ## A run -/

@[simp] theorem length_answers (n : Namer) (calls : List Call) :
    (n.answers calls).length = calls.length := by
  induction calls generalizing n with
  | nil => rfl
  | cons c calls ih => simp only [answers, List.length_cons, ih]

/-- A namer remembers what it has given. -/
theorem given_after (n : Namer) (calls : List Call) :
    (n.after calls).given = n.given ++ n.answers calls := by
  induction calls generalizing n with
  | nil => simp only [after, answers, List.append_nil]
  | cons c calls ih => simp only [after, answers, ih, given_answer, List.append_assoc,
      List.singleton_append]

/-- Calls in a row are answered in a row. -/
theorem answers_append (n : Namer) (before rest : List Call) :
    n.answers (before ++ rest) = n.answers before ++ (n.after before).answers rest := by
  induction before generalizing n with
  | nil => rfl
  | cons c before ih => simp only [List.cons_append, answers, after, ih]

/-- A run gives different names, all of them new. -/
theorem answers_new (n : Namer) (calls : List Call) :
    (n.answers calls).Nodup ∧ ∀ name ∈ n.answers calls, name ∉ n.given := by
  induction calls generalizing n with
  | nil => exact ⟨List.nodup_nil, fun _ mem => absurd mem List.not_mem_nil⟩
  | cons c calls ih =>
    obtain ⟨different, new⟩ := ih (n.answer c).2
    simp only [given_answer, List.mem_append, List.mem_singleton, not_or] at new
    simp only [answers]
    constructor
    · refine List.nodup_cons.2 ⟨?_, different⟩
      intro again
      exact (new _ again).2 rfl
    · intro name mem
      rcases List.mem_cons.1 mem with rfl | mem
      · exact (n.isAnswer_answer c).not_mem_given
      · exact (new name mem).1

/-- Names never repeat. Whatever is called for, a namer gives a name for each call, and all names
given are different from each other and from those given before. The name for a call that comes
after others is the one that counting settles on when the names given so far and those that exist
elsewhere are taken; it is none of these, and keeps within its length. -/
theorem answers_never_repeat (n : Namer) (calls : List Call) :
    (n.answers calls).length = calls.length ∧
    (n.answers calls).Nodup ∧
    (∀ name ∈ n.answers calls, name ∉ n.given) ∧
    ∀ before c rest, calls = before ++ c :: rest → ∃ name,
      (n.answers calls)[before.length]? = some name ∧
      (n.after before).given = n.given ++ (n.answers calls).take before.length ∧
      (n.after before).IsAnswer c name := by
  obtain ⟨different, new⟩ := n.answers_new calls
  refine ⟨n.length_answers calls, different, new, ?_⟩
  rintro before c rest rfl
  refine ⟨((n.after before).answer c).1, ?_, ?_, isAnswer_answer _ c⟩
  · rw [answers_append, List.getElem?_append_right (Nat.le_of_eq (n.length_answers before)),
      length_answers, Nat.sub_self]
    rfl
  · rw [answers_append, List.take_left' (n.length_answers before), given_after]

/-- Long names are cut, and then told apart by a number before the mark. -/
example : answers {} [.unique (String.ofList (List.replicate 50 'N')) [],
    .unique (String.ofList (List.replicate 60 'N')) ["Nav"]] =
    [String.ofList (List.replicate 46 'N') ++ "...",
      String.ofList (List.replicate 45 'N') ++ "2..."] := by decide +kernel

end Componentry.Namer
