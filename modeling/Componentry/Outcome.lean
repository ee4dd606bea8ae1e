import Componentry.Fault

/-!
# Outcomes

What an operation says on its way, as records with a level, and what it gives: a result or a fault.
Records made before a fault stay.
-/

set_option autoImplicit false

namespace Componentry

/-- How much a record matters. -/
inductive Level where
  | warning
  | error
deriving Repr, DecidableEq

/-- A record of something worth saying. -/
structure Record where
  level : Level
  text : String
deriving Repr, DecidableEq

/-- Records and a result. -/
structure Outcome (α : Type) where
  records : List Record
  result : Except Fault α

namespace Outcome
variable {α β : Type}

/-- A result without records. -/
def ok (a : α) : Outcome α := ⟨[], .ok a⟩

/-- A fault without records. -/
def fail (f : Fault) : Outcome α := ⟨[], .error f⟩

/-- One record. -/
def say (level : Level) (text : String) : Outcome Unit := ⟨[⟨level, text⟩], .ok ()⟩

/-- One warning. -/
def warn (text : String) : Outcome Unit := say .warning text

/-- A result or fault without records. -/
def ofExcept (e : Except Fault α) : Outcome α := ⟨[], e⟩

/-- Goes on with a result; a fault ends there. -/
def bind (o : Outcome α) (f : α → Outcome β) : Outcome β :=
  match o.result with
  | .ok a => ⟨o.records ++ (f a).records, (f a).result⟩
  | .error e => ⟨o.records, .error e⟩

instance : Monad Outcome where
  pure := ok
  bind := bind

/-- Turns a fault into a result as well. -/
def attempt (o : Outcome α) : Outcome (Except Fault α) := ⟨o.records, .ok o.result⟩

/-- A value that was reached is handed on. -/
theorem bind_ok (a : α) (f : α → Outcome β) : (ok a).bind f = f a := rfl

/-- A failure ends the sequence and says nothing. -/
theorem bind_fail (e : Fault) (f : α → Outcome β) : (fail e).bind f = fail e := rfl

end Outcome
end Componentry
