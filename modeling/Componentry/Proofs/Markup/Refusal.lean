import Componentry.Markup.Tree.Builder
import Componentry.Proofs.Outcome

/-!
# Why markup is refused

Markup is refused for a marked section or for a number, which is never a mistake in a selector.
-/

set_option autoImplicit false

namespace Componentry.Markup
open Componentry.Text

/-! ## References -/

/-- A number that is too long is refused for its length. -/
theorem findsNoMistake_decimalNumber (digits : List Char) :
    FindsNoMistake (decimalNumber digits) := by
  unfold decimalNumber
  split
  · exact .error rfl
  · exact .ok _

/-- A reference in a value is refused for its number at most. -/
theorem findsNoMistake_valueReference? (s : List Char) : FindsNoMistake (valueReference? s) := by
  unfold valueReference?
  split
  · dsimp only
    split
    · exact (findsNoMistake_decimalNumber _).map _
    · split
      · split
        · exact .ok _
        · exact .ok _
      · exact .ok _
  · dsimp only
    split
    · exact .ok _
    · exact .ok _

/-- A value is refused for one of its references at most. -/
theorem findsNoMistake_decodeFrom (skip : Nat) (s : List Char) :
    FindsNoMistake (decodeFrom skip s) := by
  induction skip, s using decodeFrom.induct with
  | case1 skip =>
    rw [decodeFrom]
    exact .ok _
  | case2 skip c rest ih =>
    rw [decodeFrom]
    exact ih
  | case3 c rest reference characters length found ih =>
    rw [decodeFrom, if_pos reference, found]
    exact ih.map _
  | case4 c rest reference found ih =>
    rw [decodeFrom, if_pos reference, found]
    exact ih.map _
  | case5 c rest reference f refused =>
    have known := findsNoMistake_valueReference? rest
    rw [decodeFrom, if_pos reference, refused]
    rintro _ ⟨⟩
    exact known f refused
  | case6 c rest other ih =>
    rw [decodeFrom, if_neg other]
    exact ih.map _

/-- Attributes are refused for one of their values at most. -/
theorem findsNoMistake_decodeAttributes (l : List (String × List Char)) :
    FindsNoMistake (decodeAttributes l) := by
  induction l with
  | nil => exact .ok []
  | cons e l ih => exact (findsNoMistake_decodeFrom 0 e.2).bind fun _ => ih.bind fun _ => .ok _

/-! ## Tokens -/

namespace Reading

/-- A reading is not refused for a mistake in a selector. -/
def FindsNoMistake : Reading → Prop
  | .refused f => f.isInvalidSelector = false
  | _ => True

variable {tokens : List Token} {raw : Option String} {rest : List Char}

@[simp] theorem findsNoMistake_next : FindsNoMistake (.next tokens raw rest) := trivial

@[simp] theorem findsNoMistake_cutOff : FindsNoMistake .cutOff := trivial

@[simp] theorem findsNoMistake_stop : FindsNoMistake (.stop tokens rest) := trivial

/-- A reading that waits for a result is no mistake when neither of them is. -/
theorem findsNoMistake_ofExcept {α : Type} {go : α → Reading} {e : Except Fault α}
    (h : Componentry.FindsNoMistake e) (each : ∀ a, (go a).FindsNoMistake) :
    (Reading.ofExcept e go).FindsNoMistake := by
  cases e with
  | ok a => exact each a
  | error f =>
    exact Bool.eq_false_iff.2 fun invalid => h f rfl (Fault.isInvalidSelector_iff.1 invalid)

end Reading

/-- A start of an element is refused for its attributes at most. -/
theorem findsNoMistake_readStart (s : List Char) : (readStart s).FindsNoMistake := by
  have decoded {l : List (String × List Char)} {go : List (String × String) → Reading}
      (each : ∀ attributes, (go attributes).FindsNoMistake) :
      (Reading.ofExcept (decodeAttributes l) go).FindsNoMistake :=
    Reading.findsNoMistake_ofExcept (findsNoMistake_decodeAttributes l) each
  simp only [readStart]
  split
  · trivial
  · exact decoded fun _ => trivial
  · exact decoded fun _ => trivial
  · split
    · trivial
    · exact decoded fun _ => trivial

/-- A loose comment is never refused. -/
theorem findsNoMistake_readLooseComment (s : List Char) : (readLooseComment s).FindsNoMistake := by
  unfold readLooseComment
  split <;> simp

/-- The end of an element is never refused. -/
theorem findsNoMistake_readFinish (s : List Char) : (readFinish s).FindsNoMistake := by
  unfold readFinish
  split
  · simp
  · split
    · simp
    · simp
    · split
      · split <;> simp
      · exact findsNoMistake_readLooseComment _

/-- A marked section is refused for its name at most, which is no selector. -/
theorem findsNoMistake_readSection (s : List Char) : (readSection s).FindsNoMistake := by
  simp only [readSection]
  split
  · simp
  · split
    · exact rfl
    · split
      · simp
      · split
        · exact rfl
        · split <;> simp

/-- A declaration is refused for its section at most. -/
theorem findsNoMistake_readDeclaration (s : List Char) : (readDeclaration s).FindsNoMistake := by
  unfold readDeclaration
  split
  · split <;> simp
  · exact findsNoMistake_readSection _
  · split
    · split <;> simp
    · exact findsNoMistake_readLooseComment s

/-- Whatever a bracket opens may be refused, but for no selector. -/
theorem findsNoMistake_readTag (s : List Char) : (readTag s).FindsNoMistake := by
  unfold readTag
  split
  · exact findsNoMistake_readFinish _
  · exact findsNoMistake_readDeclaration _
  · unfold readInstruction
    split <;> simp
  · split
    · exact findsNoMistake_readStart _
    · simp
  · simp

/-- A reference by number is refused for its number at most. -/
theorem findsNoMistake_readNumber (s : List Char) : (readNumber s).FindsNoMistake := by
  have bail : (if s.contains ';' then Reading.stop [.data ['&', '#']] s
      else .stop [] ('&' :: '#' :: s)).FindsNoMistake := by
    split <;> simp
  have code (base : Nat) (digits : List Char) : FindsNoMistake
      (if base == 10 then decimalNumber digits else .ok (numberIn base digits)) := by
    split
    · exact findsNoMistake_decimalNumber digits
    · exact .ok _
  simp only [readNumber]
  split
  · split
    · exact bail
    · exact Reading.findsNoMistake_ofExcept (code _ _) fun _ => trivial
  · exact bail

/-- A reference by name is never refused. -/
theorem findsNoMistake_readEntity (final : Bool) (s : List Char) :
    (readEntity final s).FindsNoMistake := by
  unfold readEntity
  split
  · simp
  · split
    · split
      · split <;> simp
      · simp
    · simp

/-- Whatever an ampersand opens may be refused, but for no selector. -/
theorem findsNoMistake_readReference (final : Bool) (s : List Char) :
    (readReference final s).FindsNoMistake := by
  unfold readReference
  split
  · exact findsNoMistake_readNumber _
  · exact findsNoMistake_readEntity final _
  · simp

/-- A step of the reader may be refused, but for no selector. -/
theorem findsNoMistake_read (final : Bool) (raw : Option String) (s : List Char) :
    (read final raw s).FindsNoMistake := by
  have cutOff (s : List Char) : (readCutOff s).FindsNoMistake := by
    simp only [readCutOff]
    split
    · simp
    · split <;> simp
  unfold read
  split
  · unfold readRaw
    split <;> simp
  · simp
  · split
    · have tag := findsNoMistake_readTag
      split
      · split
        · exact cutOff _
        · simp
      · exact tag _
    · split
      · exact findsNoMistake_readReference final _
      · simp

/-- A pass is refused where one of its steps is. -/
theorem findsNoMistake_pass (final : Bool) (raw : Option String) (s : List Char) :
    FindsNoMistake (pass final raw s) := by
  induction raw, s using pass.induct final with
  | case1 raw s first raw' rest step smaller more left passed _ =>
    rw [pass, step]
    simp only [if_pos smaller, passed]
    exact .ok _
  | case2 raw s first raw' rest step smaller f refused ih =>
    rw [pass, step]
    simp only [if_pos smaller, refused]
    rintro _ ⟨⟩
    exact ih f refused
  | case3 raw s first raw' rest step still =>
    rw [pass, step]
    simp only [if_neg still]
    exact .ok _
  | case4 raw s step =>
    rw [pass, step]
    exact .ok _
  | case5 raw s first rest step =>
    rw [pass, step]
    exact .ok _
  -- The step itself was refused: that is where a mistake could come from.
  | case6 raw s f step =>
    have here := findsNoMistake_read final raw s
    rw [step] at here
    rw [pass, step]
    exact .error here

/-- Reading markup finds no mistake in a selector. -/
theorem Tree.findsNoMistake_parse (s : String) : FindsNoMistake (Tree.parse s) := by
  have scanned : FindsNoMistake (Token.scan s.toList) :=
    (findsNoMistake_pass false none s.toList).bind fun first =>
      (findsNoMistake_pass true first.2.1 first.2.2).bind fun _ => .ok _
  exact scanned.map Tree.ofTokens

end Componentry.Markup
