import Componentry.Document.Selection
import Componentry.Proofs.Outcome
import Componentry.Proofs.Markup.Refusal

/-!
# Mistakes are found in the text

A selector that was read can fail on an element, for what is asked of a control or of a position,
but never for the way it is written: only its text is refused for that. Nor does the markup of an
element that is written out to be asked show such a mistake.
-/

set_option autoImplicit false

namespace Componentry

variable {α β : Type}

/-! ## Searches -/

/-- A search finds no mistake, whatever it remembers. -/
def Search.FindsNoMistake (s : Search α) : Prop := ∀ m, Componentry.FindsNoMistake (s.run m)

namespace Search.FindsNoMistake

/-- An answer that is there finds no mistake. -/
theorem pure (a : α) : FindsNoMistake (pure a : Search α) := fun _ => .ok _

/-- Two searches in a row find no mistake when neither of them does. -/
theorem bind {s : Search α} {f : α → Search β} (h : FindsNoMistake s)
    (next : ∀ a, FindsNoMistake (f a)) : FindsNoMistake (s >>= f) := by
  intro m
  rw [StateT.run_bind]
  exact (h m).bind fun found => next found.1 found.2

/-- A result that is no mistake is none as a search. -/
theorem lift {r : Except Fault α} (h : Componentry.FindsNoMistake r) :
    FindsNoMistake (liftM r : Search α) := by
  intro m
  exact Componentry.FindsNoMistake.bind h fun _ => .ok _

theorem get : FindsNoMistake (get : Search Memory) := fun _ => .ok _

theorem modify (f : Memory → Memory) : FindsNoMistake (modify f : Search PUnit) := fun _ => .ok _

/-- A choice between two searches finds no mistake when neither of them does. -/
theorem ite {c : Prop} [Decidable c] {s t : Search α} (hs : FindsNoMistake s)
    (ht : FindsNoMistake t) : FindsNoMistake (if c then s else t) := by
  split
  · exact hs
  · exact ht

/-- A search for each item of a list finds no mistake when none of them does. -/
theorem mapM {f : α → Search β} (each : ∀ a, FindsNoMistake (f a)) (l : List α) :
    FindsNoMistake (l.mapM f) := by
  induction l with
  | nil =>
    rw [List.mapM_nil]
    exact .pure []
  | cons a l ih =>
    rw [List.mapM_cons]
    exact (each a).bind fun b => ih.bind fun more => .pure (b :: more)

/-- A search up to the first item that counts finds no mistake. -/
theorem anyM {f : α → Search Bool} (each : ∀ a, FindsNoMistake (f a)) (l : List α) :
    FindsNoMistake (l.anyM f) := by
  induction l with
  | nil => exact .pure false
  | cons a l ih =>
    rw [List.anyM]
    refine (each a).bind fun found => ?_
    cases found with
    | true => exact .pure true
    | false => exact ih

/-- A search for the first item that counts finds no mistake. -/
theorem findM? {f : α → Search Bool} (each : ∀ a, FindsNoMistake (f a)) (l : List α) :
    FindsNoMistake (l.findM? f) := by
  induction l with
  | nil => exact .pure none
  | cons a l ih =>
    rw [List.findM?]
    refine (each a).bind fun found => ?_
    cases found with
    | true => exact .pure (some a)
    | false => exact ih

/-- A question that is asked once and remembered finds no mistake. -/
theorem settle (asked : Question) {look : Search (Option Nat)} (h : FindsNoMistake look) :
    FindsNoMistake (Search.settle asked look) := by
  unfold Search.settle
  refine get.bind fun m => ?_
  split
  · exact .pure _
  · exact h.bind fun found => (modify _).bind fun _ => .pure _

end Search.FindsNoMistake

namespace Selector
open Componentry.Markup Search.FindsNoMistake

/-! ## Questions of their own -/

/-- Counting a position may fail, but not for the text of the selector. -/
theorem findsNoMistake_holds (position : Position) (n : Nat) :
    FindsNoMistake (position.holds n) := by
  unfold Position.holds
  dsimp only
  split
  · exact .ok _
  · split
    · exact .error rfl
    · split
      · exact .ok _
      · exact .ok _

/-- A year that is too long to be read is no mistake of the selector. -/
theorem findsNoMistake_yearNumber (digits : List Char) : FindsNoMistake (yearNumber digits) := by
  unfold yearNumber
  split
  · exact .ok _
  · exact .error rfl

/-- A year out of range is no mistake of the selector. -/
theorem findsNoMistake_weeksOf (year : Nat) : FindsNoMistake (weeksOf year) := by
  unfold weeksOf
  split
  · exact .error rfl
  · exact .ok _

/-- Reading a value on a scale may only fail for the value. -/
theorem findsNoMistake_read? (scale : Scale) (text : String) :
    FindsNoMistake (scale.read? text) := by
  have dated {digits : List Char} {f : Nat → Except Fault (Option Measure)}
      (next : ∀ year, FindsNoMistake (f year)) : FindsNoMistake ((yearNumber digits).bind f) :=
    (findsNoMistake_yearNumber digits).bind next
  cases scale with
  | date =>
    simp only [Scale.read?]
    split
    · exact dated fun _ => .ok _
    · exact .ok _
  | month =>
    simp only [Scale.read?]
    split
    · exact dated fun _ => .ok _
    · exact .ok _
  | week =>
    simp only [Scale.read?]
    split
    · split
      · refine dated fun year => ?_
        split
        · exact .ok _
        · exact (findsNoMistake_weeksOf year).bind fun _ => .ok _
      · exact .ok _
    · exact .ok _
  | time =>
    simp only [Scale.read?]
    split
    · exact .ok _
    · exact .ok _
  | dateTime =>
    simp only [Scale.read?]
    split
    · exact dated fun _ => .ok _
    · exact .ok _
  | number => exact .ok _

/-- Reading a limit of an element may only fail for the limit. -/
theorem findsNoMistake_limit? (scale : Scale) (p : Place) (name : String) :
    FindsNoMistake (scale.limit? p name) := by
  unfold Scale.limit?
  split
  · exact findsNoMistake_read? scale _
  · exact .ok _

/-- Comparing a value with its limits may only fail for these. -/
theorem findsNoMistake_hasRange (within : Bool) (p : Place) :
    FindsNoMistake (hasRange within p) := by
  unfold hasRange
  split
  · exact .error rfl
  · split
    · exact .ok _
    next scale _ =>
      refine (findsNoMistake_limit? scale p "min").bind fun least => ?_
      refine (findsNoMistake_limit? scale p "max").bind fun most => ?_
      split
      · exact .ok _
      · exact (findsNoMistake_limit? scale p "value").bind fun _ => .ok _

/-- Testing a feature may fail for the element, not for the text of the selector. -/
theorem findsNoMistake_hasFeature (scope : Place) (f : Feature) (p : Place) :
    FindsNoMistake (hasFeature scope f p) := by
  unfold hasFeature
  split
  all_goals first | exact .ok _ | exact findsNoMistake_hasRange _ p

/-- Looking for the language of an element finds no mistake. -/
theorem findsNoMistake_speaks (ranges : List String) (p : Place) :
    (speaks ranges p).FindsNoMistake := by
  have language : (languageOf? p).FindsNoMistake := by
    unfold languageOf?
    split
    · exact .pure _
    · have silent : (Search.isSilent (pageTop p).path).FindsNoMistake := get.bind fun _ => .pure _
      refine silent.bind fun _ => .ite (.pure _) ?_
      split
      · exact .pure _
      · split
        · exact .pure _
        · exact (modify _).bind fun _ => .pure _
  unfold speaks
  refine language.bind fun found => ?_
  split
  · exact .pure _
  · exact .pure _

/-! ## Matching -/

/-- Matching a selector that was read finds no mistake in it. -/
theorem findsNoMistake_matchesAt (scope : Place) (s : Selector) (framed : Bool) (p : Place) :
    (matchesAt scope framed s p).FindsNoMistake := by
  induction s generalizing framed p with
  | any => exact .pure _
  | never => exact .pure _
  | feature f => exact .lift (findsNoMistake_hasFeature scope f p)
  | language ranges => exact findsNoMistake_speaks ranges p
  | both a b ha hb =>
    rw [matchesAt]
    exact (ha framed p).bind fun _ => .ite (hb framed p) (.pure _)
  | together a b ha hb =>
    rw [matchesAt]
    exact (ha framed p).bind fun _ => (hb framed p).bind fun _ => .pure _
  | either a b ha hb =>
    rw [matchesAt]
    exact (ha framed p).bind fun _ => .ite (.pure _) (hb framed p)
  | «unless» a ha =>
    rw [matchesAt]
    exact (ha framed p).bind fun _ => .pure _
  -- Only here does matching remember what it counted; the memory itself cannot fail.
  | nth position among ih =>
    by_cases all : among = .any
    · subst all
      exact .lift (findsNoMistake_holds position _)
    · rw [matchesAt]
      · refine (get.bind fun _ => .pure _).bind fun known => ?_
        refine (mapM (fun q => ih framed q) _).bind fun fresh => ?_
        refine (modify _).bind fun _ => ?_
        split
        · exact .lift (findsNoMistake_holds position _)
        · exact .pure _
      · exact all
  | related relation other ih =>
    have relatives (r : Relation) :
        ((relatives framed r p).anyM fun q => matchesAt scope framed other q).FindsNoMistake :=
      anyM (fun q => ih framed q) _
    cases relation with
    | earlier =>
      rw [matchesAt]
      have look := findM? (fun q => ih framed q) (fellows p)
      exact (settle _ (look.bind fun _ => .pure _)).bind fun _ => .pure _
    | later =>
      rw [matchesAt]
      have look := findM? (fun q => ih framed q) (fellows p).reverse
      exact (settle _ (look.bind fun _ => .pure _)).bind fun _ => .pure _
    | ancestor => exact relatives .ancestor
    | parent => exact relatives .parent
    | previous => exact relatives .previous
    | descendant => exact relatives .descendant
    | child => exact relatives .child
    | next => exact relatives .next
  | framed a ha =>
    rw [matchesAt]
    exact ha true p
  | whereFramed => exact .pure _

/-- A selector that was read does not turn out to be none when an element is asked for. -/
theorem findsNoMistake_means (s : Selector) (p : Place) : FindsNoMistake (s.means p) := by
  have searched := findsNoMistake_matchesAt p s false p {}
  unfold means Search.answer
  cases found : (matchesAt p false s p).run {} with
  | ok answer => exact .ok _
  | error f =>
    rintro _ ⟨⟩
    exact searched f found

end Selector

namespace Node
open Componentry.Markup

/-- Looking for the place of a node finds no mistake in a selector. -/
theorem findsNoMistake_matchingPlace? (n : Node) : FindsNoMistake n.matchingPlace? := by
  unfold matchingPlace?
  split
  · exact .ok _
  · exact (Tree.findsNoMistake_parse n.write).map _

/-- A node that is asked for a selector finds no mistake in it. -/
theorem findsNoMistake_meets (n : Node) (s : Selector) : FindsNoMistake (n.meets s) := by
  unfold meets
  split
  · exact .ok _
  · refine (findsNoMistake_matchingPlace? n).bind fun place => ?_
    cases place with
    | none => exact .ok _
    | some p => exact Selector.findsNoMistake_means s p

end Node
end Componentry
