import Componentry.Proofs.Document.Printer
import Componentry.Proofs.Pattern.Similarity
import Componentry.Proofs.Splitting.Membership
import Componentry.Proofs.Splitting.Splitter
import Componentry.Splitting.Statistics

/-!
# Figures that add up

Every component is counted once by its type, once by its role and once by its depth, so each of the
three counts adds up to the number of components. None is deeper than the limit. Confidences lie
between nothing and the whole, and so does their average. A component has less text than markup,
since its element has, and so have all components together, whichever of them stand in one another.
-/

set_option autoImplicit false

namespace Componentry
open Componentry.Text Componentry.Node

/-! ## Sums -/

/-- Where each first number is smaller than its second one, so is their sum; a sum of no numbers
counts as one. -/
theorem sumOf_lt_max_sumOf {α : Type} {f g : α → Nat} : ∀ {l : List α}, (∀ a ∈ l, f a < g a) →
    sumOf (l.map f) < max (sumOf (l.map g)) 1
  | [], _ => Nat.one_pos
  | a :: rest, less => by
    have here := less a List.mem_cons_self
    have others := sumOf_lt_max_sumOf fun b hb => less b (List.mem_cons_of_mem a hb)
    rw [List.map_cons, List.map_cons, sumOf_cons, sumOf_cons]
    omega

/-- The average of scores between nothing and the whole is between them. -/
theorem Score.average_bounds {l : List Rat} (within_ : ∀ x ∈ l, 0 ≤ x ∧ x ≤ 1) :
    0 ≤ (Score.total l / Score.ofNat l.length : Rat) ∧
      (Score.total l / Score.ofNat l.length : Rat) ≤ 1 := by
  have nonneg : 0 ≤ l.sum := List.sum_nonneg fun x hx => (within_ x hx).1
  have le : l.sum ≤ l.length := by
    have bound := List.sum_le_card_nsmul l 1 fun x hx => (within_ x hx).2
    rwa [nsmul_eq_mul, mul_one] at bound
  have number : (Score.ofNat l.length : Rat) = l.length := rfl
  rw [Score.total_rat, number]
  exact ⟨div_nonneg nonneg (Nat.cast_nonneg _), div_le_one_of_le₀ le (Nat.cast_nonneg _)⟩

/-- The confidence of a pattern lies between nothing and the whole. -/
theorem Pattern.confidence_bounds {o : PatternOptions Rat} {root : Node} {p : Pattern Rat}
    (h : p ∈ detect o root) : 0 ≤ p.confidence ∧ p.confidence ≤ 1 := by
  obtain ⟨⟨key, members⟩, _, made⟩ := List.mem_filterMap.1 h
  obtain ⟨_, made⟩ := Option.ite_none_right_eq_some.1 made
  cases made
  exact ⟨Similarity.confidence_nonneg _, Similarity.confidence_le_one _⟩

/-! ## Figures -/

namespace Split

/-- A tally counts each item once. -/
theorem sumOf_values_tally (l : List String) : sumOf (tally l).values = l.length := by
  have counted := Dict.sumOf_values_foldl_count (fun s => s) l Dict.empty
  exact counted.trans (Nat.zero_add _)

section
variable {deepest : Int} {split : Split Rat}

/-- No component is deeper than the limit. -/
theorem maxDepth_le (limit : ∀ c ∈ split.components, (c.depth : Int) ≤ deepest)
    (some_ : 0 ≤ deepest) : (split.maxDepth : Int) ≤ deepest := by
  rw [maxDepth, ← List.foldl_map]
  rcases Lists.foldl_max_mem (split.components.map Component.depth) 0 with none | mem
  · rw [none]
    exact some_
  · obtain ⟨c, hc, same⟩ := List.mem_map.1 mem
    rw [← same]
    exact limit c hc

/-- A mean of confidences is between nought and one. -/
theorem averageConfidence_bounds
    (confidences : ∀ p ∈ split.patterns, 0 ≤ p.confidence ∧ p.confidence ≤ 1) :
    0 ≤ split.averageConfidence ∧ split.averageConfidence ≤ 1 := by
  have average := Score.average_bounds (l := split.patterns.map Pattern.confidence) fun x hx => by
    obtain ⟨p, hp, rfl⟩ := List.mem_map.1 hx
    exact confidences p hp
  rw [List.length_map] at average
  rw [averageConfidence]
  split
  · exact ⟨le_refl 0, zero_le_one⟩
  · exact average

/-- Where every component has less text than markup, not all markup is text. -/
theorem textRatio_bounds (texts : ∀ c ∈ split.components, c.content.textLength < size c.markup) :
    0 ≤ split.textRatio ∧ split.textRatio < 1 := by
  have less := sumOf_lt_max_sumOf texts
  have positive : 0 < max (sumOf (split.components.map fun c => size c.markup)) 1 :=
    lt_max_of_lt_right Nat.one_pos
  rw [textRatio, Score.ratio_rat]
  refine ⟨div_nonneg (Nat.cast_nonneg _) (Nat.cast_nonneg _), ?_⟩
  rw [div_lt_one (Nat.cast_pos.2 positive)]
  exact Nat.cast_lt.2 less

/-- The figures of a split fit one another and a limit of depth. -/
structure AddsUp (deepest : Int) (split : Split Rat) : Prop where
  total : split.total = split.components.length
  types : sumOf split.byType.values = split.total
  roles : sumOf split.byRole.values = split.total
  depths : sumOf split.byDepth.values = split.total
  limit : ∀ c ∈ split.components, (c.depth : Int) ≤ deepest
  deepest : 0 ≤ deepest → (split.maxDepth : Int) ≤ deepest
  confidence : 0 ≤ split.averageConfidence ∧ split.averageConfidence ≤ 1
  ratio : 0 ≤ split.textRatio ∧ split.textRatio < 1

/-- The figures add up where components and patterns are as they should be, one by one. -/
theorem addsUp_of_each (limit : ∀ c ∈ split.components, (c.depth : Int) ≤ deepest)
    (texts : ∀ c ∈ split.components, c.content.textLength < size c.markup)
    (confidences : ∀ p ∈ split.patterns, 0 ≤ p.confidence ∧ p.confidence ≤ 1) :
    AddsUp deepest split where
  total := rfl
  types := by rw [byType, sumOf_values_tally, List.length_map, total]
  roles := by rw [byRole, sumOf_values_tally, List.length_map, total]
  depths := by rw [byDepth, sumOf_values_tally, List.length_map, total]
  limit := limit
  deepest := maxDepth_le limit
  confidence := averageConfidence_bounds confidences
  ratio := textRatio_bounds texts

end

/-- Nothing that was split adds up. -/
theorem addsUp_nothing (deepest : Int) : AddsUp deepest {} :=
  addsUp_of_each (fun _ h => absurd h List.not_mem_nil) (fun _ h => absurd h List.not_mem_nil)
    fun _ h => absurd h List.not_mem_nil

/-! ## Pages -/

section
variable {o : SplitOptions Rat} {r : ReadOptions} {markup : Option String} {d : Document}
  (read : (Document.read r markup).result = .ok d) {split : Split Rat}
  (given : (ofRoot o d.root).result = .ok split)
include read given

/-- A component has less text than markup. -/
theorem textLength_lt_size_markup {c : Component Rat} (hc : c ∈ split.components) :
    c.content.textLength < size c.markup := by
  have plain := Document.isPlain_of_read read
  rw [(components_and_patterns plain given).1, Extraction.components_eq] at hc
  obtain ⟨p, hp, rfl⟩ := List.mem_map.1 hc
  have element := (Decision.of_mem_extracted (Document.nodup_ids_of_read read) plain
    (List.fst_mem_of_mem_zipIdx hp)).1
  exact Document.size_textContent_lt_write_of_read read element

/-- The figures of a page that was read and split add up. -/
theorem addsUp_ofRoot : AddsUp o.deepest split := by
  refine addsUp_of_each ?_ (fun c hc => textLength_lt_size_markup read given hc) ?_
  · intro c hc
    obtain ⟨n, hn, -, depth, -⟩ := (isClosed_of_read o read given).exists_node hc
    have near := (Bool.and_eq_true_iff.1 (List.mem_filter.1 hn).2).2
    rw [depth]
    exact of_decide_eq_true near
  · intro p hp
    rw [(components_and_patterns (Document.isPlain_of_read read) given).2] at hp
    split at hp
    · exact Pattern.confidence_bounds hp
    · cases hp

end

/-- The figures of a text that was split add up. -/
theorem addsUp_ofText {o : SplitOptions Rat} {markup : Option String} {split : Split Rat}
    (given : (ofText o markup).result = .ok split) : AddsUp o.deepest split := by
  cases markup with
  | none =>
    cases given
    exact addsUp_nothing _
  | some s =>
    rw [ofText] at given
    split at given
    · cases given
      exact addsUp_nothing _
    · obtain ⟨d, read, given⟩ := Outcome.result_bind_eq_ok.1 given
      exact addsUp_ofRoot read given

end Split

/-- A source is a text, or a page that was read from one. -/
def SplitSource.IsRead : SplitSource → Prop
  | .text _ => True
  | .page d => ∃ (r : ReadOptions) (markup : Option String), (Document.read r markup).result = .ok d

end Componentry
