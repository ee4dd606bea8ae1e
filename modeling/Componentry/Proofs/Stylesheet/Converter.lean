import Componentry.Proofs.Outcome
import Componentry.Proofs.Stylesheet.Pass

/-!
# Converters used again

A run starts from nothing but the variables of the last style sheet, which are read only after they
are set. So it comes to what the conversion of the markup is by itself, whatever was converted
before; and so does a style sheet that is written for styles.
-/

set_option autoImplicit false

namespace Componentry
open Componentry.Text Componentry.Markup Componentry.Stylesheet

variable {s : StyleStrategy} {c : Classing}

/-! ## Whole runs -/

namespace StyleConverter

variable {k : StyleConverter}

/-- A converter that has just been reset holds nothing. -/
theorem made_reset (k : StyleConverter) :
    StylePass.Made k.strategy {} { converter := k.reset } :=
  ⟨⟨rfl, rfl, rfl, rfl, by cases k.strategy <;> rfl, rfl⟩, rfl, rfl, rfl, rfl, rfl, rfl⟩

/-- The style sheet that is written shows the rules held. -/
theorem Holds.render (h : k.Holds s c) (o : StyleOptions) (styles : List ElementStyle) :
    (k.render o styles).1 = Stylesheet.write s.header (s.sharedValues o styles) c.rules ∧
      (k.render o styles).2.figures = k.figures ∧ (k.render o styles).2.strategy = s := by
  rw [StyleConverter.render, h.rules, h.strategy]
  split
  · next none =>
    rw [Stylesheet.write, if_pos none]
    exact ⟨rfl, rfl, h.strategy⟩
  · exact ⟨rfl, rfl, rfl⟩

end StyleConverter

namespace StyleStrategy

/-- Utilities add no rules. -/
theorem rules_giveAllUtilities : ∀ (styles : List ElementStyle) (c : Classing),
    (giveAllUtilities c styles).1.rules = c.rules
  | [], _ => rfl
  | style :: rest, c => by
    rw [giveAllUtilities, giveUtilities]
    cases style.declared.entries.mapM withUtility with
    | error fault => rfl
    | ok found => exact rules_giveAllUtilities rest _

/-- The style sheet for styles shows the rules of their classing. -/
theorem write_classing (s : StyleStrategy) (o : StyleOptions) (styles : List ElementStyle) :
    Stylesheet.write s.header (s.sharedValues o styles) (s.classing o styles).1.rules =
      s.sheet o styles := by
  match s with
  | .utility =>
    rw [classing, rules_giveAllUtilities]
    rfl
  | .scoped => rfl
  | .plain => rfl

end StyleStrategy

namespace StyleConverter

/-- Whatever a converter holds, it converts markup as its strategy does, with the same figures. -/
theorem convert_eq (k : StyleConverter) (o : StyleOptions) (markup : String) :
    (k.convert o markup).1 = (k.strategy.convert o markup).result ∧
      (k.convert o markup).2.figures = (k.strategy.convert o markup).figures ∧
      (k.convert o markup).2.strategy = k.strategy := by
  rw [StyleConverter.convert, StyleStrategy.convert]
  cases Tree.parse markup with
  | error fault => exact ⟨rfl, rfl, rfl⟩
  | ok tree =>
    have all := (made_reset k).giveAll o (Tree.stylesIn tree.children)
    rw [← StyleStrategy.classing_eq] at all
    have written := StyleStrategy.write_classing k.strategy o (Tree.stylesIn tree.children)
    simp only [StylePass.trees_eq, StylePass.map_run, StyleStrategy.convertTree,
      Tree.ofTree_eq_stylesIn]
    -- The pass of the converter and the classing of the strategy are run side by side.
    cases given : StylePass.giveAll o (Tree.stylesIn tree.children) { converter := k.reset } with
    | mk result p =>
    rw [given] at all
    cases classed : k.strategy.classing o (Tree.stylesIn tree.children) with
    | mk c fault? =>
    rw [classed] at all written
    cases fault? with
    | some fault =>
      obtain ⟨rfl, strategy, figures⟩ := all
      exact ⟨rfl, figures, strategy⟩
    | none =>
      cases result with
      | error fault => exact all.elim
      | ok names =>
        obtain ⟨named, met, made⟩ := all
        have named : c.given = names := named
        have met : Tree.stylesIn tree.children = p.styles := met.symm
        rw [met] at written ⊢
        obtain ⟨sheet, figures, strategy⟩ := made.holds.render o p.styles
        refine ⟨?_, ?_, strategy⟩
        · simp only [strategy, sheet, written, made.classes, made.warnings, named]
        · simp only [strategy, figures, made.figures, made.met]

/-- A converter that gives rules holds what the classing holds. -/
theorem Holds.foldl_ruleClass (ruled : s ≠ .utility) (o : StyleOptions) :
    ∀ (styles : List ElementStyle) {k : StyleConverter} {c : Classing}, k.Holds s c →
      (styles.foldl (fun k style => (k.ruleClass o style).2) k).Holds s
        (styles.foldl (s.giveRule o) c)
  | [], _, _, h => h
  | style :: rest, _, _, h => Holds.foldl_ruleClass ruled o rest (h.ruleClass ruled o style).holds

/-- Whatever a converter holds, it writes the style sheet that its strategy has for styles. -/
theorem generate_eq (k : StyleConverter) (o : StyleOptions) (styles : List ElementStyle) :
    (k.generate o styles).1 = k.strategy.sheet o styles ∧
      (k.generate o styles).2.strategy = k.strategy := by
  rw [generate]
  by_cases ruled : k.strategy = .utility
  · rw [ruled]
    exact ⟨rfl, ruled⟩
  · have held := Holds.foldl_ruleClass ruled o styles (made_reset k).holds
    obtain ⟨sheet, -, strategy⟩ := held.render o styles
    have written : Stylesheet.write k.strategy.header (k.strategy.sharedValues o styles)
        (k.strategy.rulesFor o styles).rules = k.strategy.sheet o styles := by
      match k.strategy, ruled with
      | .scoped, _ => rfl
      | .plain, _ => rfl
    rw [← written]
    split
    · next utility => exact absurd utility ruled
    · exact ⟨sheet, strategy⟩
    · exact ⟨sheet, strategy⟩

end StyleConverter

/-! ## Calls before a conversion -/

/-- A call of a converter. -/
inductive StyleCall where
  | convert (o : StyleOptions) (markup : String)
  | generate (o : StyleOptions) (styles : List ElementStyle)
  | reset

namespace StyleConverter

/-- What a call leaves of a converter, also if it is refused. -/
def call (k : StyleConverter) : StyleCall → StyleConverter
  | .convert o markup => (k.convert o markup).2
  | .generate o styles => (k.generate o styles).2
  | .reset => k.reset

/-- What is left of a converter after some calls. -/
def after (k : StyleConverter) (calls : List StyleCall) : StyleConverter := calls.foldl call k

/-- No call changes the strategy. -/
theorem strategy_call (k : StyleConverter) (c : StyleCall) : (k.call c).strategy = k.strategy := by
  cases c with
  | convert o markup => exact (k.convert_eq o markup).2.2
  | generate o styles => exact (k.generate_eq o styles).2
  | reset => rfl

/-- No run of calls changes the strategy. -/
theorem strategy_after (k : StyleConverter) (calls : List StyleCall) :
    (k.after calls).strategy = k.strategy := by
  induction calls generalizing k with
  | nil => rfl
  | cons c rest ih => exact (ih (k.call c)).trans (k.strategy_call c)

/-- A converter that was used converts markup as a new one does, with the same figures; and the
style sheet that comes of it is the one that any converter of the strategy, used or new, writes for
the styles in the markup. -/
theorem used_converter_is_new (s : StyleStrategy) (before before' : List StyleCall)
    (o : StyleOptions) (markup : String) :
    let new : StyleConverter := { strategy := s }
    let (result, used) := (new.after before).convert o markup
    result = (new.convert o markup).1 ∧ used.figures = (new.convert o markup).2.figures ∧
      ∀ styled, result = .ok styled → ∃ styles, ElementStyle.ofMarkup markup = .ok styles ∧
        styled.sheet = ((new.after before').generate o styles).1 := by
  intro new
  obtain ⟨result, figures, -⟩ := (new.after before).convert_eq o markup
  obtain ⟨result', figures', -⟩ := new.convert_eq o markup
  rw [strategy_after] at result figures
  refine ⟨result.trans result'.symm, figures.trans figures'.symm, fun styled given => ?_⟩
  have given : (s.convert o markup).result = .ok styled := result.symm.trans given
  rw [StyleStrategy.convert] at given
  cases parsed : Tree.parse markup with
  | error fault =>
    rw [parsed] at given
    cases given
  | ok tree =>
    refine ⟨ElementStyle.ofTree tree, by rw [ElementStyle.ofMarkup, parsed]; rfl, ?_⟩
    rw [((new.after before').generate_eq o _).1, strategy_after]
    simp only [parsed, StyleStrategy.convertTree] at given
    split at given
    · cases given
    · cases given
      rfl

/-- Values that were shared before leave no variable behind. -/
theorem used_converter_is_new_red :
    let o : StyleOptions := { usesVariables := true, shares := true, classStart := "c" }
    let new : StyleConverter := { strategy := .scoped }
    let before : List StyleCall :=
      [.convert o "<p style=\"top: 0\">x</p><i style=\"top: 0\">y</i>"]
    let markup := "<p style=\"color: red\">x</p><b style=\"color: red\">y</b>"
    let sheet := "/*\n * CSS Modules - Auto-generated\n" ++
      " * Class names are scoped to prevent conflicts\n */\n\n:root \x7b\n  --css-var-0: red;\n" ++
      "\x7d\n\n.c_90ad96 \x7b\n  color: var(--css-var-0);\n\x7d\n"
    ∃ styled styles, ((new.after before).convert o markup).1 = .ok styled ∧
      styled.sheet = sheet ∧ ElementStyle.ofMarkup markup = .ok styles ∧
      styled.sheet = ((new.after before).generate o styles).1 := by
  intro o new before markup sheet
  have known : ((new.after before).convert o markup).1.toOption.map StyledMarkup.sheet =
      some sheet := by decide +kernel
  obtain ⟨styled, given, written⟩ := exists_ok_of_toOption_map known
  obtain ⟨styles, found, same⟩ :=
    (used_converter_is_new .scoped before before o markup).2.2 styled given
  exact ⟨styled, styles, given, written, found, same⟩

end StyleConverter

end Componentry
