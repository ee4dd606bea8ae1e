import Componentry.Proofs.Stylesheet.Converter
import Componentry.Proofs.Text.Numeral

/-!
# Variables for repeated values

A style sheet with variables shows, for every value that is declared more than once, a reference to
the variable that stands for it. Values are counted over the styles and shown by the rules; a rule
declares what its style declares, so both have the same values, each without its mark. Putting the
value of its variable in the place of each reference gives the style sheet without variables, rule
for rule and declaration for declaration.
-/

set_option autoImplicit false

namespace Componentry.Stylesheet
open Componentry.Text

/-! ## What is shown -/

/-- What a style sheet shows for a value: the value, or a reference to the variable that stands for
it. A value that is itself written as a reference to a variable is shown as it is. -/
inductive Shown where
  | plain (value : String)
  | reference (name : String)
deriving Repr, DecidableEq

/-- How a shown value is written. -/
def Shown.text : Shown → String
  | .plain value => value
  | .reference name => "var(" ++ name ++ ")"

/-- What is shown for a value. -/
def Shown.ofValue (sharedValues : Dict String) (value : String) : Shown :=
  match sharedValues.get? value with
  | some name => .reference name
  | none => .plain value

/-- A reference is replaced by the value that its variable is declared with. -/
def Shown.expand (declared : List (String × String)) : Shown → Shown
  | .plain value => .plain value
  | .reference name =>
    match declared.lookup name with
    | some value => .plain value
    | none => .reference name

/-- A declaration as it is shown. -/
structure ShownDeclaration where
  property : String
  value : Shown
  important : Bool
deriving Repr, DecidableEq

namespace ShownDeclaration

/-- What is shown for a declaration. -/
def of (sharedValues : Dict String) (d : Declaration) : ShownDeclaration :=
  { property := d.property
    value := .ofValue sharedValues d.value
    important := d.important }

/-- The line of a shown declaration. -/
def line (d : ShownDeclaration) : String :=
  "  " ++ d.property ++ ": " ++ d.value.text
    ++ (if d.important then " " ++ importantMark else "") ++ ";"

/-- The declaration with the value of its variable in the place of a reference. -/
def expand (declared : List (String × String)) (d : ShownDeclaration) : ShownDeclaration :=
  { d with value := d.value.expand declared }

end ShownDeclaration

/-- A rule as it is shown. -/
structure ShownRule where
  selectors : List String
  declarations : List ShownDeclaration
  media : Option String
deriving Repr, DecidableEq

namespace ShownRule

/-- What is shown for a rule. -/
def of (sharedValues : Dict String) (r : Rule) : ShownRule :=
  { selectors := r.selectors
    declarations := r.declarations.map (ShownDeclaration.of sharedValues)
    media := r.media }

/-- The lines of a shown rule. -/
def lines (r : ShownRule) : List String :=
  let media := r.media.getD ""
  (if media == "" then [] else [media ++ " \x7b"])
    ++ [join ", " r.selectors ++ " \x7b"]
    ++ r.declarations.map ShownDeclaration.line
    ++ ["\x7d"]
    ++ (if media == "" then [] else ["\x7d"])

/-- The rule with values in the places of references. -/
def expand (declared : List (String × String)) (r : ShownRule) : ShownRule :=
  { r with declarations := r.declarations.map (ShownDeclaration.expand declared) }

end ShownRule

/-- A style sheet as it is shown: its header, the variables that it declares, by name, and its
rules. -/
structure ShownSheet where
  header : List String
  declared : List (String × String)
  rules : List ShownRule
deriving Repr, DecidableEq

namespace ShownSheet

/-- What is shown of a style sheet. -/
def of (header : List String) (sharedValues : Dict String) (rules : List Rule) : ShownSheet :=
  { header
    declared := sharedValues.entries.map Prod.swap
    rules := rules.map (ShownRule.of sharedValues) }

/-- The lines that declare the variables. -/
def variableLines (s : ShownSheet) : List String :=
  if s.declared.isEmpty then []
  else [":root \x7b"]
    ++ s.declared.map (fun (name, value) => "  " ++ name ++ ": " ++ value ++ ";")
    ++ ["\x7d", ""]

/-- The text of a style sheet; without a rule there is none. -/
def text (s : ShownSheet) : String :=
  if s.rules.isEmpty then ""
  else join "\n" (["/*"] ++ s.header.map (fun l => " * " ++ l) ++ [" */", ""]
    ++ s.variableLines ++ s.rules.flatMap fun r => r.lines ++ [""])

/-- The style sheet without its variables, each reference replaced by the value it stands for. -/
def expanded (s : ShownSheet) : ShownSheet :=
  { header := s.header
    declared := []
    rules := s.rules.map (ShownRule.expand s.declared) }

end ShownSheet

/-! ## How it is written -/

/-- A value is written as it is shown. -/
theorem Shown.text_ofValue (sharedValues : Dict String) (value : String) :
    (Shown.ofValue sharedValues value).text = writeValue sharedValues value := by
  unfold Shown.ofValue writeValue
  cases sharedValues.get? value <;> rfl

/-- A declaration is written as it is shown. -/
theorem ShownDeclaration.line_of (sharedValues : Dict String) (d : Declaration) :
    (ShownDeclaration.of sharedValues d).line = d.line sharedValues := by
  rw [ShownDeclaration.line, Declaration.line, ShownDeclaration.of, Shown.text_ofValue]

/-- A rule is written as it is shown. -/
theorem ShownRule.lines_of (sharedValues : Dict String) (r : Rule) :
    (ShownRule.of sharedValues r).lines = r.lines sharedValues := by
  have declarations : (ShownRule.of sharedValues r).declarations.map ShownDeclaration.line =
      r.declarations.map (Declaration.line sharedValues) := by
    rw [ShownRule.of, List.map_map]
    exact List.map_congr_left fun d _ => ShownDeclaration.line_of sharedValues d
  rw [ShownRule.lines, Rule.lines, declarations]
  rfl

namespace ShownSheet

/-- The variables are written as they are shown. -/
theorem variableLines_of (header : List String) (sharedValues : Dict String) (rules : List Rule) :
    (of header sharedValues rules).variableLines = Stylesheet.variableLines sharedValues := by
  rw [variableLines, Stylesheet.variableLines, of, List.isEmpty_map, List.map_map]
  rfl

/-- A style sheet is written as the text of what it shows. -/
theorem text_of (header : List String) (sharedValues : Dict String) (rules : List Rule) :
    (of header sharedValues rules).text = write header sharedValues rules := by
  have lines : (of header sharedValues rules).rules.flatMap (fun r => r.lines ++ [""]) =
      rules.flatMap fun r => r.lines sharedValues ++ [""] := by
    rw [of, List.flatMap_map]
    simp only [ShownRule.lines_of]
  have none : (of header sharedValues rules).rules.isEmpty = rules.isEmpty := List.isEmpty_map
  rw [text, write, lines, none, variableLines_of]
  rfl

end ShownSheet

/-! ## The variables of styles -/

/-- The values that styles declare, each without its mark, as often as they are declared. -/
def declaredValues (styles : List ElementStyle) : List String :=
  styles.flatMap fun s => s.declared.values.map fun value => (splitImportant value).1

/-- The values of the declarations of all styles, in a row. -/
theorem map_value_declarations (styles : List ElementStyle) :
    (styles.flatMap ElementStyle.declarations).map Declaration.value = declaredValues styles := by
  rw [List.map_flatMap, declaredValues]
  congr 1
  funext s
  rw [ElementStyle.declarations, Dict.values, List.map_map, List.map_map]
  rfl

/-- A value is counted as often as it is declared. -/
theorem getD_get?_valueCounts (styles : List ElementStyle) (value : String) :
    ((valueCounts styles).get? value).getD 0 = (declaredValues styles).count value := by
  rw [valueCounts, Dict.getD_get?_foldl_count, map_value_declarations]

/-- The name of the variable with a number. -/
def variableName (number : Nat) : String := "--css-var-" ++ natText number

/-- The number of a variable is told by its name. -/
theorem variableName_injective : Function.Injective variableName := by
  intro m n same
  exact natText_injective (String.append_right_inj _ |>.1 same)

/-- Values that are given variables one after the other have them numbered in that order. -/
theorem entries_foldl_number (l : List (String × Nat)) (d : Dict String)
    (nodup : (d.keys ++ l.map Prod.fst).Nodup) :
    (l.foldl (fun d e => d.put e.1 (variableName d.size)) d).entries =
      d.entries ++ (l.zipIdx d.size).map fun e => (e.1.1, variableName e.2) := by
  induction l generalizing d with
  | nil => simp
  | cons e l ih =>
    have fresh : e.1 ∉ d.keys := by
      rw [List.map_cons, List.nodup_append] at nodup
      exact fun known => nodup.2.2 e.1 known e.1 List.mem_cons_self rfl
    have put : (d.put e.1 (variableName d.size)).entries =
        d.entries ++ [(e.1, variableName d.size)] := Dict.putEntry_of_not_mem fresh
    have size : (d.put e.1 (variableName d.size)).size = d.size + 1 := by
      rw [Dict.size, put, List.length_append]
      rfl
    rw [List.foldl_cons, ih, put, size, List.zipIdx_cons, List.map_cons, List.append_assoc]
    · rfl
    · rwa [Dict.keys_put, if_neg fresh, List.append_assoc]

/-- The variables are numbered in the order in which their values first come. -/
theorem entries_repeatedValues (styles : List ElementStyle) :
    (repeatedValues styles).entries =
      ((((valueCounts styles).entries.filter fun e => 2 ≤ e.2).map Prod.fst).zipIdx).map fun e =>
        (e.1, variableName e.2) := by
  have nodup : (((valueCounts styles).entries.filter fun e => 2 ≤ e.2).map Prod.fst).Nodup :=
    (valueCounts styles).distinct.sublist (List.filter_sublist.map Prod.fst)
  have entries := entries_foldl_number ((valueCounts styles).entries.filter fun e => 2 ≤ e.2)
    Dict.empty nodup
  rw [List.zipIdx_map, List.map_map]
  exact entries

/-- A value has a variable exactly when it is declared more than once. -/
theorem mem_keys_repeatedValues {styles : List ElementStyle} {value : String} :
    value ∈ (repeatedValues styles).keys ↔ 2 ≤ (declaredValues styles).count value := by
  have keys : (repeatedValues styles).keys =
      ((valueCounts styles).entries.filter fun e => 2 ≤ e.2).map Prod.fst := by
    rw [Dict.keys, entries_repeatedValues, List.map_map]
    exact List.zipIdx_map_fst 0 _
  rw [keys, ← getD_get?_valueCounts]
  constructor
  · intro known
    obtain ⟨⟨value, n⟩, he, rfl⟩ := List.mem_map.1 known
    obtain ⟨he, often⟩ := List.mem_filter.1 he
    rw [Dict.get?_eq_some_iff_mem.2 he]
    simpa using often
  · intro often
    cases count : (valueCounts styles).get? value with
    | none =>
      rw [count] at often
      cases often
    | some n =>
      rw [count] at often
      refine List.mem_map.2 ⟨(value, n), List.mem_filter.2 ⟨?_, by simpa using often⟩, rfl⟩
      exact Dict.get?_eq_some_iff_mem.1 count

/-- Different values have different variables. -/
theorem nodup_values_repeatedValues (styles : List ElementStyle) :
    (repeatedValues styles).values.Nodup := by
  rw [Dict.values, entries_repeatedValues, List.map_map]
  have names (l : List String) :
      l.zipIdx.map (Prod.snd ∘ fun e => (e.1, variableName e.2)) =
        (List.range' 0 l.length).map variableName := by
    rw [← List.zipIdx_map_snd 0 l, List.map_map]
    rfl
  rw [names]
  exact List.Nodup.map variableName_injective List.nodup_range'

/-! ## References -/

/-- The reference that a sheet shows for a value is to the variable that the value has. -/
theorem ofValue_eq_reference_iff {sharedValues : Dict String} {value name : String} :
    Shown.ofValue sharedValues value = .reference name ↔
      (name, value) ∈ sharedValues.entries.map Prod.swap := by
  have swapped : (name, value) ∈ sharedValues.entries.map Prod.swap ↔
      (value, name) ∈ sharedValues.entries := by simp
  rw [swapped, ← Dict.get?_eq_some_iff_mem]
  unfold Shown.ofValue
  cases sharedValues.get? value with
  | none => simp
  | some other => simp

/-- A value without a variable is shown as it is. -/
theorem ofValue_of_not_mem {sharedValues : Dict String} {value : String}
    (h : value ∉ sharedValues.keys) : Shown.ofValue sharedValues value = .plain value := by
  unfold Shown.ofValue
  cases known : sharedValues.get? value with
  | none => rfl
  | some name =>
    exact absurd (List.mem_map_of_mem (Dict.get?_eq_some_iff_mem.1 known)) h

/-- Where no two values have one variable, a reference stands for the value it was put for. -/
theorem expand_ofValue {sharedValues : Dict String} (apart : sharedValues.values.Nodup)
    (value : String) :
    (Shown.ofValue sharedValues value).expand (sharedValues.entries.map Prod.swap) =
      .plain value := by
  unfold Shown.ofValue
  cases known : sharedValues.get? value with
  | none => rfl
  | some name =>
    have names : ((sharedValues.entries.map Prod.swap).map Prod.fst).Nodup := by
      rw [List.map_map]
      exact apart
    have mem : (name, value) ∈ sharedValues.entries.map Prod.swap :=
      List.mem_map.2 ⟨(value, name), Dict.get?_eq_some_iff_mem.1 known, rfl⟩
    have found := (Dict.lookup_eq_some_iff_mem names).2 mem
    dsimp only [Shown.expand]
    rw [found]

namespace ShownSheet

/-- Where no two values have one variable, the style sheet without its variables is the one that
never had any. -/
theorem expanded_of {sharedValues : Dict String} (apart : sharedValues.values.Nodup)
    (header : List String) (rules : List Rule) :
    (of header sharedValues rules).expanded = of header Dict.empty rules := by
  have declaration (d : Declaration) :
      (ShownDeclaration.of sharedValues d).expand (sharedValues.entries.map Prod.swap) =
        ShownDeclaration.of Dict.empty d := by
    rw [ShownDeclaration.expand, ShownDeclaration.of, expand_ofValue apart]
    rfl
  have rule (r : Rule) :
      (ShownRule.of sharedValues r).expand (sharedValues.entries.map Prod.swap) =
        ShownRule.of Dict.empty r := by
    rw [ShownRule.expand, ShownRule.of, List.map_map]
    simp only [Function.comp_def, declaration]
    rfl
  rw [expanded, of, List.map_map]
  simp only [Function.comp_def, rule]
  rfl

/-! ## Sheets with and without variables -/

/-- What the sheet with scoped class names shows for styles. -/
def ofStyles (o : StyleOptions) (styles : List ElementStyle) : ShownSheet :=
  of StyleStrategy.scoped.header (StyleStrategy.scoped.sharedValues o styles)
    (StyleStrategy.scoped.rulesFor o styles).rules

/-- What is shown for a declaration of a style: its property, its mark, and its value without the
mark; in the place of the value stands a reference where a variable is declared for it. -/
structure IsShown (declared : List (String × String)) (written : String × String)
    (d : ShownDeclaration) : Prop where
  property : d.property = written.1
  important : d.important = (splitImportant written.2).2
  reference : ∀ name, d.value = .reference name ↔ (name, (splitImportant written.2).1) ∈ declared
  plain : ∀ value, d.value = .plain value ↔
    value = (splitImportant written.2).1 ∧ value ∉ declared.map Prod.snd

/-- A sheet that declares each value of the styles that comes more than once, under a name of its
own, and refers to it by that name wherever a rule shows the value. -/
structure IsHoisted (styles : List ElementStyle) (s : ShownSheet) : Prop where
  names : (s.declared.map Prod.fst).Nodup
  values : (s.declared.map Prod.snd).Nodup
  repeated : ∀ value, value ∈ s.declared.map Prod.snd ↔ 2 ≤ (declaredValues styles).count value
  rules : ∀ r ∈ s.rules, r.media = none ∧ ∃ style ∈ styles,
    List.Forall₂ (IsShown s.declared) style.declared.entries r.declarations

/-- Turned round, the values of the entries are the keys. -/
theorem map_snd_swap (d : Dict String) : (d.entries.map Prod.swap).map Prod.snd = d.keys := by
  rw [List.map_map]
  rfl

/-- Turned round, the keys of the entries are the values. -/
theorem map_fst_swap (d : Dict String) : (d.entries.map Prod.swap).map Prod.fst = d.values := by
  rw [List.map_map]
  rfl

/-- What is written for a declaration shows it, its value by a variable or by itself. -/
theorem isShown_of (sharedValues : Dict String) (written : String × String) :
    IsShown (sharedValues.entries.map Prod.swap) written
      (.of sharedValues (Declaration.of written.1 written.2)) where
  property := rfl
  important := rfl
  reference := fun _ => ofValue_eq_reference_iff
  plain := by
    intro value
    rw [map_snd_swap]
    show Shown.ofValue sharedValues (splitImportant written.2).1 = .plain value ↔ _
    by_cases known : (splitImportant written.2).1 ∈ sharedValues.keys
    · obtain ⟨⟨_, name⟩, he, rfl⟩ := List.mem_map.1 known
      rw [ofValue_eq_reference_iff.2 (List.mem_map_of_mem he)]
      constructor
      · rintro ⟨⟩
      · rintro ⟨rfl, unknown⟩
        exact absurd known unknown
    · rw [ofValue_of_not_mem known, Shown.plain.injEq, eq_comm]
      constructor
      · rintro rfl
        exact ⟨rfl, known⟩
      · exact And.left

/-- Every rule shows what a style declares. -/
theorem isHoisted_ofStyles (o : StyleOptions) (styles : List ElementStyle) :
    (ofStyles { o with usesVariables := true } styles).IsHoisted styles where
  names := by
    rw [ofStyles, of, map_fst_swap]
    exact nodup_values_repeatedValues styles
  values := by
    rw [ofStyles, of, map_snd_swap]
    exact Dict.nodup_keys _
  repeated := by
    intro value
    rw [ofStyles, of, map_snd_swap]
    exact mem_keys_repeatedValues
  rules := by
    intro r hr
    obtain ⟨rule, hrule, rfl⟩ := List.mem_map.1 hr
    obtain ⟨made, classed⟩ :=
      StyleStrategy.exists_isClassed .scoped { o with usesVariables := true } styles
    rw [classed.rules] at hrule
    obtain ⟨m, hm, rfl⟩ := List.mem_map.1 hrule
    refine ⟨rfl, m.1, classed.from_ m hm, ?_⟩
    show List.Forall₂ _ _ ((m.1.declared.entries.map _).map _)
    rw [List.map_map, List.forall₂_map_right_iff, List.forall₂_same]
    exact fun written _ => isShown_of _ written

end ShownSheet

/-- Declaring repeated values as variables keeps every rule. Both sheets that a converter writes
for styles are the texts of what they show; with variables, exactly the values that the styles
declare more than once are declared, each under its own name, and the rules refer to them exactly
where they show such a value; and the sheet with each reference replaced by the value it stands for
is the sheet without variables. -/
theorem hoisting_keeps_rules (k : StyleConverter) (o : StyleOptions) (styles : List ElementStyle) :
    let converter : StyleConverter := { k with strategy := .scoped }
    let hoisting : StyleOptions := { o with usesVariables := true }
    let plain : StyleOptions := { o with usesVariables := false }
    (converter.generate hoisting styles).1 = (ShownSheet.ofStyles hoisting styles).text ∧
      (converter.generate plain styles).1 = (ShownSheet.ofStyles plain styles).text ∧
      (ShownSheet.ofStyles hoisting styles).IsHoisted styles ∧
      (ShownSheet.ofStyles hoisting styles).expanded = ShownSheet.ofStyles plain styles := by
  intro converter hoisting plain
  have written (o : StyleOptions) :
      (converter.generate o styles).1 = (ShownSheet.ofStyles o styles).text := by
    rw [(converter.generate_eq o styles).1, ShownSheet.ofStyles, ShownSheet.text_of]
    rfl
  refine ⟨written hoisting, written plain, ShownSheet.isHoisted_ofStyles o styles, ?_⟩
  exact ShownSheet.expanded_of (nodup_values_repeatedValues styles) _ _

/-- A value that is written as a reference stays apart from the references to variables. -/
example :
    let styles : List ElementStyle :=
      [⟨"p", Dict.ofList [("color", "red"), ("top", "0")]⟩,
        ⟨"b", Dict.ofList [("color", "red !important")]⟩,
        ⟨"i", Dict.ofList [("color", "var(--css-var-0)")]⟩]
    let sheet := ShownSheet.ofStyles { usesVariables := true, classStart := "c" } styles
    sheet.declared = [("--css-var-0", "red")] ∧
      sheet.rules.map (fun r => r.declarations.map ShownDeclaration.value) =
        [[.reference "--css-var-0", .plain "0"], [.reference "--css-var-0"],
          [.plain "var(--css-var-0)"]] := by
  decide +kernel

end Componentry.Stylesheet
