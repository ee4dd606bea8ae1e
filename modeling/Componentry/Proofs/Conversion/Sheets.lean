import Componentry.Proofs.Conversion.Content
import Componentry.Proofs.Files.Placement
import Componentry.Proofs.Stylesheet.Extraction
import Componentry.Proofs.Stylesheet.Link

/-!
# Style sheets of a conversion

A conversion refers to its style sheet in two ways: its components import it, and a link to it may
be set before the page. There is a style sheet if any element declares a style, and it is written
under the last part of its name; but the link is set whatever the page declares, and both ways name
the sheet in full. So what is referred to is found just where neither makes a difference.
-/

set_option autoImplicit false

namespace Componentry
open Componentry.Text Componentry.Markup Componentry.Stylesheet

namespace StyleStrategy

variable {s : StyleStrategy} {o : StyleOptions} {markup : String}

/-- A style sheet is empty just when it has no rules. -/
theorem write_eq_empty_iff (header : List String) (sharedValues : Dict String)
    (rules : List Rule) : Stylesheet.write header sharedValues rules = "" ↔ rules = [] := by
  cases rules with
  | nil => exact iff_of_true rfl rfl
  | cons rule rest =>
    refine iff_of_false (fun empty => ?_) (List.cons_ne_nil rule rest)
    have opened : "/*".toList <:+: "".toList := by
      rw [← empty]
      exact infix_join List.mem_cons_self
    exact absurd opened (by decide)

/-- A style sheet of rules is empty only where no style is declared. -/
theorem sheet_eq_empty_iff (ruled : s ≠ .utility) (styles : List ElementStyle) :
    s.sheet o styles = "" ↔ styles = [] := by
  have written : s.sheet o styles = Stylesheet.write s.header (s.sharedValues o styles)
      (s.rulesFor o styles).rules := by
    cases s with
    | utility => exact absurd rfl ruled
    | _ => rfl
  obtain ⟨made, h⟩ := exists_isClassed s o styles
  rw [written, write_eq_empty_iff]
  constructor
  · intro none
    rw [h.rules, List.map_eq_nil_iff] at none
    cases styles with
    | nil => rfl
    | cons style rest =>
      -- the first style has the class of a rule
      obtain ⟨name, others, ⟨m, hm, -⟩, -⟩ := List.forall₂_cons_left_iff.1 h.given
      rw [none] at hm
      cases hm
  · rintro rfl
    rfl

end StyleStrategy

namespace ConversionOptions

variable {o : ConversionOptions} {markup : Option String} {file : String}

/-- The line that imports a style sheet. -/
def importLine (file : String) : String := "import '../styles/" ++ file ++ "';"

/-- The inline styles of a page are converted. -/
structure ConvertsStyles (o : ConversionOptions) (markup : Option String) (s : StyleStrategy)
    (text : String) (tree : Tree) (styled : StyledMarkup) : Prop where
  markup : markup = some text
  wanted : keepingStrategies.contains (lower o.strategy) = false
  strategy : StyleStrategy.ofName (lower o.strategy) = .ok s
  parsed : Tree.parse text = .ok tree
  converted : (s.convert o.styles text).result = .ok styled

/-- A conversion sets a link to a style sheet before the page. -/
def Links (o : ConversionOptions) (markup : Option String) (file : String) : Prop :=
  ∃ s text tree styled, o.ConvertsStyles markup s text tree styled ∧
    styled.markup = StyleStrategy.linkLine file ++ s.unlinked o.styles text tree

/-- A conversion refers to a style sheet: a component that is written imports it, or a link to it is
set before the page. -/
inductive RefersTo (o : ConversionOptions) (markup : Option String) (c : Conversion)
    (file : String) : Prop
  | imported {f : GeneratedFile} {page : Outcome Node} (mem : f ∈ c.files)
      (written : o.IsFileOf (sheetImports (o.styledPage markup).sheet) page f)
      (line : importLine file ∈ sheetImports (o.styledPage markup).sheet) : RefersTo o markup c file
  | linked (link : o.Links markup file) : RefersTo o markup c file

/-- Some element of a page declares a style. -/
def DeclaresStyle (markup : Option String) : Prop :=
  ∃ text styles, markup = some text ∧ ElementStyle.ofMarkup text = .ok styles ∧ styles ≠ []

/-- A style sheet that is referred to is a file of the conversion, and is written under its name. -/
structure Resolves (c : Conversion) (base : FilePath) (t : FileTree) (file : String) : Prop where
  exists_file : ∃ f ∈ c.files, f.kind = .style ∧ f.name = file ∧
    f.target base = GeneratedFile.pathOf base .style file ∧
    t.read (GeneratedFile.pathOf base .style file) = .ok f.content

section

variable {s : StyleStrategy} {text : String} {tree : Tree} {styled : StyledMarkup}

/-- The style sheet of a page whose styles are converted. -/
theorem ConvertsStyles.sheet_eq (h : o.ConvertsStyles markup s text tree styled) :
    (o.styledPage markup).sheet = if styled.sheet == "" then none
      else some { name := s.sheetName o.styles, content := styled.sheet, kind := .style } := by
  rw [styledPage]
  unfold convertStyles
  simp only [h.markup, h.wanted, h.strategy, h.converted, Outcome.ofExcept, Outcome.bind]
  cases empty : styled.sheet == "" <;> rfl

/-- A link to plain rules is set before a page that holds none. -/
theorem ConvertsStyles.links (h : o.ConvertsStyles markup .plain text tree styled)
    (separate : o.separateFile = true)
    (free : contains (StyleStrategy.plain.unlinked o.styles text tree) "<link" = false) :
    o.Links markup (StyleStrategy.plain.sheetName o.styles) := by
  obtain ⟨tree', parsed, marked, -⟩ := StyleStrategy.exists_of_convert h.converted
  rw [h.parsed, Except.ok.injEq] at parsed
  subst parsed
  refine ⟨.plain, text, tree, styled, h, ?_⟩
  rw [marked]
  exact StyleStrategy.linked_plain separate free

/-- A page whose styles are converted to rules has a style sheet exactly if it declares a style. -/
theorem ConvertsStyles.exists_sheet_iff (h : o.ConvertsStyles markup s text tree styled)
    (ruled : s ≠ .utility) : DeclaresStyle markup ↔
      ∃ f, (o.styledPage markup).sheet = some f ∧ f.name = s.sheetName o.styles := by
  obtain ⟨tree', parsed, -, sheet⟩ := StyleStrategy.exists_of_convert h.converted
  have empty := StyleStrategy.sheet_eq_empty_iff (o := o.styles) ruled (ElementStyle.ofTree tree')
  have declares : DeclaresStyle markup ↔ ElementStyle.ofTree tree' ≠ [] := by
    have styles : ElementStyle.ofMarkup text = .ok (ElementStyle.ofTree tree') := by
      rw [ElementStyle.ofMarkup, parsed]
      rfl
    constructor
    · rintro ⟨text', styles', same, styles'', some_⟩
      rw [h.markup, Option.some.injEq] at same
      rw [← same, styles, Except.ok.injEq] at styles''
      rwa [styles'']
    · exact fun some_ => ⟨text, _, h.markup, styles, some_⟩
  rw [declares, h.sheet_eq, sheet, ne_eq, ← empty]
  by_cases none : s.sheet o.styles (ElementStyle.ofTree tree') = ""
  · rw [if_pos (beq_iff_eq.2 none)]
    exact iff_of_false (not_not_intro none) (by rintro ⟨f, found, -⟩; cases found)
  · rw [if_neg (by rwa [beq_iff_eq])]
    exact iff_of_true none ⟨_, rfl, rfl⟩

end

/-- A link names the style sheet of plain rules, which there is if a style is declared. -/
theorem Links.exists_sheet_iff (h : o.Links markup file) : DeclaresStyle markup ↔
    ∃ f, (o.styledPage markup).sheet = some f ∧ f.name = file := by
  obtain ⟨s, text, tree, styled, converts, link⟩ := h
  obtain ⟨tree', parsed, marked, -⟩ := StyleStrategy.exists_of_convert converts.converted
  rw [converts.parsed, Except.ok.injEq] at parsed
  subst parsed
  rw [link] at marked
  rcases s.linked_cases o.styles (s.unlinked o.styles text tree) with same | ⟨rfl, linked⟩
  · -- nothing is set before the page
    exact absurd (marked.trans same) (StyleStrategy.linkLine_append_ne _ _)
  · rw [linked, String.append_left_inj] at marked
    rw [StyleStrategy.linkLine_injective marked]
    exact converts.exists_sheet_iff (by decide)

/-- The line of an import tells its name. -/
theorem importLine_injective : Function.Injective importLine := by
  intro a b same
  unfold importLine at same
  exact (String.append_right_inj _).1 ((String.append_left_inj _).1 same)

/-- An imported style sheet is that of the page. -/
theorem exists_sheet_of_importLine {sheet : Option GeneratedFile}
    (h : importLine file ∈ sheetImports sheet) : ∃ f, sheet = some f ∧ f.name = file := by
  cases sheet with
  | none => cases h
  | some f =>
    change _ ∈ (if endsWith f.name scopedEnding then [] else [importLine f.name]) at h
    by_cases bare : endsWith f.name scopedEnding = true
    · rw [if_pos bare] at h
      cases h
    · rw [if_neg bare, List.mem_singleton] at h
      exact ⟨f, rfl, (importLine_injective h).symm⟩

/-- If a link is set only where a style is declared, what is referred to is the style sheet of the
page. -/
theorem RefersTo.exists_sheet {c : Conversion} (h : o.RefersTo markup c file)
    (declared : o.Links markup file → DeclaresStyle markup) :
    ∃ f, (o.styledPage markup).sheet = some f ∧ f.name = file := by
  cases h with
  | imported mem written line => exact exists_sheet_of_importLine line
  | linked link => exact link.exists_sheet_iff.1 (declared link)

section

variable {settings : Settings} {c : Conversion} (h : (o.convert settings markup).result = .ok c)
  (succeeded : c.succeeded = true)
include h succeeded

/-- The only style sheet among the files of a conversion is that of the page. -/
theorem sheet_of_mem_files {f : GeneratedFile} (mem : f ∈ c.files) (style : f.kind = .style) :
    (o.styledPage markup).sheet = some f := by
  obtain ⟨page, split, files, -, -, generated, all⟩ := convert_eq_ok h succeeded
  obtain ⟨written, eq, each⟩ := written_of_generate generated
  rw [all, eq, List.append_assoc] at mem
  rcases List.mem_append.1 mem with mem | mem
  · obtain ⟨i, hi, rfl⟩ := List.mem_iff_getElem.1 mem
    obtain ⟨identifier, _, _, -, component, -⟩ := each.get (each.length_eq ▸ hi) hi
    rw [List.get_eq_getElem] at component
    rw [component] at style
    cases style
  · rcases List.mem_append.1 mem with mem | mem
    · rw [kind_of_mem_index mem] at style
      cases style
    · exact Option.mem_toList.1 mem

/-- The style sheet of the page is the last file. -/
theorem exists_files_eq_of_sheet {f : GeneratedFile}
    (sheet : (o.styledPage markup).sheet = some f) :
    ∃ others, c.files = others ++ [f] := by
  obtain ⟨page, split, files, -, -, -, all⟩ := convert_eq_ok h succeeded
  rw [sheet] at all
  exact ⟨files.value, all⟩

/-- A style sheet whose class names are not scoped is imported. -/
theorem refersTo_sheet {f : GeneratedFile} (sheet : (o.styledPage markup).sheet = some f)
    (bare : endsWith f.name scopedEnding = false) : o.RefersTo markup c f.name := by
  obtain ⟨page, split, files, -, -, generated, all⟩ := convert_eq_ok h succeeded
  obtain ⟨written, eq, each⟩ := written_of_generate generated
  have line : importLine f.name ∈ sheetImports (o.styledPage markup).sheet := by
    rw [sheet]
    change _ ∈ (if endsWith f.name scopedEnding then [] else [importLine f.name])
    rw [bare, if_neg Bool.false_ne_true]
    exact List.mem_singleton_self _
  -- there is a component, since something is written of every page
  have some_ : o.sources page.value split.value ≠ [] := by
    rw [sources]
    split
    · exact List.cons_ne_nil _ _
    · next nonempty => exact fun none => nonempty (List.map_eq_nil_iff.1 none)
  obtain ⟨first, rest, sources⟩ := List.exists_cons_of_ne_nil some_
  rw [sources, List.map_cons] at each
  obtain ⟨g, others, written', -, rfl⟩ := List.forall₂_cons_left_iff.1 each
  refine .imported (f := g) ?_ written' line
  rw [all, eq]
  simp

variable {base : FilePath} {t t' : FileTree} {paths : List FilePath}
  (placed : t.placeAll base c.files = (t', .ok paths))
include placed

/-- The style sheet of the page is found under its name if its name has no directories. -/
theorem resolves_of_sheet {f : GeneratedFile} (sheet : (o.styledPage markup).sheet = some f)
    (flat : (FilePath.ofText f.name).parts.length ≤ 1) : Resolves c base t' f.name := by
  have style : f.kind = .style := kind_of_mem_sheet sheet
  obtain ⟨others, files⟩ := exists_files_eq_of_sheet h succeeded sheet
  have target := (GeneratedFile.target_eq_pathOf_iff base f).2 flat
  have found := FileTree.read_placeAll (List.forall_mem_nil _) (files ▸ placed)
  rw [style] at target
  refine ⟨⟨f, ?_, style, rfl, target, target ▸ found⟩⟩
  rw [files]
  exact List.mem_concat_self

/-- After a conversion that succeeds and whose files are placed, every style sheet that it refers to
is found under its name exactly if none of these names has directories, and a link is set only
before a page that declares a style. -/
theorem references_resolve_iff :
    (∀ file, o.RefersTo markup c file → Resolves c base t' file) ↔
      (∀ file, o.RefersTo markup c file → (FilePath.ofText file).parts.length ≤ 1) ∧
        ∀ file, o.Links markup file → DeclaresStyle markup := by
  constructor
  · intro all
    constructor
    · intro file refers
      obtain ⟨f, -, style, rfl, target, -⟩ := (all file refers).exists_file
      rw [← style] at target
      exact (GeneratedFile.target_eq_pathOf_iff base f).1 target
    · intro file link
      obtain ⟨f, mem, style, name, -⟩ := (all file (.linked link)).exists_file
      exact link.exists_sheet_iff.2 ⟨f, sheet_of_mem_files h succeeded mem style, name⟩
  · rintro ⟨flat, declared⟩ file refers
    obtain ⟨f, sheet, rfl⟩ := refers.exists_sheet (declared file)
    exact resolves_of_sheet h succeeded placed sheet (flat f.name refers)

end

/-- A conversion to plain rules in a file of their own. -/
def linking : ConversionOptions := { strategy := "vanilla", separateFile := true }

/-- A page that is converted to plain rules and holds no link is linked. -/
theorem links_linking {text : String} (known : ((Tree.parse text).toOption.bind fun tree =>
    (StyleStrategy.plain.convert linking.styles text).result.toOption.map fun _ =>
      contains (StyleStrategy.plain.unlinked linking.styles text tree) "<link") = some false) :
    linking.Links (some text) "styles.css" := by
  obtain ⟨tree, parsed, known⟩ := exists_ok_of_toOption_bind known
  obtain ⟨styled, converted, free⟩ := exists_ok_of_toOption_map known
  have converts : linking.ConvertsStyles (some text) .plain text tree styled :=
    ⟨rfl, by decide +kernel, by rfl, parsed, converted⟩
  exact converts.links rfl free

/-- A page whose conversion succeeds and whose files are placed in a directory below. -/
theorem exists_placed (text : String) (sheets : List String)
    (known : ((linking.convert .standard (some text)).result.toOption.bind fun c =>
      (FileTree.placeAll ⟨"", ["out"]⟩ c.files {}).2.toOption.map fun _ =>
        (c.succeeded, (c.files.filter fun f => f.kind == .style).map GeneratedFile.name)) =
          some (true, sheets)) :
    ∃ c t' paths, (linking.convert .standard (some text)).result = .ok c ∧ c.succeeded = true ∧
      FileTree.placeAll ⟨"", ["out"]⟩ c.files {} = (t', .ok paths) ∧
      (c.files.filter fun f => f.kind == .style).map GeneratedFile.name = sheets := by
  obtain ⟨c, converted, known⟩ := exists_ok_of_toOption_bind known
  cases placed : FileTree.placeAll ⟨"", ["out"]⟩ c.files {} with
  | mk t' result =>
  rw [placed] at known
  obtain ⟨paths, rfl, sums⟩ := exists_ok_of_toOption_map known
  rw [Prod.mk.injEq] at sums
  exact ⟨c, t', paths, converted, sums.1, placed, sums.2⟩

/-- A page with a style is linked to its style sheet, and finds it. -/
theorem references_resolve_styled : ∃ c t' paths,
    (linking.convert .standard (some "<p style=\"color: red\">x</p>")).result = .ok c ∧
      c.succeeded = true ∧ FileTree.placeAll ⟨"", ["out"]⟩ c.files {} = (t', .ok paths) ∧
      linking.RefersTo (some "<p style=\"color: red\">x</p>") c "styles.css" ∧
      ∀ file, linking.RefersTo (some "<p style=\"color: red\">x</p>") c file →
        Resolves c ⟨"", ["out"]⟩ t' file := by
  obtain ⟨c, t', paths, converted, succeeded, placed, -⟩ :=
    exists_placed "<p style=\"color: red\">x</p>" ["styles.css"]
      (by decide +kernel)
  have declares : DeclaresStyle (some "<p style=\"color: red\">x</p>") := by
    have known : (ElementStyle.ofMarkup "<p style=\"color: red\">x</p>").toOption.map
        List.isEmpty = some false := by decide +kernel
    obtain ⟨styles, read, some_⟩ := exists_ok_of_toOption_map known
    exact ⟨_, styles, rfl, read, by rintro rfl; cases some_⟩
  have known : (linking.styledPage (some "<p style=\"color: red\">x</p>")).sheet.map
      GeneratedFile.name = some "styles.css" := by decide +kernel
  obtain ⟨f, sheet, name⟩ := Option.map_eq_some_iff.1 known
  have refers := refersTo_sheet converted succeeded sheet (by rw [name]; decide +kernel)
  refine ⟨c, t', paths, converted, succeeded, placed, name ▸ refers,
    (references_resolve_iff converted succeeded placed).2
      ⟨fun file refers => ?_, fun _ _ => declares⟩⟩
  obtain ⟨g, sheet', rfl⟩ := refers.exists_sheet fun _ => declares
  rw [sheet, Option.some.injEq] at sheet'
  rw [← sheet', name]
  decide +kernel

/-- A page without styles is linked to a style sheet that it does not have. -/
theorem link_without_style_is_dangling : ∃ c t' paths,
    (linking.convert .standard (some "<p>x</p>")).result = .ok c ∧ c.succeeded = true ∧
      FileTree.placeAll ⟨"", ["out"]⟩ c.files {} = (t', .ok paths) ∧
      linking.RefersTo (some "<p>x</p>") c "styles.css" ∧
      ¬ Resolves c ⟨"", ["out"]⟩ t' "styles.css" := by
  obtain ⟨c, t', paths, converted, succeeded, placed, none⟩ :=
    exists_placed "<p>x</p>" [] (by decide +kernel)
  refine ⟨c, t', paths, converted, succeeded, placed,
    .linked (links_linking (by decide +kernel)), fun resolves => ?_⟩
  obtain ⟨f, mem, style, -⟩ := resolves.exists_file
  rw [List.map_eq_nil_iff, List.filter_eq_nil_iff] at none
  exact none f mem (beq_iff_eq.2 style)

end ConversionOptions
end Componentry
