import Componentry.Proofs.Conversion.Files
import Componentry.Proofs.Document.Printer
import Componentry.Proofs.Jsx.Rendering
import Componentry.Proofs.Splitting.Page

/-!
# Texts of a conversion

The files of a conversion hold the texts of the elements that become components, and nothing else of
a page that has some. An element with a reason lies in an outermost one, which becomes a component
if any does; so a text is held exactly if it lies in an element with a reason, or the page is
written as one.
-/

set_option autoImplicit false

namespace Componentry
open Componentry.Node Componentry.Text

/-! ## Elements that are rendered -/

/-- A node that is rendered, and the page that stands for it. -/
structure RenderedPart where
  node : Node
  page : Outcome Node

namespace RenderedPart

/-- The page of the markup of a node. -/
def readBack (n : Node) : Outcome Node :=
  (Document.read {} (some n.write)).bind fun d => .ok d.root

/-- A text is held by what is rendered: of a whole page it stands in the rendered text, and of a
part its markup stands in the markup that is rendered. -/
inductive HasText (t : Node) : RenderedPart → Prop where
  | whole {root : Node} (inside : t ∈ root.preorder)
      (rendered : ∀ attributes level,
        (Jsx.escapeText (trim t.textOrNone)).toList <:+: (root.rendered attributes level).toList) :
      HasText t ⟨root, .ok root⟩
  | part {n : Node} (within : Bool) (inside : t ∈ n.preorder)
      (written : (t.writeIn within).toList <:+: n.write.toList) :
      HasText t ⟨n, readBack n⟩

/-- A text of a part is below its node. -/
theorem HasText.inside {t : Node} {p : RenderedPart} (h : HasText t p) : t ∈ p.node.preorder := by
  cases h with
  | whole inside _ => exact inside
  | part _ inside _ => exact inside

end RenderedPart

namespace Extraction
variable {α : Type} {decide : Node → Option (Decision α)} {deepest : Int}

/-- What is rendered of a page: the chosen elements, or the page if there are none. -/
def renderedParts (decide : Node → Option (Decision α)) (deepest : Int) (root : Node) :
    List RenderedPart :=
  match chosen decide deepest root with
  | [] => [⟨root, .ok root⟩]
  | nodes => nodes.map fun n => ⟨n, RenderedPart.readBack n⟩

section
variable {root : Node}

/-- Where an element is chosen the depth allows the outermost ones. -/
theorem zero_le_of_mem_chosen {n : Node} (h : n ∈ chosen decide deepest root) : 0 ≤ deepest := by
  obtain ⟨_, both⟩ := List.mem_filter.1 h
  obtain ⟨_, limit⟩ := Bool.and_eq_true_iff.1 both
  exact Int.le_trans (Int.natCast_nonneg _) (of_decide_eq_true limit)

/-- An element with a reason and none with one around it is chosen. -/
theorem mem_chosen_of_outermost (limit : 0 ≤ deepest) {n : Node} (hn : n ∈ root.elements)
    (reason : isReasoned decide n = true)
    (outer : ¬ (root.around n).any (isReasoned decide) = true) :
    n ∈ chosen decide deepest root := by
  have alone : reasonedAround decide root n = [] := by
    rw [reasonedAround, List.filter_eq_nil_iff]
    exact fun m hm reason => outer (List.any_eq_true.2 ⟨m, hm, reason⟩)
  refine List.mem_filter.2 ⟨hn, Bool.and_eq_true_iff.2 ⟨reason, decide_eq_true ?_⟩⟩
  rw [alone]
  exact limit

end

section
variable {o : ReadOptions} {markup : Option String} {d : Document}
  (h : (Document.read o markup).result = .ok d)
include h

/-- Every element with a reason lies in a chosen one, if there is any. -/
theorem exists_chosen {k n : Node} (hk : k ∈ chosen decide deepest d.root)
    (hn : n ∈ d.root.elements) (reason : isReasoned decide n = true) :
    ∃ m ∈ chosen decide deepest d.root, n ∈ m.preorder := by
  obtain ⟨m, hm, reason', outer, below⟩ := Document.exists_outermost_of_read h hn reason
  exact ⟨m, mem_chosen_of_outermost (zero_le_of_mem_chosen hk) hm reason' outer, below⟩

/-- A text is held by what is rendered exactly if nothing is chosen or it lies in an element with a
reason. -/
theorem exists_hasText_iff {t : Node} (ht : t ∈ d.nodes) (shown : t.isShownText = true) :
    (∃ p ∈ renderedParts decide deepest d.root, p.HasText t) ↔
      chosen decide deepest d.root = [] ∨
        ∃ n ∈ d.root.elements, isReasoned decide n = true ∧ t ∈ n.preorder := by
  have plain := Document.isPlain_of_read h
  have tidy := Document.isTidy_of_read h
  rw [renderedParts]
  split
  next none =>
    refine iff_of_true ⟨_, List.mem_singleton_self _, .whole ht fun attributes level => ?_⟩
      (.inl none)
    exact infix_rendered shown plain tidy (Document.kind_of_read h) ht
  next nonempty =>
    constructor
    · rintro ⟨p, hp, held⟩
      obtain ⟨n, hn, rfl⟩ := List.mem_map.1 hp
      exact .inr ⟨n, List.mem_of_mem_filter hn, reasoned_of_mem_chosen n hn, held.inside⟩
    · rintro (none | ⟨n, hn, reason, inside⟩)
      · exact absurd none nonempty
      · obtain ⟨k, hk⟩ := List.exists_mem_of_ne_nil _ nonempty
        obtain ⟨m, hm, below⟩ := exists_chosen h hk hn reason
        have element := List.mem_of_mem_filter hm
        have met := mem_preorder_trans inside m below
        obtain ⟨within, written⟩ := infix_writeIn (isPlain_of_mem_elements plain element)
          (tidy.of_mem_preorder (List.mem_of_mem_filter element)) met false
        exact ⟨_, List.mem_map_of_mem hm, .part within met written⟩

end

end Extraction
namespace Conversion
variable {α : Type} {c c' : Conversion} {stage : Stage} {action : Outcome (StageResult α)}
  {before : Unit → List String}

/-! ## Stages -/

/-- A stage that is run always goes on, with what it gave if it was completed. -/
theorem fst_of_run {p : Option α × Conversion} (h : (c.run stage action before).result = .ok p) :
    p.1 = action.result.toOption.map StageResult.value := by
  rw [run] at h
  cases result : action.result with
  | ok r =>
    rw [result] at h
    cases h
    rfl
  | error fault =>
    rw [result] at h
    cases h
    rfl

/-- A stage that gave a value had it as its result. -/
theorem exists_of_run {a : α} (h : (c.run stage action before).result = .ok (some a, c')) :
    ∃ r, action.result = .ok r ∧ r.value = a := by
  have given := fst_of_run h
  cases result : action.result with
  | ok r =>
    rw [result] at given
    exact ⟨r, rfl, (Option.some.inj given).symm⟩
  | error fault =>
    rw [result] at given
    cases given

end Conversion

namespace ConversionOptions
open Componentry.Extraction

variable {settings : Settings} {o : ConversionOptions} {markup : Option String}

/-- The page with its styles converted, as it was if they cannot be. -/
def styledPage (o : ConversionOptions) (markup : Option String) : StyledPage :=
  ((o.convertStyles markup).result.toOption.map StageResult.value).getD ⟨markup, none⟩

/-- A conversion that succeeds has completed reading, splitting and writing. -/
theorem convert_eq_ok {c : Conversion} (h : (o.convert settings markup).result = .ok c)
    (succeeded : c.succeeded = true) :
    ∃ page split files, (readPage settings (o.styledPage markup).markup).result = .ok page ∧
      (splitPage settings o page.value).result = .ok split ∧
      (o.generate (o.styledPage markup).sheet (o.sources page.value split.value)).result =
        .ok files ∧
      c.files = files.value ++ (o.styledPage markup).sheet.toList := by
  obtain ⟨⟨styled, c₁⟩, css, h⟩ := Outcome.result_bind_eq_ok.1 h
  have first : styled.getD ⟨markup, none⟩ = o.styledPage markup := by
    rw [styledPage, ← Conversion.fst_of_run css]
  dsimp only at h
  rw [first] at h
  obtain ⟨⟨document, c₂⟩, parse, h⟩ := Outcome.result_bind_eq_ok.1 h
  -- A needed stage without a value ends the conversion without success.
  cases document with
  | none =>
    cases h
    cases succeeded
  | some d =>
    obtain ⟨⟨split, c₃⟩, cut, h⟩ := Outcome.result_bind_eq_ok.1 h
    cases split with
    | none =>
      cases h
      cases succeeded
    | some split =>
      obtain ⟨⟨files, c₄⟩, generated, h⟩ := Outcome.result_bind_eq_ok.1 h
      cases files with
      | none =>
        cases h
        cases succeeded
      | some files =>
        cases h
        obtain ⟨page, read, rfl⟩ := Conversion.exists_of_run parse
        obtain ⟨parts, given, rfl⟩ := Conversion.exists_of_run cut
        obtain ⟨files, written, rfl⟩ := Conversion.exists_of_run generated
        exact ⟨page, parts, files, read, given, written, rfl⟩

/-- A page that was read was read with the options of the settings. -/
theorem readPage_eq_ok {page : StageResult Document}
    (h : (readPage settings markup).result = .ok page) :
    ∃ r, readOptions settings = .ok r ∧ (Document.read r markup).result = .ok page.value := by
  obtain ⟨r, options, h⟩ := Outcome.result_bind_eq_ok.1 h
  obtain ⟨d, read, h⟩ := Outcome.result_bind_eq_ok.1 h
  cases h
  exact ⟨r, options, read⟩

/-- A page that was split was split with the options of the settings. -/
theorem splitPage_eq_ok {d : Document} {split : StageResult (Option (Split Float))}
    (splits : o.splits = true) (h : (splitPage settings o d).result = .ok split) :
    ∃ s parts, splitOptions settings o = .ok s ∧ (Split.ofRoot s d.root).result = .ok parts ∧
      split.value = some parts := by
  rw [splitPage, splits] at h
  obtain ⟨s, options, h⟩ := Outcome.result_bind_eq_ok.1 h
  obtain ⟨parts, given, h⟩ := Outcome.result_bind_eq_ok.1 h
  cases h
  exact ⟨s, parts, options, given, rfl⟩

/-- What is written of a split page are its parts. -/
theorem map_page_sources {decide : Node → Option (Decision Float)} {deepest : Int} {d : Document}
    {split : Split Float} (closed : Split.IsClosed decide deepest d.root split) :
    (o.sources d (some split)).map ComponentSource.page =
      (renderedParts decide deepest d.root).map RenderedPart.page := by
  have markups := closed.markup
  rw [sources, renderedParts, Option.map_some, Option.getD_some]
  cases components : split.components with
  | nil =>
    rw [components, List.map_nil] at markups
    rw [List.map_eq_nil_iff.1 markups.symm]
    rfl
  | cons first rest =>
    rw [components] at markups
    cases nodes : chosen decide deepest d.root with
    | nil =>
      rw [nodes] at markups
      cases markups
    | cons n more =>
      rw [nodes] at markups
      have pages := congrArg (List.map fun s =>
        (Document.read {} (some s)).bind fun d => Outcome.ok d.root) markups
      simp only [List.map_map, Function.comp_def, RenderedPart.readBack] at pages ⊢
      exact pages

/-- The file of a component that a page is rendered for. -/
def IsFileOf (o : ConversionOptions) (imports : List String) (page : Outcome Node)
    (f : GeneratedFile) : Prop :=
  ∃ identifier parameters root, page.result = .ok root ∧ f.kind = .component ∧
    f.name = (o.source imports identifier).fileName ∧
    f.content = (o.source imports identifier).content parameters
      (root.rendered ((o.source imports identifier).attributesOf Dict.empty)
        SourceOptions.bodyLevel)

/-- What is written for a component is the file of its page. -/
theorem isFileOf_of_writeComponent {imports : List String} {s : ComponentSource} {i : String}
    {w : GeneratedSource} (h : (o.writeComponent imports (s, i)).result = .ok w) :
    o.IsFileOf imports s.page { name := w.fileName, content := w.content } := by
  obtain ⟨root, page, written⟩ := Outcome.result_bind_eq_ok.1 h
  change ((Generator.start (o.source imports i) Dict.empty).generate root).1 = .ok w at written
  rw [Generator.generate] at written
  split at written
  · cases written
  · cases written
    exact ⟨i, _, root, page, rfl, rfl, rfl⟩

/-- The index is an index. -/
theorem kind_of_mem_index {names : List String} {f : GeneratedFile} (h : f ∈ o.index names) :
    f.kind = .index := by
  rw [index] at h
  split at h
  · cases h
  · rw [List.mem_singleton.1 h]

/-- Every source is written into a file of its own, and there is nothing else but the index of their
identifiers. -/
theorem written_of_generate {sheet : Option GeneratedFile} {sources : List ComponentSource}
    {r : StageResult (List GeneratedFile)} (h : (o.generate sheet sources).result = .ok r) :
    ∃ written, r.value = written ++ o.index (fileIdentifiers sources) ∧
      List.Forall₂ (o.IsFileOf (sheetImports sheet)) (sources.map ComponentSource.page)
        written := by
  obtain ⟨written, all, h⟩ := Outcome.result_bind_eq_ok.1 h
  cases h
  refine ⟨_, rfl, ?_⟩
  have size : sources.length = (identifiers {} (sources.map ComponentSource.name)).length := by
    rw [length_identifiers, List.length_map]
  have firsts := List.map_fst_zip (le_of_eq size)
  rw [← firsts, List.map_map, List.forall₂_map_left_iff, List.forall₂_map_right_iff]
  exact (Outcome.forall₂_of_mapM all).imp fun _ _ => isFileOf_of_writeComponent

/-- Every source is written into a file of its own, and there is nothing else but the index. -/
theorem files_of_generate {sheet : Option GeneratedFile} {sources : List ComponentSource}
    {r : StageResult (List GeneratedFile)} (h : (o.generate sheet sources).result = .ok r) :
    ∃ written index, r.value = written ++ index ∧ (∀ f ∈ index, f.kind = .index) ∧
      List.Forall₂ (o.IsFileOf (sheetImports sheet)) (sources.map ComponentSource.page)
        written := by
  obtain ⟨written, eq, each⟩ := written_of_generate h
  exact ⟨written, _, eq, fun _ => kind_of_mem_index, each⟩

/-- The style sheet of a page is no component. -/
theorem kind_of_mem_sheet {f : GeneratedFile} (h : f ∈ (o.styledPage markup).sheet) :
    f.kind = .style := by
  rw [styledPage] at h
  cases styles : (o.convertStyles markup).result with
  | error _ =>
    rw [styles] at h
    cases h
  | ok r =>
    rw [styles] at h
    change f ∈ r.value.sheet at h
    unfold convertStyles at styles
    split at styles
    · cases styles
      cases h
    · dsimp only at styles
      split at styles
      · cases styles
        cases h
      · obtain ⟨strategy, _, styles⟩ := Outcome.result_bind_eq_ok.1 styles
        obtain ⟨styled, _, styles⟩ := Outcome.result_bind_eq_ok.1 styles
        split at styles
        · cases styles
          cases h
        · cases styles
          cases h
          rfl

/-- A page that is split and written: the page that is read, once its styles are converted, and the
options that it is split with. -/
structure IsConversionOf (settings : Settings) (o : ConversionOptions) (markup : Option String)
    (c : Conversion) (d : Document) (s : SplitOptions Float) : Prop where
  read : ∃ r, readOptions settings = .ok r ∧
    (Document.read r (o.styledPage markup).markup).result = .ok d
  options : splitOptions settings o = .ok s
  /-- Every part that is rendered has a file of its own, and there are no other components. -/
  files : ∃ written others, c.files = written ++ others ∧ (∀ f ∈ others, f.kind ≠ .component) ∧
    List.Forall₂ (fun p f => o.IsFileOf (sheetImports (o.styledPage markup).sheet) p.page f)
      (renderedParts (Decision.onPage? s d.root) s.deepest d.root) written
  /-- A text is held by one of the parts exactly if the page is written as one or an element with a
  reason holds the text. -/
  texts : ∀ t ∈ d.nodes, t.isShownText = true →
    ((∃ p ∈ renderedParts (Decision.onPage? s d.root) s.deepest d.root, p.HasText t) ↔
      chosen (Decision.onPage? s d.root) s.deepest d.root = [] ∨
        ∃ n ∈ d.root.elements, isReasoned (Decision.onPage? s d.root) n = true ∧ t ∈ n.preorder)

/-- A page with one part and a text beside it. -/
def pageWithPart : String := "<p>hello</p><nav>x</nav>"

/-- A page with a part gives the part alone, and the text beside it is in no file. -/
theorem exists_convert_pageWithPart : ∃ c,
    (convert .standard { strategy := "none" } (some pageWithPart)).result = .ok c ∧
    c.succeeded = true ∧ c.files.map GeneratedFile.name = ["Nav.jsx"] ∧
    ∀ f ∈ c.files, contains f.content "hello" = false := by
  have known : ((convert .standard { strategy := "none" }
      (some pageWithPart)).result.toOption.map fun c =>
        (c.succeeded, c.files.map GeneratedFile.name,
          c.files.all fun f => !contains f.content "hello")) =
      some (true, ["Nav.jsx"], true) := by decide +kernel
  obtain ⟨c, h, known⟩ := exists_ok_of_toOption_map known
  simp only [Prod.mk.injEq, List.all_eq_true, Bool.not_eq_true'] at known
  exact ⟨c, h, known⟩

end ConversionOptions
end Componentry
