import Componentry.Proofs.Conversion.Files
import Componentry.Proofs.Splitting.Spelling

/-!
# Files of components in different spellings

What is written of a component depends on its name only through the identifier of the name, and
this does not depend on how names are spelled. So the components of a page are written into the same
files, with the same index, whether their names are spelled with capitals, with a small first letter
or with dashes.
-/

set_option autoImplicit false

namespace Componentry

/-- The source with the identifier of its name for a name. -/
def ComponentSource.identified (s : ComponentSource) : ComponentSource :=
  { s with name := Naming.identifier s.name }

namespace ConversionOptions
open Componentry.Naming

variable {o : ConversionOptions}

/-! ## Names count by their identifiers only -/

/-- The identifiers do not change when names are made identifiers first. -/
theorem identifiers_map_identifier : ∀ (namer : Namer) (names : List String),
    identifiers namer (names.map identifier) = identifiers namer names
  | _, [] => rfl
  | namer, name :: rest => by
    rw [List.map_cons, identifiers, identifiers,
      identifier_of_isIdentifier (isIdentifier_identifier name)]
    exact congrArg (_ :: ·) (identifiers_map_identifier (namer.claim (identifier name) []).2 rest)

/-- Written is the page of a source, under the identifier that is given to it. -/
theorem mapM_writeComponent_identified (imports : List String) :
    ∀ (sources : List ComponentSource) (names : List String),
      ((sources.map ComponentSource.identified).zip names).mapM (o.writeComponent imports) =
        (sources.zip names).mapM (o.writeComponent imports)
  | [], _ => rfl
  | _ :: _, [] => rfl
  | s :: sources, name :: names => by
    rw [List.map_cons, List.zip_cons_cons, List.zip_cons_cons, List.mapM_cons, List.mapM_cons,
      mapM_writeComponent_identified imports sources names]
    rfl

/-- The files do not change when names are made identifiers first. -/
theorem generate_identified (sheet : Option GeneratedFile) (sources : List ComponentSource) :
    o.generate sheet (sources.map ComponentSource.identified) = o.generate sheet sources := by
  have names : (sources.map ComponentSource.identified).map ComponentSource.name =
      (sources.map ComponentSource.name).map identifier := by
    rw [List.map_map, List.map_map]
    rfl
  rw [generate, generate, names, identifiers_map_identifier, mapM_writeComponent_identified]

/-- The sources of a page with identifiers for names: the same, or with identifiers for names.
-/
theorem sources_identified (d : Document) (split : Split Float) :
    o.sources d (some split.identified) = o.sources d (some split) ∨
      o.sources d (some split.identified) =
        (o.sources d (some split)).map ComponentSource.identified := by
  cases components : split.components with
  | nil =>
    left
    simp only [sources, Split.identified, components, Option.map_some, Option.getD_some,
      List.map_nil]
  | cons c rest =>
    right
    simp only [sources, Split.identified, components, Option.map_some, Option.getD_some,
      List.map_cons, List.map_map, Function.comp_def, Component.identified,
      ComponentSource.identified]

/-- The files of a split page are those of the page with identifiers for names. -/
theorem generate_sources_identified (sheet : Option GeneratedFile) (d : Document)
    (split : Split Float) : o.generate sheet (o.sources d (some split.identified)) =
      o.generate sheet (o.sources d (some split)) := by
  rcases o.sources_identified d split with same | same <;> rw [same]
  rw [generate_identified]

/-! ## Spellings -/

/-- The spelling of names does not change what is written of the components of a page. As long as no
name has to be cut, a page split with one spelling gives the same components, by the same
identifiers, as the page split with another one, or is refused for the same reason; and what is
written of them are the same files with the same contents and warnings. -/
theorem files_do_not_depend_on_spelling (s : SplitOptions Float) (d : Document)
    (room : ∀ c : NamingConvention, c.IsSpelling →
      Extraction.HasRoom { convention := c } (Decision.extracted s d.root))
    {c c' : NamingConvention} (hc : c.IsSpelling) (hc' : c'.IsSpelling) :
    ((Split.ofRoot { s with convention := c } d.root).bind fun split =>
        .ok (identifiers {} (split.components.map Component.name))) =
      ((Split.ofRoot { s with convention := c' } d.root).bind fun split =>
        .ok (identifiers {} (split.components.map Component.name))) ∧
    ((Split.ofRoot { s with convention := c } d.root).bind fun split => .ok split.identified) =
      ((Split.ofRoot { s with convention := c' } d.root).bind fun split =>
        .ok split.identified) ∧
    ∀ (o : ConversionOptions) (sheet : Option GeneratedFile),
      ((Split.ofRoot { s with convention := c } d.root).bind fun split =>
          o.generate sheet (o.sources d (some split))) =
        (Split.ofRoot { s with convention := c' } d.root).bind fun split =>
          o.generate sheet (o.sources d (some split)) := by
  have split := Split.identified_ofRoot s d.root hc hc' (room c hc) (room c' hc')
  -- what does not change with identifiers for names is the same for both
  have through {β : Type} (f : Split Float → Outcome β) (hf : ∀ p, f p.identified = f p) :
      (Split.ofRoot { s with convention := c } d.root).bind f =
        (Split.ofRoot { s with convention := c' } d.root).bind f := by
    have both (k : NamingConvention) : (Split.ofRoot { s with convention := k } d.root).bind f =
        ((Split.ofRoot { s with convention := k } d.root).bind fun p => .ok p.identified).bind
          f := by
      rw [Outcome.bind_assoc]
      exact congrArg _ (funext fun p => (hf p).symm)
    rw [both c, split, ← both c']
  refine ⟨through _ fun p => ?_, split, fun o sheet => through _ fun p => ?_⟩
  · have names : p.identified.components.map Component.name =
        (p.components.map Component.name).map identifier := by
      rw [Split.identified, List.map_map, List.map_map]
      rfl
    rw [names, identifiers_map_identifier]
  · exact o.generate_sources_identified sheet d p

/-- A page with two menus of the same name, spelled with dashes and with capitals. -/
theorem files_do_not_depend_on_spelling_of_menus :
    let s : SplitOptions Float := { findsPatterns := false, threshold := 0.7 }
    ∃ (d : Document) (split : Split Float),
      (Document.read {} (some
        "<nav data-name='User menu'>a</nav><nav data-name='user-menu'>b</nav>")).result = .ok d ∧
      (∀ c : NamingConvention, c.IsSpelling →
        Extraction.HasRoom { convention := c } (Decision.extracted s d.root)) ∧
      (Split.ofRoot { s with convention := .kebab } d.root).result = .ok split ∧
      split.components.map Component.name = ["user-menu", "user-menu2"] ∧
      identifiers {} (split.components.map Component.name) = ["UserMenu", "UserMenu2"] ∧
      ((Split.ofRoot { s with convention := .kebab } d.root).bind fun split =>
          .ok (identifiers {} (split.components.map Component.name))) =
        ((Split.ofRoot { s with convention := .pascal } d.root).bind fun split =>
          .ok (identifiers {} (split.components.map Component.name))) := by
  intro s
  have known : ((Document.read {} (some
      "<nav data-name='User menu'>a</nav><nav data-name='user-menu'>b</nav>")).result.toOption.bind
        fun d => (Split.ofRoot { s with convention := .kebab } d.root).result.toOption.map
          fun split => (split.components.map Component.name,
            [NamingConvention.pascal, .camel, .kebab].all fun c =>
              decide (Extraction.HasRoom { convention := c } (Decision.extracted s d.root)))) =
      some (["user-menu", "user-menu2"], true) := by decide +kernel
  cases read : (Document.read {} (some
      "<nav data-name='User menu'>a</nav><nav data-name='user-menu'>b</nav>")).result with
  | error e =>
    rw [read] at known
    cases known
  | ok d =>
    cases given : (Split.ofRoot { s with convention := .kebab } d.root).result with
    | error e =>
      rw [read] at known
      change (Split.ofRoot { s with convention := .kebab } d.root).result.toOption.map _ = _
        at known
      rw [given] at known
      cases known
    | ok split =>
      rw [read] at known
      change (Split.ofRoot { s with convention := .kebab } d.root).result.toOption.map _ = _
        at known
      rw [given] at known
      obtain ⟨names, roomy⟩ := Prod.mk.inj (Option.some.inj known)
      have room : ∀ c : NamingConvention, c.IsSpelling →
          Extraction.HasRoom { convention := c } (Decision.extracted s d.root) := by
        intro c hc
        refine of_decide_eq_true (List.all_eq_true.1 roomy c ?_)
        cases c with
        | shouting => exact absurd rfl hc
        | _ => decide
      refine ⟨d, split, rfl, room, given, names, ?_, ?_⟩
      · rw [names]
        decide +kernel
      · exact (files_do_not_depend_on_spelling s d room (by decide) (by decide)).1

end ConversionOptions
end Componentry
