import Componentry.Proofs.Naming.Spelling
import Componentry.Proofs.Splitting.Components
import Componentry.Proofs.Splitting.Page

/-!
# Names of components in different spellings

A convention spells the names of a page while they are given, so numbers are counted up among
spelled names. As long as no name has to be cut, the names given so far are the spellings of the
same identifiers in each convention, step by step. A page is therefore split the same way, but for
the spelling of the names.
-/

set_option autoImplicit false

namespace Componentry

namespace Extraction
open Componentry.Text Componentry.Naming Componentry.NamingConvention

variable {α : Type} [Score α]

/-- No name of a run needs to be cut. -/
def HasRoom : Namer → List (Extraction α) → Prop
  | _, [] => True
  | namer, e :: rest =>
    size (numbered (namer.wanted e.nameRequest) namer.given) ≤ longest ∧
      HasRoom (namer.name e.nameRequest).2 rest

instance : ∀ (namer : Namer) (all : List (Extraction α)), Decidable (HasRoom namer all)
  | _, [] => inferInstanceAs (Decidable True)
  | namer, e :: rest =>
    have := instDecidableHasRoom (namer.name e.nameRequest).2 rest
    inferInstanceAs (Decidable (_ ∧ _))

/-- The identifier that an element is named by: what is proposed for it, perhaps with a number. -/
def nextIdentifier (given : List String) (e : Extraction α) : String :=
  numbered (propose (given.length + 1) e.nameRequest) given

/-- The identifiers of extracted elements, one after the other. -/
def identifiers (given : List String) : List (Extraction α) → List String
  | [] => []
  | e :: rest => nextIdentifier given e :: identifiers (given ++ [nextIdentifier given e]) rest

omit [Score α] in
/-- What is proposed for an element is an identifier. -/
theorem isIdentifier_proposed (number : Nat) (e : Extraction α) :
    IsIdentifier (propose number e.nameRequest) :=
  isIdentifier_propose fun _ => ⟨.inl rfl, List.forall_mem_nil _⟩

omit [Score α] in
/-- The next identifier is one. -/
theorem isIdentifier_nextIdentifier (given : List String) (e : Extraction α) :
    IsIdentifier (nextIdentifier given e) :=
  isIdentifier_numbered (isIdentifier_proposed _ e) given

omit [Score α] in
/-- All identifiers that are given are identifiers. -/
theorem isIdentifier_of_mem_identifiers {name : String} : ∀ {given : List String}
    {all : List (Extraction α)}, name ∈ identifiers given all → IsIdentifier name
  | given, e :: _, mem => by
    rcases List.mem_cons.1 mem with rfl | mem
    · exact isIdentifier_nextIdentifier given e
    · exact isIdentifier_of_mem_identifiers mem

/-! ## A run -/

variable {convention : NamingConvention}

/-- A namer that has given the spellings of identifiers. -/
def spelling (convention : NamingConvention) (given : List String) : Namer :=
  { convention, given := given.map convention.apply }

omit [Score α] in
/-- What is asked for is the proposal in the spelling of the convention. -/
theorem wanted_spelling (given : List String) (e : Extraction α) :
    (spelling convention given).wanted e.nameRequest =
      convention.apply (propose (given.length + 1) e.nameRequest) := by
  rw [Namer.wanted, Namer.number, spelling, List.length_map, String.empty_append,
    String.append_empty]

omit [Score α] in
/-- A name that has room is the spelling of the next identifier. -/
theorem name_spelling (hc : convention.IsSpelling) {given : List String}
    (hg : ∀ t ∈ given, IsIdentifier t) {e : Extraction α}
    (room : size (numbered ((spelling convention given).wanted e.nameRequest)
      (spelling convention given).given) ≤ longest) :
    (spelling convention given).name e.nameRequest =
      (convention.apply (nextIdentifier given e),
        spelling convention (given ++ [nextIdentifier given e])) := by
  have claimed : Naming.claim ((spelling convention given).wanted e.nameRequest)
      (spelling convention given).given = convention.apply (nextIdentifier given e) := by
    rw [Naming.claim, if_neg (Nat.not_lt.2 room), wanted_spelling, nextIdentifier]
    exact numbered_apply hc (isIdentifier_proposed _ e) hg
  have named : (spelling convention given).name e.nameRequest =
      (Naming.claim ((spelling convention given).wanted e.nameRequest)
        (spelling convention given).given,
        { spelling convention given with given := (spelling convention given).given ++
          [Naming.claim ((spelling convention given).wanted e.nameRequest)
            (spelling convention given).given] }) := rfl
  rw [named, claimed, spelling, spelling, List.map_append, List.map_singleton]

omit [Score α] in
/-- The names of a run in which nothing is cut are the spellings of the identifiers. -/
theorem names_spelling (hc : convention.IsSpelling) :
    ∀ (all : List (Extraction α)) (given : List String), (∀ t ∈ given, IsIdentifier t) →
      HasRoom (spelling convention given) all →
      names (spelling convention given) all = (identifiers given all).map convention.apply
  | [], _, _, _ => rfl
  | e :: rest, given, hg, ⟨room, more⟩ => by
    have named := name_spelling hc hg room
    have hg' : ∀ t ∈ given ++ [nextIdentifier given e], IsIdentifier t := by
      intro t mem
      rcases List.mem_append.1 mem with mem | mem
      · exact hg t mem
      · rw [List.mem_singleton.1 mem]
        exact isIdentifier_nextIdentifier given e
    rw [named] at more
    rw [names, named, identifiers, List.map_cons, ← names_spelling hc rest _ hg' more]

omit [Score α] in
/-- The identifiers of the names of a run in which nothing is cut do not depend on the spelling. -/
theorem map_identifier_names (hc : convention.IsSpelling) {all : List (Extraction α)}
    (room : HasRoom { convention } all) :
    (names { convention } all).map Naming.identifier = identifiers [] all := by
  have run : names { convention } all = (identifiers [] all).map convention.apply :=
    names_spelling hc all [] (fun _ mem => absurd mem List.not_mem_nil) room
  rw [run, List.map_map]
  exact (List.map_congr_left fun name mem =>
    identifier_apply hc (isIdentifier_of_mem_identifiers mem)).trans (List.map_id _)

end Extraction

/-- The component with the identifier of its name for a name. -/
def Component.identified {α : Type} (c : Component α) : Component α :=
  { c with name := Naming.identifier c.name }

/-- The split page with the identifiers of names for names. -/
def Split.identified {α : Type} (s : Split α) : Split α :=
  { s with components := s.components.map Component.identified }

namespace Extraction
variable {α : Type} [Score α]

/-- Components are told apart from others of the same elements by their names only. -/
theorem map_identified_components {namer other : Namer} {all : List (Extraction α)}
    (same : (names namer all).map Naming.identifier = (names other all).map Naming.identifier) :
    (components namer all).map Component.identified =
      (components other all).map Component.identified := by
  have named (n : Namer) : (components n all).map Component.identified =
      ((all.zip ((names n all).map Naming.identifier)).zipIdx).map fun e =>
        component all e.1.1 e.1.2 e.2 := by
    rw [components, List.map_map, List.zip_map_right, List.zipIdx_map, List.map_map]
    rfl
  rw [named, named, same]

end Extraction

namespace Split
variable {α : Type} [Score α]

/-- A page split into given components. -/
def withComponents (o : SplitOptions α) (root : Node) (components : List (Component α)) :
    Outcome (Split α) := do
  let (warnings, refusal) := complaints [] (Decision.troublesOnPage o root)
  let _ ← warnings.mapM Outcome.warn
  if let some fault := refusal then Outcome.fail fault
  let tree ← ContainmentTree.build (components.map Component.contained)
  let patterns :=
    if o.findsPatterns then Pattern.detect ⟨o.leastOccurrences, o.threshold⟩ root else []
  return { components, patterns, tree, warnings }

/-- A page with elements is split by the components extracted from it. -/
theorem ofRoot_eq_withComponents (o : SplitOptions α) {root : Node}
    (some_ : ¬ (!root.isElement && root.elementChildren.isEmpty) = true) :
    ofRoot o root = withComponents o root
      (Extraction.components { convention := o.convention } (Decision.extracted o root)) := by
  rw [ofRoot, if_neg some_]
  rfl

/-- What else is decided of a page does not depend on the names of its components. -/
theorem identified_withComponents (o : SplitOptions α) (root : Node) {l m : List (Component α)}
    (same : l.map Component.identified = m.map Component.identified) :
    ((withComponents o root l).bind fun split => .ok split.identified) =
      (withComponents o root m).bind fun split => .ok split.identified := by
  have seen (l : List (Component α)) : l.map Component.contained =
      (l.map Component.identified).map Component.contained := by
    rw [List.map_map]
    rfl
  have contained : l.map Component.contained = m.map Component.contained := by
    rw [seen, same, ← seen]
  rw [withComponents, withComponents, contained]
  rcases complaints [] (Decision.troublesOnPage o root) with ⟨reports, _ | fault⟩
  · change ((Outcome.bind _ fun _ => Outcome.bind _ fun _ => Outcome.ok _).bind _) =
      (Outcome.bind _ fun _ => Outcome.bind _ fun _ => Outcome.ok _).bind _
    simp only [Outcome.bind_assoc, Outcome.bind_ok, identified, same]
  · change ((Outcome.bind _ fun _ => (Outcome.fail fault).bind _).bind _) =
      (Outcome.bind _ fun _ => (Outcome.fail fault).bind _).bind _
    simp only [Outcome.bind_assoc, Outcome.bind_fail]

/-- The page is split the same way by each spelling, but for the spelling itself. -/
theorem identified_ofRoot (o : SplitOptions α) (root : Node) {c c' : NamingConvention}
    (hc : c.IsSpelling) (hc' : c'.IsSpelling)
    (room : Extraction.HasRoom { convention := c } (Decision.extracted o root))
    (room' : Extraction.HasRoom { convention := c' } (Decision.extracted o root)) :
    ((ofRoot { o with convention := c } root).bind fun split => .ok split.identified) =
      (ofRoot { o with convention := c' } root).bind fun split => .ok split.identified := by
  by_cases empty : (!root.isElement && root.elementChildren.isEmpty) = true
  · rw [ofRoot, ofRoot, if_pos empty, if_pos empty]
  · rw [ofRoot_eq_withComponents _ empty, ofRoot_eq_withComponents _ empty]
    refine identified_withComponents o root (Extraction.map_identified_components ?_)
    exact (Extraction.map_identifier_names hc room).trans
      (Extraction.map_identifier_names hc' room').symm

end Split
end Componentry
