import Componentry.Conversion
import Componentry.Proofs.Naming.Identifier
import Componentry.Proofs.Outcome

/-!
# Files of components

Every component is written into a file named after its identifier. The registry keeps the names
that are claimed for the identifiers apart, but the identifier of a claimed name drops the mark of a
cut one: `Card` and a name cut down to `Card...` are two names with one identifier, and one of the
two files is lost. This is the only way in which the identifiers of a conversion come together, so
they are all different exactly when no claimed name stands in the registry both with the mark and
without it. Names of which nothing but a number is left, which take a registry of some `10 ^ 44`
names, all have the identifier `Component`.
-/

set_option autoImplicit false

namespace Componentry.Naming
open Componentry.Text

/-- A name without a letter for an identifier to start with, or the identifier that stands for all
of these. -/
def isNameless (s : String) : Bool := s == "Component" || !s.toList.any isAsciiLetter

/-- No claimed name is another one with the mark of cut names, and at most one is nameless. -/
structure KeptApart (claimed : List String) : Prop where
  unmarked : ∀ s ∈ claimed, s ++ String.ofList cutMark ∉ claimed
  nameless : ∀ s ∈ claimed, ∀ t ∈ claimed, isNameless s = true → isNameless t = true → s = t

/-- An identifier has no point. -/
theorem IsIdentifier.not_mark_mem {s : String} (h : IsIdentifier s) : '.' ∉ s.toList := by
  obtain ⟨c, rest, chars, hc, hr⟩ := h
  rw [chars]
  intro mem
  rcases List.mem_cons.1 mem with rfl | mem
  · exact absurd hc (by decide)
  · exact absurd (hr _ mem) (by decide)

/-- An identifier has a letter. -/
theorem IsIdentifier.any_isAsciiLetter {s : String} (h : IsIdentifier s) :
    s.toList.any isAsciiLetter = true := by
  obtain ⟨c, rest, chars, hc, _⟩ := h
  rw [chars, List.any_cons, isAsciiLetter_of_isUpper hc, Bool.true_or]

/-- The only nameless identifier is the one that stands for all nameless names. -/
theorem IsIdentifier.isNameless_iff {s : String} (h : IsIdentifier s) :
    isNameless s = true ↔ s = "Component" := by
  rw [isNameless, h.any_isAsciiLetter, Bool.not_true, Bool.or_false, beq_iff_eq]

/-- A cut name has a point. -/
theorem mark_mem (s : String) : '.' ∈ (s ++ String.ofList cutMark).toList := by
  rw [String.toList_append, String.toList_ofList]
  exact List.mem_append_right _ (by decide)

/-- What a number with the mark consists of: ASCII characters that neither separate words nor are
letters. -/
theorem of_mem_number {digits : List Char} (h : ∀ c ∈ digits, c.isDigit = true) :
    ∀ c ∈ digits ++ cutMark,
      c.toNat < 128 ∧ isSeparator c = false ∧ isAsciiLetter c = false ∧ c.isLower = false := by
  intro c hc
  rcases List.mem_append.1 hc with hc | hc
  · have digit := h c hc
    have ascii := toNat_lt_of_isDigit digit
    exact ⟨ascii, of_ascii (p := fun c => c.isDigit = true →
      isSeparator c = false ∧ isAsciiLetter c = false ∧ c.isLower = false) (by decide) ascii digit⟩
  · exact Lists.forall_mem_of_all (p := fun c => c.toNat < 128 ∧ isSeparator c = false ∧
      isAsciiLetter c = false ∧ c.isLower = false) (by decide) c hc

/-- The identifier of a number with the mark is the one of nameless names. -/
theorem identifier_of_number {digits : List Char} (h : ∀ c ∈ digits, c.isDigit = true) :
    identifier (String.ofList (digits ++ cutMark)) = "Component" := by
  have made := of_mem_number h
  refine identifier_of_no_letter fun c hc => ?_
  rw [String.toList_ofList, identifierChars, splitWhere_of_none fun d hd => (made d hd).2.1,
    List.flatMap_singleton] at hc
  have kept := List.mem_of_mem_filter hc
  generalize digits ++ cutMark = chars at made kept
  cases chars with
  | nil => exact absurd kept List.not_mem_nil
  | cons d rest =>
    obtain ⟨ascii, _, _, small⟩ := made d List.mem_cons_self
    rw [upperFirst, upperChar_of_not_isLower ascii small, List.singleton_append] at kept
    exact (made c kept).2.2.1

/-- The identifier of a claimed name: the name itself, the name without the mark, or the one of
nameless names. -/
theorem IsClaim.identifier_eq {s : String} (h : IsClaim s) :
    IsIdentifier s ∧ identifier s = s ∨
    (∃ stem, IsIdentifier stem ∧ stem.toList.length = longest - cutMark.length ∧
      s = stem ++ String.ofList cutMark ∧ identifier s = stem) ∨
    (s.toList.any isAsciiLetter = false ∧ '.' ∈ s.toList ∧ identifier s = "Component") := by
  rcases h with hs | ⟨stem, hs, length, rfl⟩ | ⟨digits, hd, rfl⟩
  · exact .inl ⟨hs, identifier_of_isIdentifier hs⟩
  · exact .inr (.inl ⟨stem, hs, length, rfl, identifier_marked hs⟩)
  · refine .inr (.inr ⟨?_, ?_, identifier_of_number hd⟩)
    · rw [String.toList_ofList, List.any_eq_false]
      intro c hc
      rw [(of_mem_number hd c hc).2.2.1]
      exact Bool.false_ne_true
    · rw [String.toList_ofList]
      exact List.mem_append_right _ (by decide)

/-- Only what has no mark is claimed with the mark. -/
theorem IsClaim.not_mark_mem_of_marked {s : String} (h : IsClaim (s ++ String.ofList cutMark)) :
    '.' ∉ s.toList := by
  rcases h with hs | ⟨stem, hs, _, eq⟩ | ⟨digits, hd, eq⟩
  · exact absurd (mark_mem s) hs.not_mark_mem
  · rw [String.append_left_inj] at eq
    rw [eq]
    exact hs.not_mark_mem
  · rw [String.ofList_append, String.append_left_inj] at eq
    rw [eq, String.toList_ofList]
    intro mem
    exact absurd (hd _ mem) (by decide)

/-- Nameless claimed names have the identifier that stands for them. -/
theorem IsClaim.identifier_of_isNameless {s : String} (h : IsClaim s)
    (nameless : isNameless s = true) : identifier s = "Component" := by
  rcases h.identifier_eq with ⟨hs, eq⟩ | ⟨stem, hs, _, rfl, _⟩ | ⟨_, _, eq⟩
  · rw [eq, hs.isNameless_iff.1 nameless]
  · -- a cut name has the letters of its stem
    have letter : (stem ++ String.ofList cutMark).toList.any isAsciiLetter = true := by
      rw [String.toList_append, List.any_append, hs.any_isAsciiLetter, Bool.true_or]
    rw [isNameless, letter, Bool.not_true, Bool.or_false, beq_iff_eq] at nameless
    exact absurd (nameless ▸ mark_mem stem) (by decide)
  · exact eq

/-- Claimed names of one identifier are one name, one is the other with the mark, or both are
nameless. -/
theorem IsClaim.eq_or_of_identifier_eq {s t : String} (hs : IsClaim s) (ht : IsClaim t)
    (same : identifier s = identifier t) :
    s = t ∨ t = s ++ String.ofList cutMark ∨ s = t ++ String.ofList cutMark ∨
      (isNameless s = true ∧ isNameless t = true) := by
  have short : "Component".toList.length ≠ longest - cutMark.length := by decide
  rcases hs.identifier_eq with ⟨is, es⟩ | ⟨stem, _, ls, rfl, es⟩ | ⟨ns, _, es⟩ <;>
    rcases ht.identifier_eq with ⟨it, et⟩ | ⟨stem', _, lt, rfl, et⟩ | ⟨nt, _, et⟩ <;>
    rw [es, et] at same
  · exact .inl same
  · exact .inr (.inl (by rw [same]))
  · refine .inr (.inr (.inr ⟨is.isNameless_iff.2 same, ?_⟩))
    rw [isNameless, nt, Bool.not_false, Bool.or_true]
  · exact .inr (.inr (.inl (by rw [same])))
  · exact .inl (by rw [same])
  · exact absurd (same ▸ ls) short
  · refine .inr (.inr (.inr ⟨?_, it.isNameless_iff.2 same.symm⟩))
    rw [isNameless, ns, Bool.not_false, Bool.or_true]
  · exact absurd (same ▸ lt) short
  · refine .inr (.inr (.inr ⟨?_, ?_⟩))
    · rw [isNameless, ns, Bool.not_false, Bool.or_true]
    · rw [isNameless, nt, Bool.not_false, Bool.or_true]

/-- Claimed names have different identifiers exactly when they are kept apart. -/
theorem nodup_identifiers_iff {claimed : List String} (nodup : claimed.Nodup)
    (claims : ∀ s ∈ claimed, IsClaim s) :
    (claimed.map identifier).Nodup ↔ KeptApart claimed := by
  rw [List.nodup_map_iff_inj_on nodup]
  constructor
  · intro inj
    refine ⟨fun s hs marked => ?_, fun s hs t ht ns nt => inj s hs t ht ?_⟩
    · have bare := (claims _ marked).not_mark_mem_of_marked
      rcases (claims s hs).identifier_eq with ⟨is, eq⟩ | ⟨stem, _, _, rfl, _⟩ | ⟨_, dot, _⟩
      · have same := inj s hs _ marked (by rw [eq, identifier_marked is])
        exact is.not_mark_mem (same ▸ mark_mem s)
      · exact bare (mark_mem stem)
      · exact bare dot
    · rw [(claims s hs).identifier_of_isNameless ns, (claims t ht).identifier_of_isNameless nt]
  · intro apart s hs t ht same
    rcases (claims s hs).eq_or_of_identifier_eq (claims t ht) same with eq | rfl | rfl | ⟨ns, nt⟩
    · exact eq
    · exact absurd ht (apart.unmarked s hs)
    · exact absurd hs (apart.unmarked t ht)
    · exact apart.nameless s hs t ht ns nt

end Componentry.Naming

namespace Componentry.ConversionOptions
open Componentry.Naming

/-- The names that are claimed for the identifiers of names, one after the other. -/
def claims : Namer → List String → List String
  | _, [] => []
  | namer, name :: rest =>
    let (claimed, namer) := namer.claim (Naming.identifier name) []
    claimed :: claims namer rest

/-- The identifiers are made from the claimed names. -/
theorem identifiers_eq_map_claims : ∀ (namer : Namer) (names : List String),
    identifiers namer names = (claims namer names).map Naming.identifier
  | _, [] => rfl
  | namer, name :: rest =>
    congrArg (_ :: ·) (identifiers_eq_map_claims (namer.claim (Naming.identifier name) []).2 rest)

/-- A name is claimed for each name asked for. -/
theorem length_claims : ∀ (namer : Namer) (names : List String),
    (claims namer names).length = names.length
  | _, [] => rfl
  | namer, name :: rest => by
    rw [claims, List.length_cons, List.length_cons,
      length_claims (namer.claim (Naming.identifier name) []).2 rest]

/-- What is claimed is a claim. -/
theorem isClaim_of_mem_claims {s : String} : ∀ {namer : Namer} {names : List String},
    s ∈ claims namer names → IsClaim s
  | namer, name :: rest, h => by
    rw [claims] at h
    rcases List.mem_cons.1 h with rfl | h
    · exact isClaim_claim (isIdentifier_identifier name) _
    · exact isClaim_of_mem_claims h

/-- What is claimed was not given before, and is not claimed twice. -/
theorem nodup_given_append_claims : ∀ (namer : Namer) (names : List String), namer.given.Nodup →
    (namer.given ++ claims namer names).Nodup
  | namer, [], h => by
    rw [claims, List.append_nil]
    exact h
  | namer, name :: rest, h => by
    -- the name claimed first counts as given for the others
    have next := Namer.nodup_given_claim h (Naming.identifier name) []
    have all := nodup_given_append_claims _ rest next
    rwa [Namer.given_claim, List.append_assoc, List.singleton_append] at all

/-- No name is claimed twice. -/
theorem nodup_claims (names : List String) : (claims {} names).Nodup :=
  nodup_given_append_claims {} names List.nodup_nil

/-! ## Written files -/

/-- Every component gets an identifier. -/
theorem isIdentifier_of_mem_identifiers {namer : Namer} {names : List String} {i : String}
    (h : i ∈ identifiers namer names) : IsIdentifier i := by
  rw [identifiers_eq_map_claims] at h
  obtain ⟨s, _, rfl⟩ := List.mem_map.1 h
  exact isIdentifier_identifier s

/-- There is an identifier for each component. -/
theorem length_identifiers (names : List String) :
    (identifiers {} names).length = names.length := by
  rw [identifiers_eq_map_claims, List.length_map, length_claims]

/-- The identifiers are distinct just when the claimed names are kept apart. -/
theorem nodup_identifiers (names : List String) :
    (identifiers {} names).Nodup ↔ KeptApart (claims {} names) := by
  rw [identifiers_eq_map_claims]
  exact nodup_identifiers_iff (nodup_claims names) fun _ => isClaim_of_mem_claims

/-- The ending of the files of components. -/
def componentEnding (o : ConversionOptions) : String := if o.typed then ".tsx" else ".jsx"

/-- A written component lies in the file of its identifier. -/
theorem fileName_of_writeComponent {o : ConversionOptions} {imports : List String}
    {s : ComponentSource} {i : String} {w : GeneratedSource} (hi : IsIdentifier i)
    (h : (o.writeComponent imports (s, i)).result = .ok w) :
    w.fileName = i ++ o.componentEnding := by
  obtain ⟨page, _, written⟩ := Outcome.result_bind_eq_ok.1 h
  have named : (o.source imports i).fileName = i ++ o.componentEnding := by
    obtain ⟨c, rest, chars, _⟩ := hi
    have filled : i ≠ "" := by
      rintro rfl
      cases chars
    rw [SourceOptions.fileName, SourceOptions.componentName, SourceOptions.language,
      ConversionOptions.source, if_neg (by rwa [beq_iff_eq]), String.append_assoc,
      ConversionOptions.componentEnding]
    cases o.typed <;> rfl
  change ((Generator.start (o.source imports i) Dict.empty).generate page).1 = .ok w at written
  rw [Generator.generate] at written
  split at written
  · cases written
  · cases written
    exact named

/-- The components of a generated conversion lie in files named after their identifiers, and the
index has one line for each identifier. -/
theorem names_of_generate {o : ConversionOptions} {sheet : Option GeneratedFile}
    {sources : List ComponentSource} {r : StageResult (List GeneratedFile)}
    (h : (o.generate sheet sources).result = .ok r) :
    r.value.map GeneratedFile.name =
      (identifiers {} (sources.map ComponentSource.name)).map (· ++ o.componentEnding) ++
        (o.index (identifiers {} (sources.map ComponentSource.name))).map GeneratedFile.name := by
  obtain ⟨written, all, h⟩ := Outcome.result_bind_eq_ok.1 h
  cases h
  have size : sources.length = (identifiers {} (sources.map ComponentSource.name)).length := by
    rw [length_identifiers, List.length_map]
  have files : written.map (fun w => w.fileName) =
      (sources.zip (identifiers {} (sources.map ComponentSource.name))).map
        fun s => s.2 ++ o.componentEnding :=
    Outcome.map_of_mapM (fun s hs _ hw => fileName_of_writeComponent
      (isIdentifier_of_mem_identifiers (List.of_mem_zip hs).2) hw) all
  have seconds := List.map_snd_zip (le_of_eq size.symm)
  rw [List.map_append, List.map_map]
  refine congrArg (· ++ _) (files.trans ?_)
  conv_rhs => rw [← seconds, List.map_map]
  rfl

/-- The end of a text is told apart from its start by the length of the start. -/
theorem append_inj_of_length {a b s t : String} (size : a.toList.length = b.toList.length)
    (h : a ++ s = b ++ t) : a = b := by
  have chars := congrArg String.toList h
  rw [String.toList_append, String.toList_append] at chars
  exact String.toList_inj.1 (List.append_inj_left chars size)

/-- A line of the index has the identifier twice between fixed texts. -/
theorem exists_indexLine_eq (o : ConversionOptions) : ∃ start middle stop : String,
    ∀ i, o.indexLine i = start ++ (i ++ (middle ++ (i ++ stop))) := by
  refine ⟨if o.typed then "export \x7b " else "export \x7b default as ", " \x7d from './", "';\n",
    fun i => ?_⟩
  rw [indexLine]
  cases o.typed <;> simp only [if_true, Bool.false_eq_true, if_false, String.append_assoc]

/-- The line of the index tells which identifier it exports. -/
theorem indexLine_injective (o : ConversionOptions) : Function.Injective o.indexLine := by
  obtain ⟨start, middle, stop, eq⟩ := exists_indexLine_eq o
  intro i j h
  rw [eq, eq, String.append_right_inj] at h
  -- lines of one length have identifiers of one length
  have long := congrArg (fun s : String => s.toList.length) h
  simp only [String.toList_append, List.length_append] at long
  exact append_inj_of_length (by omega) h

/-- Several identifiers have an index, with their lines. -/
theorem exists_index_eq (o : ConversionOptions) {names : List String} (several : 1 < names.length) :
    ∃ f, o.index names = [f] ∧ f.content = Text.concat (names.map o.indexLine) := by
  rw [index, if_neg (Nat.not_le.2 several)]
  exact ⟨_, rfl, rfl⟩

/-- No component lies in the file of the index, whose name starts with a small letter. -/
theorem index_not_mem {o : ConversionOptions} {names : List String}
    (ids : ∀ i ∈ names, IsIdentifier i) :
    ∀ f ∈ o.index names, f.name ∉ names.map (· ++ o.componentEnding) := by
  intro f hf mem
  obtain ⟨i, hi, eq⟩ := List.mem_map.1 mem
  obtain ⟨c, rest, chars, upper, _⟩ := ids i hi
  have start : f.name.toList.head? = some c := by
    rw [← eq, String.toList_append, chars, List.cons_append, List.head?_cons]
  rw [index] at hf
  split at hf
  · exact absurd hf List.not_mem_nil
  · have small : f.name.toList.head? = some 'i' := by
      rw [List.mem_singleton.1 hf]
      show (if o.typed then "index.ts" else "index.js").toList.head? = some 'i'
      cases o.typed <;> decide
    rw [start, Option.some.injEq] at small
    rw [small] at upper
    exact absurd upper (by decide)

/-- The identifiers that the components of a conversion are written under. -/
def fileIdentifiers (sources : List ComponentSource) : List String :=
  identifiers {} (sources.map ComponentSource.name)

/-- The names that are claimed for the components of a conversion. -/
def claimedNames (sources : List ComponentSource) : List String :=
  claims {} (sources.map ComponentSource.name)

/-- The files of a conversion have different names exactly when its identifiers are different. -/
theorem nodup_fileNames {o : ConversionOptions} {names : List String}
    (ids : ∀ i ∈ names, IsIdentifier i) :
    (names.map (· ++ o.componentEnding) ++ (o.index names).map GeneratedFile.name).Nodup ↔
      names.Nodup := by
  have single : ((o.index names).map GeneratedFile.name).Nodup := by
    rw [index]
    split
    · exact List.nodup_nil
    · exact List.nodup_singleton _
  have ending : Function.Injective (· ++ o.componentEnding) := fun _ _ h =>
    (String.append_left_inj _).1 h
  constructor
  · intro all
    exact (List.nodup_append.1 all).1.of_map _
  · intro nodup
    refine List.nodup_append.2 ⟨nodup.map ending, single, fun a ha b hb same => ?_⟩
    obtain ⟨f, hf, rfl⟩ := List.mem_map.1 hb
    exact index_not_mem ids f hf (same ▸ ha)

/-- Every component is written under an identifier. The identifiers are different, and with them
the files and the lines of the index, exactly when the claimed names are kept apart. -/
theorem files_nodup_iff_keptApart (o : ConversionOptions) (sheet : Option GeneratedFile)
    (sources : List ComponentSource) :
    (∀ i ∈ fileIdentifiers sources, IsIdentifier i) ∧
    ((fileIdentifiers sources).Nodup ↔ KeptApart (claimedNames sources)) ∧
    (((fileIdentifiers sources).map o.indexLine).Nodup ↔ KeptApart (claimedNames sources)) ∧
    ∀ r, (o.generate sheet sources).result = .ok r →
      r.value.map GeneratedFile.name = (fileIdentifiers sources).map (· ++ o.componentEnding) ++
        (o.index (fileIdentifiers sources)).map GeneratedFile.name ∧
      ((r.value.map GeneratedFile.name).Nodup ↔ KeptApart (claimedNames sources)) ∧
      (1 < (fileIdentifiers sources).length → ∃ f, r.value.getLast? = some f ∧
        f.content = Text.concat ((fileIdentifiers sources).map o.indexLine)) := by
  have ids : ∀ i ∈ fileIdentifiers sources, IsIdentifier i := fun _ =>
    isIdentifier_of_mem_identifiers
  have different : (fileIdentifiers sources).Nodup ↔ KeptApart (claimedNames sources) :=
    nodup_identifiers _
  refine ⟨ids, different, ?_, fun r h => ?_⟩
  · rw [List.nodup_map_iff (indexLine_injective o), different]
  · have names := names_of_generate h
    refine ⟨names, ?_, fun several => ?_⟩
    · rw [names, ← different]
      exact nodup_fileNames ids
    · obtain ⟨written, _, h⟩ := Outcome.result_bind_eq_ok.1 h
      cases h
      obtain ⟨f, indexed, content⟩ := o.exists_index_eq several
      refine ⟨f, ?_, content⟩
      show (_ ++ o.index (fileIdentifiers sources)).getLast? = _
      rw [indexed, List.getLast?_concat]

/-- Five different names of components of which the first and the last are written into one file:
the number of the last one makes it too long, and the identifier drops the mark of the cut. -/
theorem cut_name_shares_file :
    let stem := "A" ++ String.ofList (List.replicate 45 'a')
    let names := [stem, stem ++ "...", stem ++ "2", stem ++ "22", stem ++ "222"]
    names.Nodup ∧ identifiers {} names = [stem, stem ++ "2", stem ++ "22", stem ++ "222", stem] ∧
      ¬ (identifiers {} names).Nodup := by
  intro stem names
  have written : identifiers {} names = [stem, stem ++ "2", stem ++ "22", stem ++ "222", stem] := by
    decide +kernel
  refine ⟨?_, written, ?_⟩
  · have longer : ∀ s : String, s ≠ "" → stem ≠ stem ++ s := fun s filled same =>
      filled (String.append_eq_left_iff.1 same.symm)
    simp [names, longer]
  · rw [written]
    simp

end Componentry.ConversionOptions
