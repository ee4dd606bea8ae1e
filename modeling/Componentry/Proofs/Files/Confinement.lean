import Componentry.Proofs.Files.Impossible

/-!
# Generated files stay below their base

Whatever name a generated file has, only the last part of it counts. If that part is a double
point, the file would be the base itself, which is a directory, and it is refused. So a file that is
written stands in the directory for its kind, below the place of the base. This holds for every file
that was written before a fault, too, and wherever no file was written, files are as they were.
-/

set_option autoImplicit false

/-! ## Base and targets -/

namespace Componentry
open Componentry.Text

namespace FilePath

/-- More texts that are joined take no less room. -/
theorem utf8ByteSize_join_le (separator : String) : ∀ l m : List String,
    (join separator l).utf8ByteSize ≤ (join separator (l ++ m)).utf8ByteSize
  | [], m => Nat.zero_le _
  | [s], [] => Nat.le_refl _
  | [s], t :: rest => by
    rw [List.singleton_append, join, join, String.utf8ByteSize_append, String.utf8ByteSize_append,
      Nat.add_assoc]
    exact Nat.le_add_right _ _
  | s :: t :: rest, m => by
    have ih := utf8ByteSize_join_le separator (t :: rest) m
    rw [List.cons_append] at ih
    rw [List.cons_append, List.cons_append, join, join, String.utf8ByteSize_append,
      String.utf8ByteSize_append, String.utf8ByteSize_append, String.utf8ByteSize_append]
    exact Nat.add_le_add_left ih _

/-- A path is no longer than one that goes on in a directory with a name. -/
theorem utf8ByteSize_text_le {directory : String} (named : 0 < directory.utf8ByteSize)
    (p : FilePath) (rest : List String) :
    p.text.utf8ByteSize ≤
      ({ p with parts := p.parts ++ directory :: rest } : FilePath).text.utf8ByteSize := by
  obtain ⟨root, parts⟩ := p
  have longer : (text ⟨root, parts ++ directory :: rest⟩) =
      root ++ join "/" (parts ++ directory :: rest) := by
    rw [text, List.isEmpty_eq_false_iff.2 (by simp), Bool.and_false, if_neg Bool.false_ne_true]
  rw [longer, text, String.utf8ByteSize_append]
  split
  next bare =>
    have point : ".".utf8ByteSize = 1 := by decide
    obtain ⟨-, empty⟩ := Bool.and_eq_true_iff.1 bare
    have start := utf8ByteSize_join_le "/" [directory] rest
    dsimp only at empty ⊢
    rw [List.isEmpty_iff.1 empty, List.nil_append, point]
    exact Nat.le_trans (Nat.le_trans named start) (Nat.le_add_left _ _)
  next =>
    rw [String.utf8ByteSize_append]
    exact Nat.add_le_add_left (utf8ByteSize_join_le _ _ _) _

/-- The parts of a path have no stroke. -/
theorem slash_not_mem_of_mem_ofText {s part : String} (h : part ∈ (ofText s).parts) :
    '/' ∉ part.toList := by
  obtain ⟨piece, hpiece, rfl⟩ := List.mem_map.1 h
  rw [String.toList_ofList]
  intro slash
  have other := eq_false_of_mem_splitWhere _ _ piece (List.mem_filter.1 hpiece).1 '/' slash
  cases other

end FilePath

namespace FileTree
variable {t t' : FileTree} {base : FilePath} {f : GeneratedFile} {place : List String}

/-- A file that is written stands in the directory for its kind, under a name that is no double
point. -/
theorem exists_place_of_target (located : t.locate (f.target base) = .ok place)
    (free : t.entry? place ≠ some .directory) :
    ∃ here, t.locate base = .ok here ∧ place = here ++ f.targetParts ∧ ".." ∉ f.targetParts := by
  obtain ⟨here, found, inside⟩ := exists_of_locate_target located free
  rw [locate_eq_ok_iff, GeneratedFile.target_eq] at located
  obtain ⟨possible, short, -⟩ := located
  have named : 0 < f.kind.directory.utf8ByteSize := by
    cases f.kind <;> decide
  refine ⟨here, locate_eq_ok_iff.2 ⟨?_, ?_, found⟩, inside⟩
  · rw [Bool.eq_false_iff, Ne, FilePath.isImpossible_iff] at possible ⊢
    exact fun impossible => possible (impossible.imp_right fun ⟨part, hpart, mem⟩ =>
      ⟨part, List.mem_append_left _ hpart, mem⟩)
  · exact Nat.le_trans (FilePath.utf8ByteSize_text_le named base _) short

/-! ## Files written one by one -/

/-- A tree with more directories, and with the same files. -/
structure GrowsDirectories (t t' : FileTree) : Prop extends Grows t t' where
  file : ∀ {place content}, t'.entry? place = some (.file content) →
    t.entry? place = some (.file content)

/-- Where only directories were made the files are as they were. -/
theorem GrowsDirectories.files (h : GrowsDirectories t t') (place : List String)
    (content : String) :
    t'.entry? place = some (.file content) ↔ t.entry? place = some (.file content) :=
  ⟨h.file, h.entry⟩

/-- To make sure of a directory makes directories only. -/
theorem growsDirectories_ensure (t : FileTree) (path : FilePath) :
    GrowsDirectories t (t.ensure path).1 := by
  refine ensure_induction (motive := GrowsDirectories t) (fun {t₁ t₂ path} grown made => ?_)
    ⟨.refl t, id⟩ path
  refine ⟨grown.trans (grows_addDirectory made), fun {place content} file => grown.file ?_⟩
  obtain ⟨free, -, nothing, rfl⟩ := exists_of_addDirectory made
  have other : place ≠ free := by
    rintro rfl
    have below : place ≠ [] := by
      rintro rfl
      cases nothing
    rw [put_self _ below] at file
    cases file
  rwa [put_of_ne _ other] at file

/-- What comes of placing a file: it is refused when directories are made for it or after that, or
it is written below the base. -/
inductive IsPlacing (base : FilePath) (f : GeneratedFile) (t : FileTree) :
    FileTree × Except FileFault FilePath → Prop where
  | refused {t' : FileTree} {fault : FileFault} (grown : GrowsDirectories t t') :
      IsPlacing base f t (t', .error fault)
  | written {t₁ : FileTree} {here : List String} (grown : GrowsDirectories t t₁)
      (base_ : t₁.locate base = .ok here)
      (target : t₁.locate (f.target base) = .ok (here ++ f.targetParts))
      (free : t₁.entry? (here ++ f.targetParts) ≠ some .directory) (named : ".." ∉ f.targetParts) :
      IsPlacing base f t (t₁.put (here ++ f.targetParts) (.file f.content), .ok (f.target base))

/-- Placing a file makes directories, and then the file at most. -/
theorem isPlacing_place (t : FileTree) (base : FilePath) (f : GeneratedFile) :
    IsPlacing base f t (t.place base f) := by
  have grown := growsDirectories_ensure t (f.target base).parent
  rw [place]
  split
  next made =>
    rw [made] at grown
    exact .refused grown
  next made =>
    rw [made] at grown
    split
    next written =>
      obtain ⟨place, located, free, rfl⟩ := exists_of_write written
      obtain ⟨here, at_, rfl, named⟩ := exists_place_of_target located free
      exact .written grown at_ located free named
    next => exact .refused grown

/-- The files that are written, up to the first one that is refused. -/
def written (base : FilePath) : List GeneratedFile → FileTree → List GeneratedFile
  | [], _ => []
  | f :: rest, t =>
    match t.place base f with
    | (_, .error _) => []
    | (t', .ok _) => f :: written base rest t'

/-- Between two trees some files were written, each below the base; what had a place keeps it, and
where none of them stands files are as they were. -/
structure IsConfined (base : FilePath) (written : List GeneratedFile) (t t' : FileTree) :
    Prop where
  locate : ∀ {path place}, t.locate path = .ok place → t'.locate path = .ok place
  below : ∀ f ∈ written, ∃ here, t'.locate base = .ok here ∧
    t'.locate (f.target base) = .ok (here ++ f.targetParts)
  named : ∀ f ∈ written, ".." ∉ f.targetParts
  elsewhere : ∀ place, (∀ f ∈ written, t'.locate (f.target base) ≠ .ok place) →
    ∀ content, t'.entry? place = some (.file content) ↔ t.entry? place = some (.file content)

/-- Where only directories were made nothing was written at all. -/
theorem GrowsDirectories.isConfined (h : GrowsDirectories t t') (base : FilePath) :
    IsConfined base [] t t' where
  locate := h.locate
  below _ hf := nomatch hf
  named _ hf := nomatch hf
  elsewhere place _ := h.files place

/-- A file that is written, and then others. -/
theorem IsConfined.cons {t₁ t₂ : FileTree} {here : List String} {others : List GeneratedFile}
    (grown : GrowsDirectories t t₁) (at_ : t₁.locate base = .ok here)
    (target : t₁.locate (f.target base) = .ok (here ++ f.targetParts))
    (free : t₁.entry? (here ++ f.targetParts) ≠ some .directory) (named : ".." ∉ f.targetParts)
    (rest : IsConfined base others (t₁.put (here ++ f.targetParts) (.file f.content)) t₂) :
    IsConfined base (f :: others) t t₂ where
  locate found := rest.locate (locate_put free (grown.locate found))
  below := List.forall_mem_cons.2
    ⟨⟨here, rest.locate (locate_put free at_), rest.locate (locate_put free target)⟩, rest.below⟩
  named := List.forall_mem_cons.2 ⟨named, rest.named⟩
  elsewhere place apart content := by
    obtain ⟨first, apart⟩ := List.forall_mem_cons.1 apart
    have other : place ≠ here ++ f.targetParts := by
      rintro rfl
      exact first (rest.locate (locate_put free target))
    rw [rest.elsewhere place apart, put_of_ne _ other, grown.files]

/-- Placing files writes some of them below the base, up to the first fault. -/
theorem isConfined_placeAll (base : FilePath) : ∀ (l : List GeneratedFile) (t : FileTree),
    IsConfined base (written base l t) t (placeAll base l t).1
  | [], t => GrowsDirectories.isConfined ⟨.refl t, id⟩ base
  | f :: rest, t => by
    have placing := isPlacing_place t base f
    rw [written]
    cases placed : t.place base f with
    | mk t₁ result =>
    rw [placed] at placing
    cases placing with
    | refused grown =>
      rw [placeAll_cons_of_error rest placed]
      exact grown.isConfined base
    | written grown at_ target free named =>
      rw [placeAll_cons_of_ok rest placed]
      exact .cons grown at_ target free named (isConfined_placeAll base rest _)

/-- Where no file is refused all are written. -/
theorem written_of_placeAll : ∀ {l : List GeneratedFile} {t t' : FileTree} {paths : List FilePath},
    placeAll base l t = (t', .ok paths) → written base l t = l
  | [], _, _, _, _ => rfl
  | f :: rest, t, t', paths, h => by
    obtain ⟨t₁, paths', placed, more, -⟩ := placeAll_cons_eq_ok h
    rw [written, placed]
    dsimp only
    rw [written_of_placeAll more]

/-- The files that are written are the first ones of the list. -/
theorem isPrefix_written (base : FilePath) : ∀ (l : List GeneratedFile) (t : FileTree),
    written base l t <+: l
  | [], _ => List.prefix_rfl
  | f :: rest, t => by
    rw [written]
    split
    · exact List.nil_prefix
    · exact List.cons_prefix_cons.2 ⟨rfl, isPrefix_written base rest _⟩

/-- A place lies strictly below another. -/
def IsBelow (here place : List String) : Prop := ∃ rest, rest ≠ [] ∧ place = here ++ rest

/-- A path is that of a directory for generated files or of a name right in it. -/
def IsOutput (base path : FilePath) : Prop :=
  ∃ directory ∈ ["components", "styles"], ∃ name : Option String,
    path = { base with parts := base.parts ++ directory :: name.toList } ∧
      ∀ part ∈ name, '/' ∉ part.toList ∧ part ≠ ".."

/-- A file whose path does not lead back is put out below the base. -/
theorem isOutput_target (base : FilePath) {f : GeneratedFile} (named : ".." ∉ f.targetParts) :
    IsOutput base (f.target base) := by
  have known : f.kind.directory ∈ ["components", "styles"] := by
    cases f.kind <;> decide
  refine ⟨_, known, _, GeneratedFile.target_eq base f, fun part last => ⟨?_, ?_⟩⟩
  · exact FilePath.slash_not_mem_of_mem_ofText (List.mem_of_getLast? last)
  · rintro rfl
    refine named (List.mem_cons_of_mem _ ?_)
    rw [Option.mem_toList]
    exact last

/-- Whatever the names of generated files are, and whether all of them are written or one is
refused: each one that was written stands strictly below the base, files are as they were wherever
none of them stands, and the paths that are given are those of the directories for them with at most
one name behind. -/
theorem placed_files_stay_below (base : FilePath) (files : List GeneratedFile) (t : FileTree) :
    let run := placeAll base files t
    let writes := written base files t
    writes <+: files ∧
      (∀ f ∈ writes, ∃ here place, run.1.locate base = .ok here ∧
        run.1.locate (f.target base) = .ok place ∧ IsBelow here place) ∧
      (∀ place, (∀ f ∈ writes, run.1.locate (f.target base) ≠ .ok place) → ∀ content,
        FileTree.entry? run.1 place = some (.file content) ↔
          t.entry? place = some (.file content)) ∧
      ∀ paths, run.2 = .ok paths → writes = files ∧
        paths = files.map (fun f => f.target base) ∧ ∀ path ∈ paths, IsOutput base path := by
  have confined := isConfined_placeAll base files t
  refine ⟨isPrefix_written base files t, fun f hf => ?_, confined.elsewhere, fun paths h => ?_⟩
  · obtain ⟨here, at_, target⟩ := confined.below f hf
    exact ⟨here, _, at_, target, f.targetParts, List.cons_ne_nil _ _, rfl⟩
  · have run : placeAll base files t = ((placeAll base files t).1, .ok paths) := Prod.ext rfl h
    have all := written_of_placeAll run
    have targets := eq_map_target_of_placeAll run
    refine ⟨all, targets, fun path hpath => ?_⟩
    rw [targets] at hpath
    obtain ⟨f, hf, rfl⟩ := List.mem_map.1 hpath
    exact isOutput_target base (confined.named f (all.symm ▸ hf))

/-- A name that leads up twice, and then a name that is a double point: the first file is written
below the base, the second one is refused. -/
theorem placed_files_stay_below_of_parents :
    let files : List GeneratedFile := [{ name := "../../a.css", content := "p", kind := .style },
      { name := "..", content := "q" }]
    let run := placeAll ⟨"", ["out"]⟩ files {}
    run.2.toOption = none ∧ FileTree.entry? run.1 ["out", "styles", "a.css"] = some (.file "p") ∧
      ∀ f ∈ written ⟨"", ["out"]⟩ files {}, ∃ here place,
        run.1.locate ⟨"", ["out"]⟩ = .ok here ∧
          run.1.locate (f.target ⟨"", ["out"]⟩) = .ok place ∧ IsBelow here place := by
  refine ⟨by decide +kernel, by decide +kernel, ?_⟩
  exact (placed_files_stay_below ⟨"", ["out"]⟩ _ {}).2.1

end FileTree
end Componentry
