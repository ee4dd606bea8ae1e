import Componentry.Proofs.Files.Placement
import Componentry.Proofs.Text.Pieces

/-!
# Paths that cannot be

No path holds the character with the number zero. What is wrong with such a path is not that of the
files: it ends whatever asks for it. Only such a path does, whether a file is read or directories
are made, and of generated files only one whose own name holds the character.
-/

set_option autoImplicit false

namespace Componentry
open Componentry.Text

/-- Only an impossible path goes unreported. -/
theorem FileFault.isReported_eq_false_iff {f : FileFault} :
    f.isReported = false ↔ f = .impossible := by
  cases f <;> simp [isReported]

namespace FilePath

/-- A path is impossible when it holds the null character. -/
theorem isImpossible_iff {p : FilePath} : p.isImpossible = true ↔
    '\x00' ∈ p.root.toList ∨ ∃ part ∈ p.parts, '\x00' ∈ part.toList := by
  have slash : '\x00' ∉ "/".toList := by decide
  rw [isImpossible, List.contains_iff_mem, text]
  split
  next empty =>
    rw [Bool.and_eq_true, beq_iff_eq, List.isEmpty_iff] at empty
    rw [empty.1, empty.2]
    decide
  · rw [String.toList_append, List.mem_append, mem_join_iff slash]

/-- The path of a text cannot be exactly when the text holds the character. -/
theorem isImpossible_ofText {s : String} : (ofText s).isImpossible = true ↔ '\x00' ∈ s.toList := by
  have root : '\x00' ∉ (ofText s).root.toList := by
    show '\x00' ∉ (rootOf s.toList).toList
    unfold rootOf
    split <;> decide
  have piece : (∃ piece ∈ splitWhere (· == '/') s.toList, '\x00' ∈ piece) ↔ '\x00' ∈ s.toList :=
    mem_splitWhere_iff (by decide)
  rw [isImpossible_iff, or_iff_right root, ← piece]
  constructor
  · rintro ⟨part, hpart, mem⟩
    obtain ⟨piece, hpiece, rfl⟩ := List.mem_map.1 hpart
    rw [String.toList_ofList] at mem
    exact ⟨piece, (List.mem_filter.1 hpiece).1, mem⟩
  · rintro ⟨piece, hpiece, mem⟩
    have counted : counts piece = true := by
      rw [counts, Bool.and_eq_true, bne_iff_ne, bne_iff_ne]
      constructor
      · rintro rfl
        cases mem
      · rintro rfl
        revert mem
        decide
    exact ⟨String.ofList piece, List.mem_map_of_mem (List.mem_filter.2 ⟨hpiece, counted⟩), by
      rwa [String.toList_ofList]⟩

/-- What is below an impossible path is impossible. -/
theorem isImpossible_of_parent {p : FilePath} (h : p.parent.isImpossible = true) :
    p.isImpossible = true := by
  rw [isImpossible_iff] at h ⊢
  exact h.imp_right fun ⟨part, hpart, mem⟩ => ⟨part, List.dropLast_subset _ hpart, mem⟩

end FilePath

/-- The directory that a file is written to can be where the base can. -/
theorem GeneratedFile.isImpossible_of_parent_target {base : FilePath} {f : GeneratedFile}
    (h : (f.target base).parent.isImpossible = true) : base.isImpossible = true := by
  have plain : '\x00' ∉ f.kind.directory.toList := by
    cases f.kind <;> decide
  rw [FilePath.isImpossible_iff, FilePath.parent, GeneratedFile.target_eq] at h
  rw [FilePath.isImpossible_iff]
  refine h.imp_right fun ⟨part, hpart, mem⟩ => ⟨part, ?_, mem⟩
  rw [GeneratedFile.targetParts, List.dropLast_append_of_ne_nil (List.cons_ne_nil _ _)] at hpart
  refine (List.mem_append.1 hpart).resolve_right fun inside => ?_
  cases last : (FilePath.ofText f.name).parts.getLast? with
  | none =>
    rw [last] at inside
    cases inside
  | some name =>
    rw [last] at inside
    exact plain (List.mem_singleton.1 inside ▸ mem)

namespace FileTree
variable {t : FileTree} {path : FilePath}

/-- Only an impossible path is refused as one when it is located. -/
theorem locate_eq_impossible_iff :
    t.locate path = .error .impossible ↔ path.isImpossible = true := by
  rw [locate]
  split
  next impossible => simp [impossible]
  next possible =>
    refine iff_of_false ?_ possible
    split
    · simp
    · split
      · simp
      next obstacle _ => cases obstacle <;> simp [Obstacle.toFault]

/-- Only an impossible path is refused as one when it is read. -/
theorem read_eq_impossible_iff : t.read path = .error .impossible ↔ path.isImpossible = true := by
  rw [← locate_eq_impossible_iff (t := t), read]
  cases t.locate path with
  | error fault => simp [bind, Except.bind]
  | ok place =>
    simp only [bind, Except.bind, reduceCtorEq, iff_false]
    split <;> simp

/-- Only an impossible path is refused as one when a directory is made. -/
theorem addDirectory_eq_impossible_iff :
    t.addDirectory path = .error .impossible ↔ path.isImpossible = true := by
  rw [← locate_eq_impossible_iff (t := t), addDirectory]
  cases t.locate path with
  | error fault => simp [bind, Except.bind]
  | ok place =>
    simp only [bind, Except.bind, reduceCtorEq, iff_false]
    split <;> simp

/-- Only an impossible path is refused as one when it is written. -/
theorem write_eq_impossible_iff {content : String} :
    t.write path content = .error .impossible ↔ path.isImpossible = true := by
  rw [← locate_eq_impossible_iff (t := t), write]
  cases t.locate path with
  | error fault => simp [bind, Except.bind]
  | ok place =>
    simp only [bind, Except.bind, reduceCtorEq, iff_false]
    split <;> simp

/-- No directory stands at an impossible path. -/
theorem hasDirectory_of_isImpossible (h : path.isImpossible = true) :
    t.hasDirectory path = false := by
  rw [hasDirectory, locate_eq_impossible_iff.2 h]

/-- Directories cannot be made at a path that cannot be, and nothing is made on the way. -/
theorem ensure_of_isImpossible (h : path.isImpossible = true) :
    t.ensure path = (t, .error .impossible) := by
  have made : t.addDirectory path = .error .impossible := addDirectory_eq_impossible_iff.2 h
  have absent : t.hasDirectory path = false := hasDirectory_of_isImpossible h
  obtain ⟨root, parts⟩ := path
  rw [ensure]
  cases parts.length with
  | zero =>
    rw [ensureFrom, made]
    simp only [orPresent, absent, Bool.false_eq_true, if_false]
  | succ fuel =>
    rw [ensureFrom]
    simp only [made, isMissing, absent, Bool.false_eq_true, if_false]

/-- Only an impossible path is refused as one when it is made sure of. -/
theorem isImpossible_of_ensureFrom {root : String} : ∀ (fuel : Nat) (parts : List String)
    (t : FileTree), (ensureFrom root fuel parts t).2 = .error .impossible →
      (⟨root, parts⟩ : FilePath).isImpossible = true
  | 0, parts, t, h => by
    rw [ensureFrom] at h
    cases made : t.addDirectory ⟨root, parts⟩ with
    | ok t' =>
      rw [made] at h
      cases h
    | error fault =>
      rw [made, orPresent] at h
      cases present : t.hasDirectory ⟨root, parts⟩ with
      | true =>
        simp only [present, if_true] at h
        cases h
      | false =>
        simp only [present, Bool.false_eq_true, if_false] at h
        cases h
        exact addDirectory_eq_impossible_iff.1 made
  | fuel + 1, parts, t, h => by
    have above : ∀ t' : FileTree, t'.addDirectory ⟨root, parts⟩ = .error .impossible →
        (⟨root, parts⟩ : FilePath).isImpossible = true :=
      fun _ => addDirectory_eq_impossible_iff.1
    rw [ensureFrom] at h
    -- First the directory itself is tried, then those above it, then itself again.
    split at h
    · cases h
    next fault refused =>
      split at h
      · split at h
        next before =>
          have inside : (ensureFrom root fuel parts.dropLast t).2 = .error .impossible → _ :=
            isImpossible_of_ensureFrom fuel parts.dropLast t
          rw [before] at inside
          exact FilePath.isImpossible_of_parent (p := ⟨root, parts⟩) (inside h)
        next before =>
          split at h
          · cases h
          next fault' refused' =>
            split at h
            · cases h
            · cases h
              exact above _ refused'
      · split at h
        · cases h
        · cases h
          exact above _ refused

/-- Directories are refused as those of a path that cannot be only where that is so. -/
theorem ensure_eq_impossible_iff :
    (t.ensure path).2 = .error .impossible ↔ path.isImpossible = true := by
  refine ⟨isImpossible_of_ensureFrom _ _ _, fun h => ?_⟩
  rw [ensure_of_isImpossible h]

variable {base : FilePath}

/-- A generated file is refused for its path exactly if the directories for it are made and its name
holds the character. -/
theorem place_eq_impossible_iff {f : GeneratedFile} (possible : base.isImpossible = false) :
    (t.place base f).2 = .error .impossible ↔
      (∃ t₁, t.ensure (f.target base).parent = (t₁, .ok ())) ∧
        (f.target base).isImpossible = true := by
  have made : (t.ensure (f.target base).parent).2 ≠ .error .impossible := by
    rw [Ne, ensure_eq_impossible_iff]
    intro impossible
    rw [GeneratedFile.isImpossible_of_parent_target impossible] at possible
    cases possible
  rw [place]
  split
  next t₁ fault refused =>
    rw [refused] at made
    have other : fault ≠ .impossible := fun same => made (by rw [same])
    simp [refused, other]
  next t₁ ensured =>
    rw [← @write_eq_impossible_iff t₁ _ f.content, ensured]
    split
    next written => simp [written]
    next refused => simp [refused]

/-- Generated files are refused for a path exactly where writing them comes to a file whose name
holds the character. -/
theorem placeAll_eq_impossible_iff (possible : base.isImpossible = false) :
    ∀ {l : List GeneratedFile} {t : FileTree}, (placeAll base l t).2 = .error .impossible ↔
      ∃ earlier f later t₁ paths t₂, l = earlier ++ f :: later ∧
        placeAll base earlier t = (t₁, .ok paths) ∧
        t₁.ensure (f.target base).parent = (t₂, .ok ()) ∧ (f.target base).isImpossible = true
  | [], t => by simp [placeAll]
  | g :: rest, t => by
    have first := place_eq_impossible_iff (t := t) (f := g) possible
    cases placed : t.place base g with
    | mk t₁ result =>
    rw [placed] at first
    -- Either this file is the one that is refused, or it is among the earlier ones.
    cases result with
    | error fault =>
      rw [placeAll_cons_of_error rest placed]
      simp only [Except.error.injEq] at first ⊢
      rw [first]
      constructor
      · rintro ⟨⟨t₂, ensured⟩, impossible⟩
        exact ⟨[], g, rest, t, [], t₂, rfl, rfl, ensured, impossible⟩
      · rintro ⟨earlier, f, later, t₂, paths, t₃, split, before, ensured, impossible⟩
        cases earlier with
        | nil =>
          cases before
          cases split
          exact ⟨⟨t₃, ensured⟩, impossible⟩
        | cons g' earlier =>
          cases split
          rw [placeAll_cons_of_error _ placed] at before
          cases before
    | ok target =>
      obtain ⟨rfl, -⟩ := exists_of_place placed
      have more : (placeAll base rest t₁).2.map (g.target base :: ·) = .error .impossible ↔
          (placeAll base rest t₁).2 = .error .impossible := by
        cases (placeAll base rest t₁).2 <;> simp [Except.map]
      rw [placeAll_cons_of_ok rest placed, more,
        placeAll_eq_impossible_iff possible (l := rest) (t := t₁)]
      constructor
      · rintro ⟨earlier, f, later, t₂, paths, t₃, rfl, before, behind⟩
        refine ⟨g :: earlier, f, later, t₂, g.target base :: paths, t₃, rfl, ?_, behind⟩
        rw [placeAll_cons_of_ok _ placed, before]
        rfl
      · rintro ⟨earlier, f, later, t₂, paths, t₃, split, before, ensured, impossible⟩
        cases earlier with
        | nil =>
          cases before
          cases split
          cases first.2 ⟨⟨t₃, ensured⟩, impossible⟩
        | cons g' earlier =>
          cases split
          obtain ⟨t₄, paths', again, others, -⟩ := placeAll_cons_eq_ok before
          rw [placed] at again
          cases again
          exact ⟨earlier, f, later, t₂, paths', t₃, rfl, others, ensured, impossible⟩

end FileTree
end Componentry
