import Componentry.Output
import Mathlib.Data.List.Basic

/-!
# Files that were placed

What is written to a path is read back from it: the directories that lead to the place of a file are
not where the file stands. Making directories leaves all as it was, and files with different targets
stand in different places. So a file that was placed is found under its target, which is the path of
its name if that has no directories, unless a later one has the same target.
-/

set_option autoImplicit false

namespace Componentry

namespace FileTree

/-- What was put aside at one place does not matter at another. -/
theorem lookup_filter_ne {α : Type} {place place' : List String} (other : place' ≠ place)
    (l : List (List String × α)) :
    (l.filter fun old => old.1 != place).lookup place' = l.lookup place' := by
  induction l with
  | nil => rfl
  | cons e rest ih =>
    obtain ⟨place'', a⟩ := e
    by_cases same : place'' = place
    · have here : (place' == place'') = false := beq_eq_false_iff_ne.2 (same ▸ other)
      rw [List.filter_cons_of_neg (by simp [same]), ih, List.lookup_cons, here]
    · rw [List.filter_cons_of_pos (by simpa using same), List.lookup_cons, List.lookup_cons, ih]

/-- What is found nowhere in the first list is looked for in the second. -/
theorem lookup_append_none {α : Type} {place : List String} {l m : List (List String × α)}
    (h : l.lookup place = none) : (l ++ m).lookup place = m.lookup place := by
  rw [List.lookup_append, h]
  rfl

/-- Other places stay as they are. -/
theorem put_of_ne {t : FileTree} {place place' : List String} (e : FileEntry)
    (other : place' ≠ place) : FileTree.entry? (t.put place e) place' = t.entry? place' := by
  cases place' with
  | nil => rfl
  | cons part rest =>
    show ((t.entries.filter fun old => old.1 != place) ++ [(place, e)]).lookup _ =
      t.entries.lookup _
    rw [List.lookup_append, lookup_filter_ne other, List.lookup_cons,
      beq_eq_false_iff_ne.2 other]
    exact Option.or_none

/-- What was put at a place below the root stands there. -/
theorem put_self {t : FileTree} {place : List String} (e : FileEntry) (below : place ≠ []) :
    FileTree.entry? (t.put place e) place = some e := by
  cases place with
  | nil => exact absurd rfl below
  | cons part rest =>
    show ((t.entries.filter fun old => old.1 != part :: rest) ++ [(part :: rest, e)]).lookup _ = _
    have gone : (t.entries.filter fun old => old.1 != part :: rest).lookup (part :: rest) =
        none := by
      rw [List.lookup_eq_none_iff]
      intro e he
      have other := (List.mem_filter.1 he).2
      rw [bne_iff_ne] at other
      exact bne_iff_ne.2 (Ne.symm other)
    rw [lookup_append_none gone, List.lookup_cons_self]

/-- A path leads to the same place after something was put where no directory stood. -/
theorem follow_put {t : FileTree} {free final : List String} {e : FileEntry}
    (h : t.entry? free ≠ some .directory) : ∀ (parts place : List String),
    t.follow place parts = .ok final → (t.put free e).follow place parts = .ok final
  | [], _, found => found
  | part :: rest, place, found => by
    rw [follow] at found ⊢
    cases here : t.entry? place with
    | none =>
      rw [here] at found
      cases found
    | some old =>
      cases old with
      | file text =>
        rw [here] at found
        cases found
      | directory =>
        -- A place that is walked through is a directory, so it is not the one that was put to.
        have other : place ≠ free := fun same => h (same ▸ here)
        rw [here] at found
        rw [put_of_ne _ other, here]
        dsimp only at found ⊢
        split at found
        · next up =>
          rw [if_pos up]
          exact follow_put h rest _ found
        · next down =>
          rw [if_neg down]
          split at found
          · cases found
          · next short =>
            rw [if_neg short]
            exact follow_put h rest _ found

/-- Where a path starts from. -/
def start (t : FileTree) (path : FilePath) : List String :=
  if path.isAbsolute then [] else t.workingDirectory

/-- A path leads to a place if it is possible, not too long, and all its parts can be followed.
-/
theorem locate_eq_ok_iff {t : FileTree} {path : FilePath} {place : List String} :
    t.locate path = .ok place ↔ path.isImpossible = false ∧
      path.text.utf8ByteSize ≤ longestPath ∧ t.follow (t.start path) path.parts = .ok place := by
  rw [locate]
  split
  · next impossible => simp [impossible]
  · next possible =>
    split
    · next long => simp [Nat.not_le.2 long]
    · next short =>
      rw [start]
      split
      next found => simp [Bool.eq_false_iff.2 possible, Nat.not_lt.1 short, found]
      next obstacle found => simp [found]

/-- A path leads to the same place after something was put where no directory stood. -/
theorem locate_put {t : FileTree} {path : FilePath} {free place : List String} {e : FileEntry}
    (h : t.entry? free ≠ some .directory) (found : t.locate path = .ok place) :
    (t.put free e).locate path = .ok place := by
  rw [locate_eq_ok_iff] at found ⊢
  exact ⟨found.1, found.2.1, follow_put h _ _ found.2.2⟩

/-- A file is read where its path leads to one. -/
theorem read_eq_ok_iff {t : FileTree} {path : FilePath} {content : String} :
    t.read path = .ok content ↔
      ∃ place, t.locate path = .ok place ∧ t.entry? place = some (.file content) := by
  rw [read]
  cases t.locate path with
  | error fault => simp [bind, Except.bind]
  | ok place =>
    simp only [bind, Except.bind, Except.ok.injEq, exists_eq_left']
    split <;> simp_all

/-- A file is written where no directory stands. -/
theorem exists_of_write {t t' : FileTree} {path : FilePath} {content : String}
    (h : t.write path content = .ok t') : ∃ place, t.locate path = .ok place ∧
      t.entry? place ≠ some .directory ∧ t' = t.put place (.file content) := by
  rw [write] at h
  cases located : t.locate path with
  | error fault =>
    rw [located] at h
    cases h
  | ok place =>
    rw [located] at h
    simp only [bind, Except.bind] at h
    split at h
    · cases h
    · next free => exact ⟨place, rfl, free, (Except.ok.inj h).symm⟩

/-- What was written is read back. -/
theorem read_write {t t' : FileTree} {path : FilePath} {content : String}
    (h : t.write path content = .ok t') : t'.read path = .ok content := by
  obtain ⟨place, located, free, rfl⟩ := exists_of_write h
  have below : place ≠ [] := by
    rintro rfl
    exact free rfl
  exact read_eq_ok_iff.2 ⟨place, locate_put free located, put_self _ below⟩

/-! ## Directories -/

/-- A tree in which all is where it was, and more may stand beside it. -/
structure Grows (t t' : FileTree) : Prop where
  locate : ∀ {path place}, t.locate path = .ok place → t'.locate path = .ok place
  entry : ∀ {place e}, t.entry? place = some e → t'.entry? place = some e

/-- A tree that did not change has grown. -/
theorem Grows.refl (t : FileTree) : Grows t t := ⟨id, id⟩

/-- Growing twice is growing. -/
theorem Grows.trans {t t' t'' : FileTree} (h : Grows t t') (h' : Grows t' t'') : Grows t t'' :=
  ⟨fun found => h'.locate (h.locate found), fun found => h'.entry (h.entry found)⟩

/-- What could be read can be read after the tree has grown. -/
theorem Grows.read {t t' : FileTree} (h : Grows t t') {path : FilePath} {content : String}
    (found : t.read path = .ok content) : t'.read path = .ok content := by
  obtain ⟨place, located, file⟩ := read_eq_ok_iff.1 found
  exact read_eq_ok_iff.2 ⟨place, h.locate located, h.entry file⟩

/-- A directory is made where nothing stands. -/
theorem exists_of_addDirectory {t t' : FileTree} {path : FilePath}
    (h : t.addDirectory path = .ok t') : ∃ place, t.locate path = .ok place ∧
      t.entry? place = none ∧ t' = t.put place .directory := by
  rw [addDirectory] at h
  cases located : t.locate path with
  | error fault =>
    rw [located] at h
    cases h
  | ok place =>
    rw [located] at h
    simp only [bind, Except.bind] at h
    split at h
    · cases h
    · next nothing => exact ⟨place, rfl, nothing, (Except.ok.inj h).symm⟩

/-- A tree grows when a directory is made. -/
theorem grows_addDirectory {t t' : FileTree} {path : FilePath}
    (h : t.addDirectory path = .ok t') : Grows t t' := by
  obtain ⟨place, -, nothing, rfl⟩ := exists_of_addDirectory h
  have free : t.entry? place ≠ some .directory := by
    rw [nothing]
    exact Option.some_ne_none _ |>.symm
  refine ⟨locate_put free, fun {place' e} found => ?_⟩
  have other : place' ≠ place := by
    rintro rfl
    rw [nothing] at found
    cases found
  rw [put_of_ne _ other, found]

/-- What holds of trees wherever a directory is made holds when directories are made. -/
theorem ensureFrom_induction {motive : FileTree → Prop}
    (step : ∀ {t t' : FileTree} {path : FilePath}, motive t → t.addDirectory path = .ok t' →
      motive t')
    (root : String) : ∀ (fuel : Nat) (parts : List String) (t : FileTree), motive t →
      motive (ensureFrom root fuel parts t).1
  | 0, parts, t, start => by
    rw [ensureFrom]
    cases made : t.addDirectory ⟨root, parts⟩ with
    | ok t' => exact step start made
    | error fault =>
      rw [orPresent]
      cases t.hasDirectory ⟨root, parts⟩ <;> exact start
  | fuel + 1, parts, t, start => by
    -- The parents are made first, by one part less.
    have ih := ensureFrom_induction step root fuel parts.dropLast t start
    rw [ensureFrom]
    split
    next made => exact step start made
    · split
      · split
        next before =>
          rw [before] at ih
          exact ih
        next before =>
          rw [before] at ih
          split
          next made => exact step ih made
          · split <;> exact ih
      · split <;> exact start

/-- What holds of trees wherever a directory is made holds when a path is made sure of. -/
theorem ensure_induction {motive : FileTree → Prop}
    (step : ∀ {t t' : FileTree} {path : FilePath}, motive t → t.addDirectory path = .ok t' →
      motive t')
    {t : FileTree} (start : motive t) (path : FilePath) : motive (t.ensure path).1 :=
  ensureFrom_induction step _ _ _ _ start

/-- Making directories leaves all as it was. -/
theorem grows_ensure (t : FileTree) (path : FilePath) : Grows t (t.ensure path).1 :=
  ensure_induction (fun grown made => grown.trans (grows_addDirectory made)) (.refl t) path

/-! ## Files side by side -/

/-- A path is followed in two parts: to a place, and on from there. -/
theorem follow_append {t : FileTree} {final : List String} :
    ∀ {parts place more : List String}, t.follow place (parts ++ more) = .ok final →
      ∃ here, t.follow place parts = .ok here ∧ t.follow here more = .ok final
  | [], place, _, h => ⟨place, rfl, h⟩
  | part :: rest, place, more, h => by
    rw [List.cons_append, follow] at h
    rw [follow]
    cases here : t.entry? place with
    | none =>
      rw [here] at h
      cases h
    | some e =>
      cases e with
      | file old =>
        rw [here] at h
        cases h
      | directory =>
        rw [here] at h
        dsimp only at h ⊢
        split at h
        · next up =>
          rw [if_pos up]
          exact follow_append h
        · next down =>
          rw [if_neg down]
          split at h
          · cases h
          · next short =>
            rw [if_neg short]
            exact follow_append h

end FileTree

namespace GeneratedFile

/-- The path of a name in the directory for files of a kind, with all directories of the name. -/
def pathOf (base : FilePath) (kind : FileKind) (name : String) : FilePath :=
  { base with parts := base.parts ++ kind.directory :: (FilePath.ofText name).parts }

/-- What a target has behind the base: the directory for its kind and the last part of its name. -/
def targetParts (f : GeneratedFile) : List String :=
  f.kind.directory :: (FilePath.ofText f.name).parts.getLast?.toList

/-- A file goes to its directory and its name, below the base. -/
theorem target_eq (base : FilePath) (f : GeneratedFile) :
    f.target base = { base with parts := base.parts ++ f.targetParts } := by
  have below (d : FilePath) (parts : List String) :
      d.under ⟨"", parts⟩ = { d with parts := d.parts ++ parts } := rfl
  rw [target, below, below, List.append_assoc]
  rfl

/-- A file is written at the path of its name exactly when its name has no directories. -/
theorem target_eq_pathOf_iff (base : FilePath) (f : GeneratedFile) :
    f.target base = pathOf base f.kind f.name ↔ (FilePath.ofText f.name).parts.length ≤ 1 := by
  rw [target_eq, pathOf, targetParts]
  simp only [FilePath.mk.injEq, true_and, List.append_cancel_left_eq, List.cons.injEq]
  cases (FilePath.ofText f.name).parts with
  | nil => exact iff_of_true rfl (Nat.zero_le 1)
  | cons part rest =>
    cases rest with
    | nil => exact iff_of_true rfl (Nat.le_refl 1)
    | cons next rest =>
      refine iff_of_false (fun same => ?_) (by simp)
      have size := congrArg List.length same
      rw [Option.length_toList] at size
      split at size <;> simp at size

end GeneratedFile

namespace FileTree

/-- A file that is written stands in the directory for its kind, below the place of the base: a
double point for its name would lead back to the base, which is a directory. -/
theorem exists_of_locate_target {t : FileTree} {base : FilePath} {f : GeneratedFile}
    {place : List String} (located : t.locate (f.target base) = .ok place)
    (free : t.entry? place ≠ some .directory) :
    ∃ here, t.follow (t.start base) base.parts = .ok here ∧ place = here ++ f.targetParts ∧
      ".." ∉ f.targetParts := by
  rw [locate_eq_ok_iff, GeneratedFile.target_eq] at located
  obtain ⟨here, found, inside⟩ := follow_append located.2.2
  refine ⟨here, found, ?_⟩
  have down : (f.kind.directory == "..") = false := by
    cases f.kind <;> rfl
  have other : ".." ≠ f.kind.directory := (beq_eq_false_iff_ne.1 down).symm
  rw [GeneratedFile.targetParts, follow] at inside
  split at inside
  · cases inside
  · cases inside
  next root =>
    rw [down, if_neg Bool.false_ne_true] at inside
    split at inside
    · cases inside
    -- A name may come down to no part at all; the file then stands for the directory itself.
    cases last : (FilePath.ofText f.name).parts.getLast? with
    | none =>
      rw [last] at inside
      rw [GeneratedFile.targetParts, last]
      exact ⟨(Except.ok.inj inside).symm, fun up => other (List.mem_singleton.1 up)⟩
    | some part =>
      rw [last, Option.toList_some, follow] at inside
      split at inside
      · cases inside
      · cases inside
      split at inside
      -- A double point leads back to the base, where a directory stands.
      next up =>
        rw [follow, List.dropLast_concat] at inside
        cases inside
        exact absurd root free
      next named =>
        split at inside
        · cases inside
        · rw [follow] at inside
          rw [GeneratedFile.targetParts, last, ← Except.ok.inj inside, List.append_assoc]
          refine ⟨rfl, fun up => ?_⟩
          rcases List.mem_cons.1 up with up | up
          · exact other up
          · exact named (beq_iff_eq.2 (List.mem_singleton.1 up).symm)

/-- Placing a file makes directories for it and writes it at its target. -/
theorem exists_of_place {t t' : FileTree} {base path : FilePath} {f : GeneratedFile}
    (h : t.place base f = (t', .ok path)) : path = f.target base ∧
      ∃ t₁, Grows t t₁ ∧ t₁.write (f.target base) f.content = .ok t' := by
  rw [place] at h
  have grows := grows_ensure t (f.target base).parent
  split at h
  · cases h
  next t₁ made =>
    rw [made] at grows
    split at h
    next written =>
      cases h
      exact ⟨rfl, t₁, grows, written⟩
    · cases h

/-- A file that is refused stops the placing. -/
theorem placeAll_cons_of_error {t t₁ : FileTree} {base : FilePath} {f : GeneratedFile}
    {fault : FileFault} (rest : List GeneratedFile) (h : t.place base f = (t₁, .error fault)) :
    placeAll base (f :: rest) t = (t₁, .error fault) := by
  rw [placeAll, h]

/-- A file that is placed is followed by the others. -/
theorem placeAll_cons_of_ok {t t₁ : FileTree} {base path : FilePath} {f : GeneratedFile}
    (rest : List GeneratedFile) (h : t.place base f = (t₁, .ok path)) :
    placeAll base (f :: rest) t =
      ((placeAll base rest t₁).1, (placeAll base rest t₁).2.map (path :: ·)) := by
  rw [placeAll, h]

/-- Files are placed when the first one is and then the others. -/
theorem placeAll_cons_eq_ok {t t' : FileTree} {base : FilePath} {f : GeneratedFile}
    {rest : List GeneratedFile} {paths : List FilePath}
    (h : placeAll base (f :: rest) t = (t', .ok paths)) :
    ∃ t₁ paths', t.place base f = (t₁, .ok (f.target base)) ∧
      placeAll base rest t₁ = (t', .ok paths') ∧ paths = f.target base :: paths' := by
  cases placed : t.place base f with
  | mk t₁ result =>
  cases result with
  | error fault =>
    rw [placeAll_cons_of_error rest placed] at h
    cases h
  | ok path =>
    obtain ⟨rfl, -⟩ := exists_of_place placed
    rw [placeAll_cons_of_ok rest placed] at h
    cases more : placeAll base rest t₁ with
    | mk t₂ others =>
    rw [more] at h
    cases others with
    | error fault => cases h
    | ok paths' =>
      cases h
      exact ⟨t₁, paths', rfl, more, rfl⟩

/-- Files are placed at their targets, in their order. -/
theorem eq_map_target_of_placeAll {base : FilePath} : ∀ {l : List GeneratedFile} {t t' : FileTree}
    {paths : List FilePath}, placeAll base l t = (t', .ok paths) →
      paths = l.map fun f => f.target base
  | [], _, _, _, h => by
    cases h
    rfl
  | f :: rest, _, _, _, h => by
    obtain ⟨t₁, paths', -, more, rfl⟩ := placeAll_cons_eq_ok h
    rw [eq_map_target_of_placeAll more, List.map_cons]

/-- A file that is placed at another target leaves a placed file as it is. -/
theorem read_target_of_place {t t' : FileTree} {base path : FilePath} {f g : GeneratedFile}
    {content : String} (h : t.place base g = (t', .ok path)) (other : g.target base ≠ f.target base)
    (found : t.read (f.target base) = .ok content) : t'.read (f.target base) = .ok content := by
  obtain ⟨-, t₁, grows, written⟩ := exists_of_place h
  obtain ⟨there, located, free, rfl⟩ := exists_of_write written
  obtain ⟨place, located', file⟩ := read_eq_ok_iff.1 (grows.read found)
  have apart : place ≠ there := by
    rintro rfl
    have notDirectory : t₁.entry? place ≠ some .directory := by
      rw [file]
      simp
    obtain ⟨here, at_, parts, -⟩ := exists_of_locate_target located free
    obtain ⟨here', at_', parts', -⟩ := exists_of_locate_target located' notDirectory
    rw [at_] at at_'
    cases at_'
    rw [parts] at parts'
    have same := List.append_cancel_left parts'
    exact other (by rw [GeneratedFile.target_eq, GeneratedFile.target_eq, same])
  exact read_eq_ok_iff.2 ⟨place, locate_put free located', by rw [put_of_ne _ apart, file]⟩

/-- Files that are placed at other targets leave a placed file as it is. -/
theorem read_target_of_placeAll {base : FilePath} {f : GeneratedFile} {content : String} :
    ∀ {l : List GeneratedFile} {t t' : FileTree} {paths : List FilePath},
      placeAll base l t = (t', .ok paths) → (∀ g ∈ l, g.target base ≠ f.target base) →
      t.read (f.target base) = .ok content → t'.read (f.target base) = .ok content
  | [], t, t', paths, h, _, found => by
    cases h
    exact found
  | g :: rest, t, t', paths, h, others, found => by
    obtain ⟨t₁, paths', placed, more, -⟩ := placeAll_cons_eq_ok h
    exact read_target_of_placeAll more (fun g' hg' => others g' (List.mem_cons_of_mem g hg'))
      (read_target_of_place placed (others g List.mem_cons_self) found)

/-- A file that was placed is read back from its target, unless one that is placed later has the
same target. -/
theorem read_placeAll {base : FilePath} {f : GeneratedFile} {later : List GeneratedFile}
    (others : ∀ g ∈ later, g.target base ≠ f.target base) :
    ∀ {earlier : List GeneratedFile} {t t' : FileTree} {paths : List FilePath},
      placeAll base (earlier ++ f :: later) t = (t', .ok paths) →
      t'.read (f.target base) = .ok f.content
  | [], t, t', paths, h => by
    obtain ⟨t₁, paths', placed, more, -⟩ := placeAll_cons_eq_ok h
    obtain ⟨-, t₂, -, written⟩ := exists_of_place placed
    exact read_target_of_placeAll more others (read_write written)
  | g :: rest, t, t', paths, h => by
    obtain ⟨t₁, paths', -, more, -⟩ := placeAll_cons_eq_ok h
    exact read_placeAll others more

end FileTree
end Componentry
