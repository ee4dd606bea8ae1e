import Componentry.CommandLine
import Componentry.Proofs.Conversion.Stages
import Componentry.Proofs.Files.Impossible
import Componentry.Proofs.Outcome

/-!
# Answers to command lines

A command line is answered with a code, or it ends with a fault. Settings take texts without a
fault, and a conversion ends with a result whatever happens in its stages. What is left are the
level of records, a path that cannot be, options that do not fit, and a home directory that nobody
knows. A command that converts a page is answered with zero exactly when the conversion succeeded
and its files are written.
-/

set_option autoImplicit false

namespace Componentry.CommandLine
open Componentry.Text

/-! ## Settings -/

/-- A text can be tried in the place of any value. -/
theorem exists_castLike?_text (old : Setting) (s : String) :
    ∃ made, Setting.castLike? old (.text s) = .ok made := by
  cases old <;> exact ⟨_, rfl⟩

/-- Putting a text at a path is done or refused, and leaves a section. -/
theorem exists_set_text (entries : List (String × Setting)) (path s : String) :
    ∃ put made, ((⟨.group entries⟩ : Settings).set path (.text s)).result =
      .ok (put, ⟨.group made⟩) := by
  unfold Settings.set
  dsimp only
  split
  next made placed =>
    have cast : ((⟨.group entries⟩ : Settings).castReport path (.text s)).result = .ok () := by
      unfold Settings.castReport
      split
      · rfl
      next old _ =>
        obtain ⟨cast, known⟩ := exists_castLike?_text old s
        rw [known]
        cases cast <;> rfl
    exact ⟨true, made, Outcome.result_bind_of_ok cast _⟩
  next made refused _ => exact ⟨false, made, rfl⟩

/-- Overrides are taken or answered. -/
theorem exists_override : ∀ (l : List String) (entries : List (String × Setting)),
    ∃ answer, (override ⟨.group entries⟩ l).result = .ok answer ∧
      ∀ reply, answer = .error reply → reply.code = 1
  | [], entries => ⟨_, rfl, fun _ h => by cases h⟩
  | s :: rest, entries => by
    rw [override]
    dsimp only
    split
    · exact ⟨_, rfl, fun reply h => by cases h; rfl⟩
    next key value _ =>
      obtain ⟨put, made, known⟩ := exists_set_text entries (trim (String.ofList key))
        (trim (String.ofList value))
      rw [Outcome.result_bind_of_ok known]
      cases put with
      | true => exact exists_override rest made
      | false => exact ⟨_, rfl, fun reply h => by cases h; rfl⟩

/-- A command for settings is answered. -/
theorem exists_config (entries : List (String × Setting)) (rest : List String) :
    ∃ reply, (config ⟨.group entries⟩ rest).result = .ok reply ∧ reply.code ≤ 1 := by
  unfold config
  split
  · exact ⟨_, rfl, Nat.le_refl 1⟩
  · exact ⟨_, rfl, Nat.zero_le 1⟩
  · split
    · split
      · exact ⟨_, rfl, Nat.zero_le 1⟩
      · exact ⟨_, rfl, Nat.le_refl 1⟩
    · exact ⟨_, rfl, Nat.le_refl 1⟩
  · split
    next key first more =>
      obtain ⟨put, made, known⟩ := exists_set_text entries key (unquoted (join " " (first :: more)))
      cases put with
      | true => exact ⟨_, Outcome.result_bind_of_ok known _, Nat.zero_le 1⟩
      | false => exact ⟨_, Outcome.result_bind_of_ok known _, Nat.le_refl 1⟩
    · exact ⟨_, rfl, Nat.le_refl 1⟩
  · exact ⟨_, rfl, Nat.zero_le 1⟩
  · exact ⟨_, rfl, Nat.le_refl 1⟩

/-! ## Levels -/

/-- Words that name no level, but are known. -/
def misleadingWords : List String := LogLevels.misnamed.map Prod.fst

/-- Two words are known to the levels and name none. -/
theorem mem_misleadingWords_iff {s : String} :
    s ∈ misleadingWords ↔ s = "BASIC_FORMAT" ∨ s = "_STYLES" := by
  simp [misleadingWords, LogLevels.misnamed]

/-- A level is refused for a misleading word, in any case of its letters. -/
theorem exists_levelOf_error_iff {s : String} :
    (∃ fault, LogLevels.levelOf (.text s) 30 = .error fault) ↔ upper s ∈ misleadingWords := by
  rw [mem_misleadingWords_iff]
  unfold LogLevels.levelOf
  dsimp only
  constructor
  · rintro ⟨fault, refused⟩
    have known : ∃ meant, LogLevels.misnamed.lookup (upper s) = some meant := by
      split at refused
      · cases refused
      next text _ found => exact ⟨some text, found⟩
      next _ found => exact ⟨none, found⟩
      · cases refused
    obtain ⟨meant, found⟩ := known
    obtain ⟨before, after, whole, -⟩ := List.lookup_eq_some_iff.1 found
    have mem : (upper s, meant) ∈ LogLevels.misnamed := by
      rw [whole]
      simp
    simp only [LogLevels.misnamed, List.mem_cons, Prod.mk.injEq, List.not_mem_nil, or_false] at mem
    exact mem.imp And.left And.left
  · rintro (same | same) <;> rw [same] <;> exact ⟨_, rfl⟩

/-- The levels are refused exactly for a word that is known and names no level. -/
theorem exists_levels_error_iff {i : Invocation} :
    (∃ fault, levels Settings.standard i = .error fault) ↔
      ∃ word ∈ i.level, upper word ∈ misleadingWords := by
  have configured (s : String) :
      (∃ fault, LogLevels.configure (.text s) [] [] = .error fault) ↔
        upper s ∈ misleadingWords := by
    rw [← exists_levelOf_error_iff, LogLevels.configure]
    cases LogLevels.levelOf (.text s) 30 with
    | error fault => simp [bind, Except.bind]
    | ok level =>
      refine iff_of_false ?_ (by simp)
      rintro ⟨fault, refused⟩
      cases refused
  have usual : (Settings.standard.get? "debug.level").getD (.text "WARNING") = .text "WARNING" :=
    rfl
  have empty : upper "" ∉ misleadingWords := by decide
  have default : upper "WARNING" ∉ misleadingWords := by decide
  rw [levels]
  -- An absent level and an empty one fall back to the usual one, which names a level.
  cases given : i.level with
  | none =>
    show (∃ fault,
      LogLevels.configure ((Settings.standard.get? "debug.level").getD _) [] [] = _) ↔ _
    rw [usual, configured]
    simp [default]
  | some word =>
    by_cases blank : word = ""
    · subst blank
      show (∃ fault, LogLevels.configure ((Settings.standard.get? "debug.level").getD _) [] [] = _)
        ↔ _
      rw [usual, configured]
      simp [default, empty]
    · have kept : (some word).filter (fun s => s != "") = some word := by
        simp [Option.filter, blank]
      rw [kept]
      show (∃ fault, LogLevels.configure (.text word) [] [] = _) ↔ _
      rw [configured]
      simp

/-! ## Conversions -/

/-- Writes the files of a conversion into a directory, which is made if it is missing. -/
def writeAll (directory : FilePath) (files : List GeneratedFile) (t : FileTree) :
    FileTree × Except FileFault (List FilePath) :=
  match t.ensure directory with
  | (t, .error f) => (t, .error f)
  | (t, .ok ()) => t.placeAll directory files

variable {s : Surroundings} {t t' : FileTree} {command : ConvertCommand} {settings : Settings}
  {markup : String} {o : ConversionOptions} {c : Conversion} {directory : FilePath}

/-- The settings that a command goes by. -/
def IsSettled (command : ConvertCommand) (settings : Settings) : Prop :=
  (override Settings.standard command.overrides).result = .ok (.ok settings)

/-- The conversion that a command comes to, with the settings it goes by. -/
structure Converts (s : Surroundings) (t : FileTree) (command : ConvertCommand)
    (settings : Settings) (c : Conversion) : Prop where
  settled : IsSettled command settings
  exists_run : ∃ markup o, readInput s t command.input = .ok markup ∧
    command.wishes.options settings = .ok o ∧ (o.convert settings (some markup)).result = .ok c

/-- The directory that a command writes to. -/
def directoryOf (s : Surroundings) (t : FileTree) (command : ConvertCommand)
    (settings : Settings) : Except Fault FilePath :=
  outputDirectory s.home (workingPath t) (outputText settings command.output)

/-- How a command that converts a page ends. -/
inductive Ends (s : Surroundings) (t : FileTree) (command : ConvertCommand) :
    Except Fault (Reply × FileTree) → Prop where
  | refused {reply : Reply} : reply.code = 1 → (∀ settings, ¬ IsSettled command settings) →
      Ends s t command (.ok (reply, t))
  | unreadable {f : FileFault} : readInput s t command.input = .error f → f ≠ .impossible →
      Ends s t command (.ok (unreadable command.input f, t))
  | impossibleInput {settings : Settings} : IsSettled command settings →
      readInput s t command.input = .error .impossible →
      Ends s t command (.error (.file .impossible))
  | unfit {settings : Settings} {markup : String} : IsSettled command settings →
      readInput s t command.input = .ok markup → command.wishes.complete settings = none →
      Ends s t command (.error (.invalidOptions "ConversionOptions"))
  | failed {settings : Settings} {c : Conversion} : Converts s t command settings c →
      c.succeeded = false → Ends s t command (.ok (failure c, t))
  | homeless {settings : Settings} {c : Conversion} {fault : Fault} :
      Converts s t command settings c → c.succeeded = true →
      directoryOf s t command settings = .error fault → Ends s t command (.error fault)
  | unwritable {settings : Settings} {c : Conversion} {directory : FilePath} {t' : FileTree}
      {f : FileFault} : Converts s t command settings c → c.succeeded = true →
      directoryOf s t command settings = .ok directory →
      writeAll directory c.files t = (t', .error f) → f ≠ .impossible →
      Ends s t command (.ok (unwritable c f, t'))
  | impossibleOutput {settings : Settings} {c : Conversion} {directory : FilePath}
      {t' : FileTree} : Converts s t command settings c → c.succeeded = true →
      directoryOf s t command settings = .ok directory →
      writeAll directory c.files t = (t', .error .impossible) →
      Ends s t command (.error (.file .impossible))
  | written {settings : Settings} {c : Conversion} {directory : FilePath} {t' : FileTree}
      {paths : List FilePath} : Converts s t command settings c → c.succeeded = true →
      directoryOf s t command settings = .ok directory →
      writeAll directory c.files t = (t', .ok paths) →
      Ends s t command (.ok (success c paths.length directory s.milliseconds, t'))

/-- What comes out of a command once the settings took its overrides. -/
theorem result_convert_of_settled (settled : IsSettled command settings) :
    (convert s Settings.standard command t).result =
      match readInput s t command.input with
      | .error f =>
        if f.isReported then .ok (unreadable command.input f, t) else .error (.file f)
      | .ok markup =>
        ((Outcome.ofExcept (command.wishes.options settings)).bind fun o =>
          (o.convert settings (some markup)).bind fun c =>
            if c.succeeded then writeOutput s settings command.output c t
            else .ok (failure c, t)).result := by
  refine (Outcome.result_bind_of_ok settled _).trans ?_
  cases readInput s t command.input with
  | error f =>
    dsimp only
    cases f.isReported <;> rfl
  | ok markup => rfl

/-- What comes out of writing. -/
theorem result_writeOutput (s : Surroundings) (t : FileTree) (command : ConvertCommand)
    (settings : Settings) (c : Conversion) :
    (writeOutput s settings command.output c t).result =
      match directoryOf s t command settings with
      | .error fault => .error fault
      | .ok directory =>
        match writeAll directory c.files t with
        | (t', .error f) => if f.isReported then .ok (unwritable c f, t') else .error (.file f)
        | (t', .ok paths) => .ok (success c paths.length directory s.milliseconds, t') := by
  rw [writeOutput, directoryOf]
  cases outputDirectory s.home (workingPath t) (outputText settings command.output) with
  | error fault => rfl
  | ok directory =>
    refine (Outcome.result_bind_of_ok (a := directory) rfl _).trans ?_
    dsimp only
    rw [writeAll]
    -- The directory itself may be refused, and so may one of the files.
    cases t.ensure directory with
    | mk t₁ made =>
    cases made with
    | error f =>
      dsimp only
      cases f.isReported <;> rfl
    | ok _ =>
      dsimp only
      cases t₁.placeAll directory c.files with
      | mk t₂ placed =>
      cases placed with
      | error f =>
        dsimp only
        cases f.isReported <;> rfl
      | ok paths => rfl

/-- What comes out of a command whose conversion has a result. -/
theorem result_convert_of_converts (h : Converts s t command settings c) :
    (convert s Settings.standard command t).result =
      if c.succeeded then (writeOutput s settings command.output c t).result
      else .ok (failure c, t) := by
  obtain ⟨markup, o, read, fits, run⟩ := h.exists_run
  rw [result_convert_of_settled h.settled, read]
  dsimp only
  rw [Outcome.result_bind_of_ok (a := o) (by rw [fits]; rfl), Outcome.result_bind_of_ok run]
  cases c.succeeded <;> rfl

/-- A command whose conversion has a result ends in one of the ways: the conversion itself fails, or
writing its files goes through or does not. -/
theorem Converts.ends (converts : Converts s t command settings c) :
    Ends s t command (convert s Settings.standard command t).result := by
  rw [result_convert_of_converts converts]
  cases succeeded : c.succeeded with
  | false => exact .failed converts succeeded
  | true =>
    rw [if_pos rfl, result_writeOutput]
    cases found : directoryOf s t command settings with
    | error fault => exact .homeless converts succeeded found
    | ok directory =>
      cases wrote : writeAll directory c.files t with
      | mk t' result =>
      dsimp only
      rw [wrote]
      cases result with
      | ok paths => exact .written converts succeeded found wrote
      | error f =>
        dsimp only
        cases reported : f.isReported with
        | true =>
          refine .unwritable converts succeeded found wrote fun same => ?_
          rw [FileFault.isReported_eq_false_iff.2 same] at reported
          cases reported
        | false =>
          rw [FileFault.isReported_eq_false_iff.1 reported] at wrote ⊢
          exact .impossibleOutput converts succeeded found wrote

/-- A command that converts a page ends in one of the ways. -/
theorem ends_convert (s : Surroundings) (t : FileTree) (command : ConvertCommand) :
    Ends s t command (convert s Settings.standard command t).result := by
  obtain ⟨answer, overridden, code⟩ := exists_override command.overrides _
  cases answer with
  | error reply =>
    have result : (convert s Settings.standard command t).result = .ok (reply, t) :=
      Outcome.result_bind_of_ok overridden _
    rw [result]
    refine .refused (code reply rfl) fun settings settled => ?_
    cases overridden.symm.trans settled
  | ok settings =>
    have settled : IsSettled command settings := overridden
    have result := result_convert_of_settled (s := s) (t := t) settled
    -- From here on each step that fails is one of the ways to end.
    cases read : readInput s t command.input with
    | error f =>
      rw [result, read]
      dsimp only
      cases reported : f.isReported with
      | true =>
        refine .unreadable read fun same => ?_
        rw [FileFault.isReported_eq_false_iff.2 same] at reported
        cases reported
      | false =>
        rw [FileFault.isReported_eq_false_iff.1 reported] at read ⊢
        exact .impossibleInput settled read
    | ok markup =>
      cases fits : command.wishes.complete settings with
      | none =>
        have refused : command.wishes.options settings =
            .error (.invalidOptions "ConversionOptions") := by
          rw [ConversionWishes.options, fits]
        rw [result, read]
        dsimp only
        rw [refused]
        exact .unfit settled read fits
      | some o =>
        have given : command.wishes.options settings = .ok o := by
          rw [ConversionWishes.options, fits]
        obtain ⟨c, run, -⟩ := ConversionOptions.exists_runs settings o (some markup)
        exact Converts.ends ⟨settled, markup, o, read, given, run⟩

/-! ## Faults that escape -/

/-- Writing the files of a conversion comes to a path that cannot be: that of the directory, or of a
file once the files before it are written and the directory for it is made. -/
inductive MeetsImpossible (directory : FilePath) (files : List GeneratedFile) (t : FileTree) :
    Prop where
  | directory : directory.isImpossible = true → MeetsImpossible directory files t
  | name {earlier later : List GeneratedFile} {f : GeneratedFile} {t₁ t₂ : FileTree}
      {paths : List FilePath} : files = earlier ++ f :: later →
      writeAll directory earlier t = (t₁, .ok paths) →
      t₁.ensure (f.target directory).parent = (t₂, .ok ()) →
      (f.target directory).isImpossible = true → MeetsImpossible directory files t

/-- Without its directory nothing is written. -/
theorem writeAll_of_error {f : FileFault} (files : List GeneratedFile)
    (h : t.ensure directory = (t', .error f)) :
    writeAll directory files t = (t', .error f) := by
  rw [writeAll, h]

/-- In its directory the files are placed. -/
theorem writeAll_of_ok (files : List GeneratedFile) (h : t.ensure directory = (t', .ok ())) :
    writeAll directory files t = t'.placeAll directory files := by
  rw [writeAll, h]

/-- Writing is refused for an impossible path just when it meets one. -/
theorem meetsImpossible_iff {files : List GeneratedFile} :
    MeetsImpossible directory files t ↔
      (writeAll directory files t).2 = .error .impossible := by
  have ensured := @FileTree.ensure_eq_impossible_iff t directory
  cases impossible : directory.isImpossible with
  | true =>
    refine iff_of_true (.directory impossible) ?_
    rw [writeAll_of_error files (FileTree.ensure_of_isImpossible impossible)]
  | false =>
    have notDirectory : ¬ directory.isImpossible = true := by
      rw [impossible]
      exact Bool.false_ne_true
    -- With a directory that could stand, only the name of a file can be impossible.
    cases made : t.ensure directory with
    | mk t₁ result =>
    rw [made] at ensured
    cases result with
    | error f =>
      rw [writeAll_of_error files made]
      refine iff_of_false (fun meets => ?_) fun refused => ?_
      · cases meets with
        | directory again => exact notDirectory again
        | @name earlier _ _ _ _ _ _ wrote =>
          rw [writeAll_of_error earlier made] at wrote
          cases wrote
      · cases refused
        exact notDirectory (ensured.1 rfl)
    | ok _ =>
      rw [writeAll_of_ok files made, FileTree.placeAll_eq_impossible_iff impossible]
      constructor
      · intro meets
        cases meets with
        | directory again => exact absurd again notDirectory
        | @name earlier _ _ _ _ _ split wrote directories cannot =>
          rw [writeAll_of_ok earlier made] at wrote
          exact ⟨_, _, _, _, _, _, split, wrote, directories, cannot⟩
      · rintro ⟨earlier, f, later, t₂, paths, t₃, split, placed, directories, cannot⟩
        exact .name split (by rw [writeAll_of_ok earlier made, placed]) directories cannot

/-- What escapes from a command that converts a page: a path to read that cannot be, options that do
not fit, a home directory that nobody knows, and a path to write that cannot be. -/
inductive ConvertEscapes (s : Surroundings) (t : FileTree) (command : ConvertCommand) : Prop where
  | input {settings : Settings} : IsSettled command settings → command.input ≠ "-" →
      '\x00' ∈ command.input.toList → ConvertEscapes s t command
  | options {settings : Settings} {markup : String} : IsSettled command settings →
      readInput s t command.input = .ok markup → command.wishes.complete settings = none →
      ConvertEscapes s t command
  | home {settings : Settings} {c : Conversion} {fault : Fault} :
      Converts s t command settings c → c.succeeded = true →
      directoryOf s t command settings = .error fault → ConvertEscapes s t command
  | output {settings : Settings} {c : Conversion} {directory : FilePath} :
      Converts s t command settings c → c.succeeded = true →
      directoryOf s t command settings = .ok directory → MeetsImpossible directory c.files t →
      ConvertEscapes s t command

/-- What escapes from a command line: a word for the level that is known and names no level, and
what escapes from its command. -/
inductive Escapes (s : Surroundings) (arguments : List String) (t : FileTree) : Prop where
  | level {i : Invocation} {word : String} : Invocation.ofArguments arguments = .ok i →
      i.level = some word → upper word ∈ misleadingWords → Escapes s arguments t
  | convert {i : Invocation} {command : ConvertCommand} :
      Invocation.ofArguments arguments = .ok i → i.command = some (.convert command) →
      ConvertEscapes s t command → Escapes s arguments t

/-- Only a path with the null character is impossible to read. -/
theorem readInput_eq_impossible_iff {input : String} :
    readInput s t input = .error .impossible ↔ input ≠ "-" ∧ '\x00' ∈ input.toList := by
  rw [readInput, ← FilePath.isImpossible_ofText, ← FileTree.read_eq_impossible_iff (t := t)]
  by_cases standard : input = "-"
  · simp [standard]
  · rw [if_neg (by simpa using standard)]
    cases t.read (FilePath.ofText input) <;> simp [Except.map, standard]

/-- What escapes ends the command with a fault. -/
theorem exists_fault_of_convertEscapes (h : ConvertEscapes s t command) :
    ∃ fault, (convert s Settings.standard command t).result = .error fault := by
  cases h with
  | input settled named mem =>
    rw [result_convert_of_settled settled, readInput_eq_impossible_iff.2 ⟨named, mem⟩]
    exact ⟨_, rfl⟩
  | options settled read unfit =>
    rw [result_convert_of_settled settled, read]
    dsimp only
    rw [ConversionWishes.options, unfit]
    exact ⟨_, rfl⟩
  | home converts succeeded homeless =>
    rw [result_convert_of_converts converts, succeeded, if_pos rfl, result_writeOutput, homeless]
    exact ⟨_, rfl⟩
  | @output _ c directory converts succeeded found meets =>
    have refused := meetsImpossible_iff.1 meets
    rw [result_convert_of_converts converts, succeeded, if_pos rfl, result_writeOutput, found]
    dsimp only
    cases wrote : writeAll directory c.files t with
    | mk t' result =>
    rw [wrote] at refused
    cases refused
    exact ⟨_, rfl⟩

/-- A command that converts a page is answered, with zero or one, or something escapes. -/
theorem convert_answers_or_escapes (s : Surroundings) (t : FileTree) (command : ConvertCommand) :
    (∃ reply t', (convert s Settings.standard command t).result = .ok (reply, t') ∧
      reply.code ≤ 1) ∨ ConvertEscapes s t command := by
  have ends := ends_convert s t command
  generalize (convert s Settings.standard command t).result = result at ends
  cases ends with
  | refused code => exact .inl ⟨_, _, rfl, Nat.le_of_eq code⟩
  | unreadable => exact .inl ⟨_, _, rfl, Nat.le_refl 1⟩
  | impossibleInput settled read =>
    obtain ⟨named, mem⟩ := readInput_eq_impossible_iff.1 read
    exact .inr (.input settled named mem)
  | unfit settled read unfit => exact .inr (.options settled read unfit)
  | failed => exact .inl ⟨_, _, rfl, Nat.le_refl 1⟩
  | homeless converts succeeded homeless => exact .inr (.home converts succeeded homeless)
  | unwritable => exact .inl ⟨_, _, rfl, Nat.le_refl 1⟩
  | impossibleOutput converts succeeded found wrote =>
    exact .inr (.output converts succeeded found (meetsImpossible_iff.2 (by rw [wrote])))
  | written => exact .inl ⟨_, _, rfl, Nat.zero_le 1⟩

/-! ## Written files -/

/-- The files of a conversion are written: one after the other, each to its target, and each is read
back from there, unless a later one has the same target. -/
structure AreWritten (directory : FilePath) (files : List GeneratedFile) (t t' : FileTree) :
    Prop where
  placed : writeAll directory files t = (t', .ok (files.map fun f => f.target directory))
  content : ∀ earlier f later, files = earlier ++ f :: later →
    (∀ g ∈ later, g.target directory ≠ f.target directory) →
    t'.read (f.target directory) = .ok f.content

/-- Files that were all written stand where they belong. -/
theorem areWritten_of_writeAll {files : List GeneratedFile} {paths : List FilePath}
    (h : writeAll directory files t = (t', .ok paths)) : AreWritten directory files t t' := by
  cases made : t.ensure directory with
  | mk t₁ result =>
  cases result with
  | error f =>
    rw [writeAll_of_error files made] at h
    cases h
  | ok _ =>
    rw [writeAll_of_ok files made] at h
    refine ⟨?_, fun earlier f later split others => ?_⟩
    · rw [writeAll_of_ok files made, h, FileTree.eq_map_target_of_placeAll h]
    · subst split
      exact FileTree.read_placeAll others h

/-- A command converts its page: the conversion succeeds, and its files are written. -/
def Succeeds (s : Surroundings) (t : FileTree) (command : ConvertCommand) (t' : FileTree) : Prop :=
  ∃ settings c directory, Converts s t command settings c ∧ c.succeeded = true ∧
    directoryOf s t command settings = .ok directory ∧ AreWritten directory c.files t t'

/-- A command is answered with zero exactly when it converts its page. -/
theorem code_eq_zero_iff {reply : Reply}
    (answered : (convert s Settings.standard command t).result = .ok (reply, t')) :
    reply.code = 0 ↔ Succeeds s t command t' := by
  constructor
  · intro zero
    have ends := ends_convert s t command
    rw [answered] at ends
    cases ends with
    | refused code =>
      rw [code] at zero
      cases zero
    | unreadable => cases zero
    | failed => cases zero
    | unwritable => cases zero
    | written converts succeeded found wrote =>
      exact ⟨_, _, _, converts, succeeded, found, areWritten_of_writeAll wrote⟩
  · rintro ⟨settings, c, directory, converts, succeeded, found, written⟩
    rw [result_convert_of_converts converts, succeeded, if_pos rfl, result_writeOutput, found]
      at answered
    dsimp only at answered
    rw [written.placed] at answered
    cases answered
    rfl

/-! ## Command lines -/

/-- What comes out of a command line whose level has a meaning. -/
theorem result_run {arguments : List String} {i : Invocation} {l : LogLevels}
    (read : Invocation.ofArguments arguments = .ok i)
    (levelled : levels Settings.standard i = .ok l) :
    (run s Settings.standard arguments t).result = (match i.command with
      | some (.convert command) => convert s Settings.standard command t
      | some (.config rest) => (config Settings.standard rest).bind fun reply => .ok (reply, t)
      | none => .ok (Reply.ofStop .help, t)).result := by
  rw [run, read]
  dsimp only
  rw [levelled]
  rfl

/-- What escapes ends the command line with a fault. -/
theorem exists_fault_of_escapes {arguments : List String} (h : Escapes s arguments t) :
    ∃ fault, (run s Settings.standard arguments t).result = .error fault := by
  have level {i : Invocation} {fault : Fault} (read : Invocation.ofArguments arguments = .ok i)
      (refused : levels Settings.standard i = .error fault) :
      (run s Settings.standard arguments t).result = .error fault := by
    rw [run, read]
    dsimp only
    rw [refused]
    rfl
  cases h with
  | level read asked misleading =>
    obtain ⟨fault, refused⟩ := exists_levels_error_iff.2 ⟨_, asked, misleading⟩
    exact ⟨fault, level read refused⟩
  | @convert i command read given escapes =>
    cases levelled : levels Settings.standard i with
    | error fault => exact ⟨fault, level read levelled⟩
    | ok l =>
      rw [result_run read levelled, given]
      exact exists_fault_of_convertEscapes escapes

/-- A command line is answered with zero, one or two exactly when nothing escapes. A command that
converts a page is answered with zero exactly when the conversion succeeded and its files are
written. -/
theorem run_answers_iff (s : Surroundings) (arguments : List String) (t : FileTree) :
    ((∃ reply t', (run s Settings.standard arguments t).result = .ok (reply, t') ∧
        reply.code ≤ 2) ↔ ¬ Escapes s arguments t) ∧
      ∀ i command reply t', Invocation.ofArguments arguments = .ok i →
        i.command = some (.convert command) →
        (run s Settings.standard arguments t).result = .ok (reply, t') →
        (reply.code = 0 ↔ Succeeds s t command t') := by
  refine ⟨⟨?_, fun contained => ?_⟩, ?_⟩
  · rintro ⟨reply, t', answered, -⟩ escapes
    obtain ⟨fault, refused⟩ := exists_fault_of_escapes escapes
    rw [refused] at answered
    cases answered
  -- Reading the arguments, the levels and the command are passed in turn; all but the last is
  -- answered.
  · cases read : Invocation.ofArguments arguments with
    | error stop =>
      refine ⟨Reply.ofStop stop, t, by rw [run, read]; rfl, ?_⟩
      cases stop <;> decide
    | ok i =>
      cases levelled : levels Settings.standard i with
      | error fault =>
        obtain ⟨word, asked, misleading⟩ := exists_levels_error_iff.1 ⟨fault, levelled⟩
        exact absurd (.level read asked misleading) contained
      | ok l =>
        rw [result_run read levelled]
        cases given : i.command with
        | none => exact ⟨_, _, rfl, Nat.zero_le 2⟩
        | some command =>
          cases command with
          | config rest =>
            obtain ⟨reply, answered, code⟩ := exists_config _ rest
            exact ⟨reply, t, Outcome.result_bind_of_ok answered _, Nat.le_succ_of_le code⟩
          | convert command =>
            rcases convert_answers_or_escapes s t command with ⟨reply, t', answered, code⟩ | escapes
            · exact ⟨reply, t', answered, Nat.le_succ_of_le code⟩
            · exact absurd (.convert read given escapes) contained
  · intro i command reply t' read given answered
    cases levelled : levels Settings.standard i with
    | error fault =>
      obtain ⟨word, asked, misleading⟩ := exists_levels_error_iff.1 ⟨fault, levelled⟩
      obtain ⟨fault', refused⟩ :=
        exists_fault_of_escapes (s := s) (t := t) (.level read asked misleading)
      rw [refused] at answered
      cases answered
    | ok l =>
      rw [result_run read levelled, given] at answered
      exact code_eq_zero_iff answered

/-- A paragraph is converted as a whole: the command line is answered with zero, and so the file of
the component is written. -/
theorem run_answers_iff_of_paragraph :
    let s : Surroundings :=
      { standardInput := "<p>x</p>", home := fun _ => none, milliseconds := "0" }
    let arguments := ["convert", "-", "--no-progress", "--no-split"]
    ∃ i command reply t', Invocation.ofArguments arguments = .ok i ∧
      i.command = some (.convert command) ∧
      (run s Settings.standard arguments {}).result = .ok (reply, t') ∧ reply.code = 0 ∧
      Succeeds s {} command t' := by
  intro s arguments
  let command : ConvertCommand := { input := "-", keepsWhole := true, hidesProgress := true }
  have read : Invocation.ofArguments arguments = .ok { command := some (.convert command) } := rfl
  have code : ((run s Settings.standard arguments {}).result.toOption.map
      fun answer => answer.1.code) = some 0 := by decide +kernel
  obtain ⟨⟨reply, t'⟩, answered, zero⟩ := exists_ok_of_toOption_map code
  exact ⟨_, command, reply, t', read, rfl, answered, zero,
    ((run_answers_iff s arguments {}).2 _ command reply t' read rfl answered).1 zero⟩

/-- A format that no source text has ends the command line with a fault: it is answered neither as
an override that is refused nor as a conversion that failed. -/
theorem unknown_format_escapes :
    (run { standardInput := "<p>x</p>", home := fun _ => none, milliseconds := "0" }
      Settings.standard ["convert", "-", "--no-progress", "--set", "generator.output_format=foo"]
      {}).result = .error (.invalidOptions "ConversionOptions") := by
  rfl

end Componentry.CommandLine
