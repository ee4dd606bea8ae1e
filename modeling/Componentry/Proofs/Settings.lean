import Componentry.Settings
import Componentry.Proofs.Dict
import Componentry.Proofs.Outcome
import Componentry.Proofs.Text.Pieces

/-!
# Laws of settings

What is put at a path is found there, cast to the kind of what it replaces, and no other path that
leads neither to it nor through it finds anything else than before. Nothing is put where the way
leads through something that is no section, or where a section stands. Though the walk to the place
makes sections as it goes, all stays as it is then: behind a section that is made nothing stands
that could be in the way.
-/

set_option autoImplicit false

namespace Componentry
open Componentry.Text

namespace Setting

/-- What stands at the end of keys that lead through sections, null as well. -/
def heldAt? : List String → Setting → Option Setting
  | [], s => some s
  | key :: rest, s => (s.get? key).bind (heldAt? rest)

/-- What keys lead to is what stands there, unless that is null. -/
theorem at?_eq : ∀ (keys : List String) (s : Setting),
    at? keys s = (heldAt? keys s).filter fun v => !v.isNull
  | [], s => by cases s <;> rfl
  | key :: rest, s => by
    rw [at?, heldAt?]
    cases s.get? key with
    | none => rfl
    | some v => exact at?_eq rest v

/-- Nothing can be put at the end of keys: something before their end is no section, or a section
stands there. -/
def IsBlocked (keys : List String) (s : Setting) : Prop :=
  (∃ front v, front <+: keys ∧ front ≠ keys ∧ heldAt? front s = some v ∧ v.isSection = false) ∨
    ∃ v, heldAt? keys s = some v ∧ v.isSection = true

/-- How a new value takes the place of an old one. -/
inductive Replaces (new : Setting) : Option Setting → Setting → Prop where
  /-- Where nothing was, the value is put as it is. -/
  | fresh : Replaces new none new
  /-- The value is cast to the kind of the old one. -/
  | cast {old made : Setting} : castLike? old new = .ok (some made) →
      made.kindName = old.kindName → Replaces new (some old) made
  /-- A value that cannot be cast is put as it is. -/
  | kept {old : Setting} : castLike? old new = .ok none → Replaces new (some old) new

/-! ## Blocked ways -/

section
variable {key : String} {rest : List String} {entries : List (String × Setting)}

/-- A value that is no section blocks the way to anything below it. -/
theorem isBlocked_of_isSection_eq_false {s : Setting} (other : s.isSection = false)
    (more : rest ≠ []) : IsBlocked rest s :=
  .inl ⟨[], s, List.nil_prefix, more.symm, rfl, other⟩

/-- At the end of the way only a section is in the way. -/
theorem isBlocked_nil {s : Setting} : IsBlocked [] s ↔ s.isSection = true := by
  constructor
  · rintro (⟨front, v, shorter, proper, -⟩ | ⟨v, found, isSection⟩)
    · exact absurd (List.prefix_nil.1 shorter) proper
    · cases found
      exact isSection
  · exact fun isSection => .inr ⟨s, rfl, isSection⟩

/-- A way is blocked behind its first key. -/
theorem isBlocked_cons : IsBlocked (key :: rest) (.group entries) ↔
    ∃ v, entries.lookup key = some v ∧ IsBlocked rest v := by
  have held (keys : List String) (v : Setting) : heldAt? (key :: keys) (.group entries) = some v ↔
      ∃ first, entries.lookup key = some first ∧ heldAt? keys first = some v :=
    Option.bind_eq_some_iff
  constructor
  · rintro (⟨front, v, ⟨after, whole⟩, proper, found, other⟩ | ⟨v, found, isSection⟩)
    · cases front with
      | nil =>
        cases found
        cases other
      | cons first front =>
        rw [List.cons_append, List.cons.injEq] at whole
        obtain ⟨rfl, whole⟩ := whole
        obtain ⟨inner, here, found⟩ := (held front v).1 found
        refine ⟨inner, here, .inl ⟨front, v, ⟨after, whole⟩, ?_, found, other⟩⟩
        exact fun same => proper (congrArg (first :: ·) same)
    · obtain ⟨inner, here, found⟩ := (held rest v).1 found
      exact ⟨inner, here, .inr ⟨v, found, isSection⟩⟩
  · rintro ⟨inner, here, ⟨front, v, shorter, proper, found, other⟩ | ⟨v, found, isSection⟩⟩
    · refine .inl ⟨key :: front, v, List.cons_prefix_cons.2 ⟨rfl, shorter⟩, ?_,
        (held front v).2 ⟨inner, here, found⟩, other⟩
      exact fun same => proper (List.cons.inj same).2
    · exact .inr ⟨v, (held rest v).2 ⟨inner, here, found⟩, isSection⟩

/-- The way to one key is blocked just when a section stands there. -/
theorem isBlocked_singleton :
    IsBlocked [key] (.group entries) ↔ ∃ inside, entries.lookup key = some (.group inside) := by
  rw [isBlocked_cons]
  constructor
  · rintro ⟨v, found, blocked⟩
    have isSection := isBlocked_nil.1 blocked
    cases v with
    | group inside => exact ⟨inside, found⟩
    | _ => cases isSection
  · rintro ⟨inside, found⟩
    exact ⟨.group inside, found, isBlocked_nil.2 rfl⟩

/-- Among no entries no way is blocked. -/
theorem not_isBlocked_nil : ¬ IsBlocked (key :: rest) (.group []) := by
  rw [isBlocked_cons]
  rintro ⟨v, found, -⟩
  cases found

end

/-! ## Placing -/

/-- Puts a value in the place of keys among entries, or tells why that cannot be: all or nothing. -/
def place (value : Option Setting → Setting) :
    List String → List (String × Setting) → Except PlaceFault (List (String × Setting))
  | [], entries => .ok entries
  | [key], entries =>
    match entries.lookup key with
    | some (.group _) => .error .holdsSection
    | old => .ok (Dict.putEntry key (value old) entries)
  | key :: rest, entries =>
    match entries.lookup key with
    | none => (place value rest []).map fun made => Dict.putEntry key (.group made) entries
    | some (.group inside) =>
      (place value rest inside).map fun made => Dict.putEntry key (.group made) entries
    | some _ => .error (.blocked key)

section
variable {value : Option Setting → Setting}

/-- Below a key that is not there, a new section takes what is placed. -/
theorem place_of_none {key next : String} {rest : List String} {entries : List (String × Setting)}
    (found : entries.lookup key = none) : place value (key :: next :: rest) entries =
      (place value (next :: rest) []).map fun made => Dict.putEntry key (.group made) entries := by
  rw [place.eq_def]
  simp only [found]

/-- Below a section, the section takes what is placed. -/
theorem place_of_section {key next : String} {rest : List String}
    {entries inside : List (String × Setting)} (found : entries.lookup key = some (.group inside)) :
    place value (key :: next :: rest) entries =
      (place value (next :: rest) inside).map fun made =>
        Dict.putEntry key (.group made) entries := by
  rw [place.eq_def]
  simp only [found]

/-- What is placed below a key is placed among the entries under the key, none of which need be
there, and these stand under the key then. -/
theorem exists_of_place {key next : String} {rest : List String}
    {entries made : List (String × Setting)}
    (placed : place value (key :: next :: rest) entries = .ok made) :
    ∃ inside inner, place value (next :: rest) inside = .ok inner ∧
      made = Dict.putEntry key (.group inner) entries ∧
      (entries.lookup key = some (.group inside) ∨ (entries.lookup key = none ∧ inside = [])) := by
  cases found : entries.lookup key with
  | none =>
    rw [place_of_none found] at placed
    cases inner : place value (next :: rest) [] with
    | error fault =>
      rw [inner] at placed
      cases placed
    | ok l =>
      rw [inner] at placed
      cases placed
      exact ⟨[], l, inner, rfl, .inr ⟨rfl, rfl⟩⟩
  | some v =>
    cases v with
    | group inside =>
      rw [place_of_section found] at placed
      cases inner : place value (next :: rest) inside with
      | error fault =>
        rw [inner] at placed
        cases placed
      | ok l =>
        rw [inner] at placed
        cases placed
        exact ⟨inside, l, inner, rfl, .inl rfl⟩
    -- Any other value stands in the way, so nothing was placed.
    | _ =>
      rw [place.eq_def] at placed
      simp only [found, reduceCtorEq] at placed

/-- A value that is placed under one key replaces what stood there. -/
theorem eq_of_place_singleton {key : String} {entries made : List (String × Setting)}
    (placed : place value [key] entries = .ok made) :
    made = Dict.putEntry key (value (entries.lookup key)) entries := by
  rw [place] at placed
  split at placed
  · cases placed
  · cases placed
    rfl

/-- What was put stands in its place. -/
theorem heldAt?_place_self : ∀ {keys : List String} {entries made : List (String × Setting)},
    keys ≠ [] → place value keys entries = .ok made →
      heldAt? keys (.group made) = some (value (heldAt? keys (.group entries)))
  | [], _, _, some_, _ => absurd rfl some_
  | [key], entries, made, _, placed => by
    have old : (entries.lookup key).bind some = entries.lookup key := by
      cases entries.lookup key <;> rfl
    rw [eq_of_place_singleton placed]
    show ((Dict.putEntry key _ entries).lookup key).bind some =
      some (value ((entries.lookup key).bind some))
    rw [Dict.lookup_putEntry, if_pos rfl, old]
    rfl
  | key :: next :: rest, entries, made, _, placed => by
    obtain ⟨inside, inner, below, rfl, found⟩ := exists_of_place placed
    have deeper := heldAt?_place_self (List.cons_ne_nil next rest) below
    have old : (entries.lookup key).bind (heldAt? (next :: rest)) =
        heldAt? (next :: rest) (.group inside) := by
      rcases found with found | ⟨found, rfl⟩ <;> rw [found] <;> rfl
    show ((Dict.putEntry key (.group inner) entries).lookup key).bind _ =
      some (value ((entries.lookup key).bind _))
    rw [Dict.lookup_putEntry, if_pos rfl, old]
    exact deeper

/-- What other keys lead to stays, if they lead neither to the place nor through it. -/
theorem heldAt?_place_of_apart : ∀ {keys other : List String}
    {entries made : List (String × Setting)}, place value keys entries = .ok made →
      ¬ keys <+: other → ¬ other <+: keys →
        heldAt? other (.group made) = heldAt? other (.group entries)
  | [], _, _, _, _, apart, _ => absurd List.nil_prefix apart
  | _ :: _, [], _, _, _, _, apart => absurd List.nil_prefix apart
  | [key], first :: more, entries, made, placed, apart, _ => by
    have differ : first ≠ key := fun same =>
      apart (List.cons_prefix_cons.2 ⟨same.symm, List.nil_prefix⟩)
    rw [eq_of_place_singleton placed]
    show ((Dict.putEntry key _ entries).lookup first).bind _ = (entries.lookup first).bind _
    rw [Dict.lookup_putEntry, if_neg differ]
  | key :: next :: rest, first :: more, entries, made, placed, apart, apart' => by
    obtain ⟨inside, inner, below, rfl, found⟩ := exists_of_place placed
    show ((Dict.putEntry key (.group inner) entries).lookup first).bind (heldAt? more) =
      (entries.lookup first).bind (heldAt? more)
    rw [Dict.lookup_putEntry]
    split
    next same =>
      subst same
      rw [List.cons_prefix_cons] at apart apart'
      have deeper := heldAt?_place_of_apart below (fun h => apart ⟨rfl, h⟩)
        fun h => apart' ⟨rfl, h⟩
      refine deeper.trans ?_
      rcases found with found | ⟨found, rfl⟩
      · rw [found]
        rfl
      · -- a section that was made holds nothing but the way to the place
        rw [found]
        cases more with
        | nil => exact absurd ⟨rfl, List.nil_prefix⟩ apart'
        | cons => rfl
    next => rfl

/-- Nothing is placed exactly where the way is blocked. -/
theorem exists_place_error_iff (value : Option Setting → Setting) :
    ∀ {keys : List String} {entries : List (String × Setting)}, keys ≠ [] →
      ((∃ fault, place value keys entries = .error fault) ↔ IsBlocked keys (.group entries))
  | [], _, some_ => absurd rfl some_
  | [key], entries, _ => by
    rw [isBlocked_singleton, place]
    split
    next inside found => exact iff_of_true ⟨_, rfl⟩ ⟨inside, found⟩
    next other =>
      refine iff_of_false ?_ fun ⟨inside, found⟩ => other inside found
      rintro ⟨fault, refused⟩
      cases refused
  | key :: next :: rest, entries, _ => by
    have more : next :: rest ≠ [] := List.cons_ne_nil next rest
    -- Behind the first key the question is that of the rest, in the section that is there or is
    -- made.
    have refused (inside : List (String × Setting)) :
        (∃ fault, (place value (next :: rest) inside).map
            (fun made => Dict.putEntry key (.group made) entries) = .error fault) ↔
          IsBlocked (next :: rest) (.group inside) := by
      rw [← exists_place_error_iff value more]
      cases place value (next :: rest) inside <;> simp [Except.map]
    rw [isBlocked_cons]
    cases found : entries.lookup key with
    | none =>
      rw [place_of_none found, refused]
      exact iff_of_false not_isBlocked_nil fun ⟨_, here, _⟩ => by cases here
    | some v =>
      cases v with
      | group inside =>
        rw [place_of_section found, refused]
        simp only [Option.some.injEq, exists_eq_left']
      | _ =>
        refine iff_of_true ⟨.blocked key, ?_⟩ ⟨_, rfl, isBlocked_of_isSection_eq_false rfl more⟩
        rw [place.eq_def]
        simp only [found]

/-! ## The walk that makes sections -/

/-- Below a key that is not there, the walk makes a section and goes on in it. -/
theorem put_of_none {key next : String} {rest : List String} {entries : List (String × Setting)}
    (found : entries.lookup key = none) : put value (key :: next :: rest) entries =
      (Dict.putEntry key (.group (put value (next :: rest) []).1) entries,
        (put value (next :: rest) []).2) := by
  rw [put.eq_def]
  simp only [found]

/-- Below a section, the walk goes on in it. -/
theorem put_of_section {key next : String} {rest : List String}
    {entries inside : List (String × Setting)} (found : entries.lookup key = some (.group inside)) :
    put value (key :: next :: rest) entries =
      (Dict.putEntry key (.group (put value (next :: rest) inside).1) entries,
        (put value (next :: rest) inside).2) := by
  rw [put.eq_def]
  simp only [found]

/-- The walk leaves what is placed, and where nothing can be placed it leaves all as it was, though
it makes sections as it goes. -/
theorem put_eq (value : Option Setting → Setting) :
    ∀ (keys : List String) (entries : List (String × Setting)), put value keys entries =
      match place value keys entries with
      | .ok made => (made, none)
      | .error refused => (entries, some refused)
  | [], _ => rfl
  | [key], entries => by
    rw [put, place]
    cases entries.lookup key with
    | none => rfl
    | some v => cases v <;> rfl
  | key :: next :: rest, entries => by
    cases found : entries.lookup key with
    | none =>
      -- a section that is made is empty, so nothing is refused behind it
      have free : ¬ ∃ fault, place value (next :: rest) [] = .error fault := fun refused =>
        not_isBlocked_nil ((exists_place_error_iff value (List.cons_ne_nil next rest)).1 refused)
      rw [put_of_none found, place_of_none found, put_eq value (next :: rest)]
      cases below : place value (next :: rest) [] with
      | ok made => rfl
      | error fault => exact absurd ⟨fault, below⟩ free
    | some v =>
      cases v with
      | group inside =>
        rw [put_of_section found, place_of_section found, put_eq value (next :: rest)]
        cases place value (next :: rest) inside with
        | ok made => rfl
        | error fault =>
          -- the section is put back as it was
          show (Dict.putEntry key (.group inside) entries, some fault) = (entries, some fault)
          rw [Dict.putEntry_of_lookup found]
      | _ =>
        rw [put.eq_def, place.eq_def]
        simp only [found]

end

/-! ## Replacing -/

/-- A cast value has the kind of the value it replaces. -/
theorem kindName_of_castLike? {old new made : Setting} (cast : castLike? old new = .ok (some made))
    (some_ : old.isNull = false) (plain : old.isSection = false) :
    made.kindName = old.kindName := by
  have kind {α : Type} (make : α → Setting) (each : ∀ a, (make a).kindName = old.kindName)
      {a? : Option α} (h : (.ok (a?.map make) : Except Fault _) = .ok (some made)) :
      made.kindName = old.kindName := by
    obtain ⟨a, -, rfl⟩ := Option.map_eq_some_iff.1 (Except.ok.inj h)
    exact each a
  -- Each kind is cast to itself, by its own reader.
  cases old with
  | null => cases some_
  | group => cases plain
  | switch => exact kind .switch (fun _ => rfl) cast
  | text => exact kind .text (fun _ => rfl) cast
  | list => exact kind .list (fun _ => rfl) cast
  | whole =>
    rw [castLike?] at cast
    cases whole : castWhole? new with
    | error =>
      rw [whole] at cast
      cases cast
    | ok n? =>
      rw [whole] at cast
      exact kind .whole (fun _ => rfl) cast
  | decimal =>
    rw [castLike?] at cast
    cases decimal : castDecimal? new with
    | error =>
      rw [decimal] at cast
      cases cast
    | ok x? =>
      rw [decimal] at cast
      exact kind .decimal (fun _ => rfl) cast

/-- Where a cast ends without a fault, the value that is put takes the place of what was there. -/
theorem replaces_replacing {old? : Option Setting} {new : Setting}
    (plain : ∀ old ∈ old?, old.isSection = false)
    (cast : ∀ old ∈ old?, old.isNull = false → ∃ made?, castLike? old new = .ok made?) :
    Replaces new (old?.filter fun v => !v.isNull) (replacing new old?) := by
  cases old? with
  | none => exact .fresh
  | some old =>
    cases null : old.isNull with
    | true =>
      cases old with
      | null => exact .fresh
      | _ => cases null
    | false =>
      rw [Option.filter_some_pos (by rw [null]; rfl)]
      obtain ⟨made?, known⟩ := cast old rfl null
      rw [replacing, known]
      cases made? with
      | none => exact .kept known
      | some made => exact .cast known (kindName_of_castLike? known null (plain old rfl))

end Setting

/-! ## Putting -/

namespace Settings
open Setting

/-- Settings after a new value was put at a path: it stands there in the place of the old one, and
whatever other path leads neither to it nor through it finds what it found before. -/
structure IsUpdate (s : Settings) (path : String) (new : Setting) (after : Settings) : Prop where
  stored : ∃ v, Replaces new (s.get? path) v ∧ after.root.heldAt? (keysOf path) = some v ∧
    ∀ default, (after.get? path).getD default = if v.isNull then default else v
  others : ∀ other, ¬ keysOf path <+: keysOf other → ¬ keysOf other <+: keysOf path →
    after.get? other = s.get? other

/-- A path has at least one key. -/
theorem keysOf_ne_nil (path : String) : keysOf path ≠ [] := fun empty =>
  splitWhere_ne_nil _ _ (List.map_eq_nil_iff.1 empty)

section
variable {entries made : List (String × Setting)} {path : String} {new : Setting}

/-- What there is to say of a cast does not end with a fault where the cast does not. -/
theorem result_castReport {s : Settings}
    (cast : ∀ old, s.get? path = some old → ∃ made?, castLike? old new = .ok made?) :
    (s.castReport path new).result = .ok () := by
  unfold castReport
  split
  · rfl
  next old found =>
    obtain ⟨made?, known⟩ := cast old found
    rw [known]
    cases made? <;> rfl

/-- What was placed is an update. -/
theorem isUpdate_of_place
    (cast : ∀ old, (⟨.group entries⟩ : Settings).get? path = some old →
      ∃ made?, castLike? old new = .ok made?)
    (placed : place (replacing new) (keysOf path) entries = .ok made) :
    IsUpdate ⟨.group entries⟩ path new ⟨.group made⟩ := by
  have found (s : Settings) : s.get? path =
      (s.root.heldAt? (keysOf path)).filter fun v => !v.isNull := at?_eq _ _
  have stands := heldAt?_place_self (keysOf_ne_nil path) placed
  -- A section at the place itself would have blocked the way.
  have plain : ∀ old ∈ heldAt? (keysOf path) (.group entries), old.isSection = false := by
    intro old held
    rw [← Bool.not_eq_true]
    intro isSection
    obtain ⟨fault, refused⟩ := (exists_place_error_iff (replacing new)
      (keysOf_ne_nil path)).2 (.inr ⟨old, held, isSection⟩)
    rw [placed] at refused
    cases refused
  refine ⟨⟨_, ?_, stands, fun default => ?_⟩, fun other apart apart' => ?_⟩
  · rw [found]
    refine replaces_replacing plain fun old held some_ => cast old ?_
    rw [found, Option.mem_def.1 held, Option.filter_some_pos (by rw [some_]; rfl)]
  · rw [found, stands]
    cases null : (replacing new (heldAt? (keysOf path) (.group entries))).isNull with
    | true =>
      rw [Option.filter_some_neg (by rw [null]; decide)]
      rfl
    | false =>
      rw [Option.filter_some_pos (by rw [null]; rfl)]
      rfl
  · rw [get?, get?, at?_eq, at?_eq, heldAt?_place_of_apart placed apart apart']

end

/-- Putting a value at a path, where its cast ends without a fault, is refused exactly where the way
is blocked, and then all stays as it is; or it is done, and the value stands there in the place of
the old one. -/
theorem set_is_update_or_refused (entries : List (String × Setting)) (path : String)
    (new : Setting) (cast : ∀ old, (⟨.group entries⟩ : Settings).get? path = some old →
      ∃ made?, castLike? old new = .ok made?) :
    ∃ done after, ((⟨.group entries⟩ : Settings).set path new).result = .ok (done, after) ∧
      (done = false ↔ IsBlocked (keysOf path) (.group entries)) ∧
      (done = false → after = ⟨.group entries⟩) ∧
      (done = true → IsUpdate ⟨.group entries⟩ path new after) := by
  rw [← exists_place_error_iff (replacing new) (keysOf_ne_nil path)]
  cases placed : place (replacing new) (keysOf path) entries with
  | error fault =>
    refine ⟨false, ⟨.group entries⟩, ?_, by simp, fun _ => rfl, fun done => by cases done⟩
    rw [set]
    simp only [put_eq, placed]
  | ok made =>
    refine ⟨true, ⟨.group made⟩, ?_, by simp, (by cases ·), fun _ => isUpdate_of_place cast placed⟩
    rw [set]
    simp only [put_eq, placed]
    exact Outcome.result_bind_of_ok (result_castReport cast) _

/-- A depth given as a text takes the place of a whole number. -/
theorem set_is_update_or_refused_depth :
    let entries := [("splitter", Setting.group [("max_component_depth", .whole 5)])]
    let path := "splitter.max_component_depth"
    (∀ old, (⟨.group entries⟩ : Settings).get? path = some old →
      ∃ made?, castLike? old (.text "7") = .ok made?) ∧
    ∃ done after, ((⟨.group entries⟩ : Settings).set path (.text "7")).result = .ok (done, after) ∧
      (done = false ↔ IsBlocked (keysOf path) (.group entries)) ∧
      (done = false → after = ⟨.group entries⟩) ∧
      (done = true → IsUpdate ⟨.group entries⟩ path (.text "7") after) := by
  intro entries path
  have cast : ∀ old, (⟨.group entries⟩ : Settings).get? path = some old →
      ∃ made?, castLike? old (.text "7") = .ok made? := by
    intro old _
    cases old <;> exact ⟨_, rfl⟩
  exact ⟨cast, set_is_update_or_refused entries path (.text "7") cast⟩

end Settings
end Componentry
