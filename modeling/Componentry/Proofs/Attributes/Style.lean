import Componentry.Attributes.Style
import Componentry.Proofs.Dict
import Componentry.Proofs.Text.Lower
import Componentry.Proofs.Text.Pieces
import Mathlib.Data.List.Chain

/-!
# Inline styles read back

A name in camel case has no dash before a small letter, so where its characters are ASCII, putting a
dash before each of its capitals and joining again gives the name back. The inline style that is
written for a map is therefore read as the map that it was written for.
-/

set_option autoImplicit false

namespace Componentry.Style
open Componentry.Text

/-! ## Names in camel case -/

/-- The small letters stand in a row. -/
theorem isSmall_iff {c : Char} : isSmall c = true ↔ 97 ≤ c.toNat ∧ c.toNat ≤ 122 := by
  rw [isSmall, Bool.and_eq_true, decide_eq_true_eq, decide_eq_true_eq]
  rfl

/-- A small letter has a capital. -/
theorem isUpper_toUpper_of_isSmall {c : Char} (h : isSmall c = true) : c.toUpper.isUpper = true :=
  of_ascii (p := fun c => isSmall c = true → c.toUpper.isUpper = true) (by decide)
    (by have := (isSmall_iff.1 h).2; omega) h

/-- A capital is an ASCII character. -/
theorem toNat_lt_of_isUpper {c : Char} (h : c.isUpper = true) : c.toNat < 128 :=
  toNat_lt_of_isAsciiAlnum (isAsciiAlnum_of_isUpper h)

/-- A capital is neither a small letter, a blank nor a mark. -/
theorem of_isUpper {c : Char} (h : c.isUpper = true) :
    isSmall c = false ∧ isBlank c = false ∧ c ≠ '-' ∧ c ≠ ':' ∧ c ≠ ';' :=
  of_ascii (p := fun c => c.isUpper = true →
    isSmall c = false ∧ isBlank c = false ∧ c ≠ '-' ∧ c ≠ ':' ∧ c ≠ ';') (by decide)
    (toNat_lt_of_isUpper h) h

/-- Joining puts a capital in place of a dash and a small letter, and keeps any other character. A
dash that it keeps has no small letter behind it. -/
theorem joinHumps_induction {p : List Char → List Char → Prop} (nil : p [] [])
    (hump : ∀ c rest, isSmall c = true → p rest (joinHumps rest) →
      p ('-' :: c :: rest) (c.toUpper :: joinHumps rest))
    (keep : ∀ c rest, (c = '-' → ∀ d ∈ rest.head?, isSmall d = false) → p rest (joinHumps rest) →
      p (c :: rest) (c :: joinHumps rest)) (s : List Char) : p s (joinHumps s) := by
  induction s using joinHumps.induct with
  | case1 => exact nil
  | case2 c rest small ih =>
    rw [joinHumps, if_pos small]
    exact hump c rest small ih
  | case3 c rest big ih =>
    rw [joinHumps, if_neg big]
    refine keep '-' (c :: rest) (fun _ d hd => ?_) ih
    rw [List.head?_cons, Option.mem_some_iff] at hd
    subst hd
    exact Bool.not_eq_true _ ▸ big
  | case4 c rest other ih =>
    rw [joinHumps]
    · refine keep c rest (fun dash d hd => ?_) ih
      cases rest with
      | nil => cases hd
      | cons e more => exact absurd rfl (other e more dash)
    · exact other

/-- Only the empty name is empty with its dashes joined. -/
theorem joinHumps_eq_nil_iff (s : List Char) : joinHumps s = [] ↔ s = [] :=
  joinHumps_induction (p := fun s t => t = [] ↔ s = []) Iff.rfl (fun _ _ _ _ => by simp)
    (fun _ _ _ _ => by simp) s

/-- What is no capital stood there before. -/
theorem mem_of_mem_joinHumps (s : List Char) :
    ∀ d ∈ joinHumps s, d.isUpper = true ∨ d ∈ s := by
  refine joinHumps_induction (p := fun s t => ∀ d ∈ t, d.isUpper = true ∨ d ∈ s)
    (fun _ h => .inr h) (fun c rest small ih d hd => ?_) (fun c rest _ ih d hd => ?_) s
  · rcases List.mem_cons.1 hd with rfl | hd
    · exact .inl (isUpper_toUpper_of_isSmall small)
    · exact (ih d hd).imp_right fun mem => List.mem_cons_of_mem _ (List.mem_cons_of_mem c mem)
  · rcases List.mem_cons.1 hd with rfl | hd
    · exact .inr List.mem_cons_self
    · exact (ih d hd).imp_right (List.mem_cons_of_mem c)

/-- A joined name starts as the name does, or with a capital. -/
theorem head?_joinHumps (s : List Char) :
    ∀ d ∈ (joinHumps s).head?, d.isUpper = true ∨ d ∈ s.head? := by
  refine joinHumps_induction (p := fun s t => ∀ d ∈ t.head?, d.isUpper = true ∨ d ∈ s.head?)
    (fun _ h => .inr h) (fun c rest small _ d hd => ?_) (fun c rest _ _ d hd => .inr hd) s
  rw [List.head?_cons, Option.mem_some_iff] at hd
  exact .inl (hd ▸ isUpper_toUpper_of_isSmall small)

/-- The last character of what goes on after a character is that character or the last one of what
follows it. -/
theorem mem_getLast?_cons {c d : Char} {s : List Char} (h : d ∈ (c :: s).getLast?) :
    (s = [] ∧ d = c) ∨ (s ≠ [] ∧ d ∈ s.getLast?) := by
  cases s with
  | nil => exact .inl ⟨rfl, (Option.mem_some_iff.1 h).symm⟩
  | cons e rest => exact .inr ⟨List.cons_ne_nil e rest, h⟩

/-- A joined name ends as the name does, or with a capital. -/
theorem getLast?_joinHumps (s : List Char) :
    ∀ d ∈ (joinHumps s).getLast?, d.isUpper = true ∨ d ∈ s.getLast? := by
  refine joinHumps_induction (p := fun s t => ∀ d ∈ t.getLast?, d.isUpper = true ∨ d ∈ s.getLast?)
    (fun _ h => .inr h) (fun c rest small ih d hd => ?_) (fun c rest _ ih d hd => ?_) s
  · rcases mem_getLast?_cons hd with ⟨-, rfl⟩ | ⟨some_, last⟩
    · exact .inl (isUpper_toUpper_of_isSmall small)
    · have more : rest ≠ [] := fun none_ => some_ ((joinHumps_eq_nil_iff rest).2 none_)
      refine (ih d last).imp_right fun mem => ?_
      rwa [← List.getLast?_append_of_ne_nil ['-', c] more] at mem
  · rcases mem_getLast?_cons hd with ⟨none_, rfl⟩ | ⟨some_, last⟩
    · rw [(joinHumps_eq_nil_iff rest).1 none_]
      exact .inr rfl
    · have more : rest ≠ [] := fun none_ => some_ ((joinHumps_eq_nil_iff rest).2 none_)
      refine (ih d last).imp_right fun mem => ?_
      rwa [← List.getLast?_append_of_ne_nil [c] more] at mem

/-- No dash stands before a small letter. -/
def IsJoined (s : List Char) : Prop := s.IsChain fun c d => c = '-' → isSmall d = false

/-- No dash stands before a small letter once dashes are joined. -/
theorem isJoined_joinHumps (s : List Char) : IsJoined (joinHumps s) := by
  refine joinHumps_induction (p := fun _ t => IsJoined t) .nil (fun c rest small ih => ?_)
    (fun c rest dash ih => ?_) s
  · refine ih.cons fun d _ same => ?_
    exact absurd same (of_isUpper (isUpper_toUpper_of_isSmall small)).2.2.1
  · refine ih.cons fun d hd same => ?_
    rcases head?_joinHumps rest d hd with upper | first
    · exact (of_isUpper upper).1
    · exact dash same d first

/-! ## Names with dashes -/

/-- A dash and the small letter in place of a capital. -/
def splitHump (c : Char) : List Char := if c.isUpper then ['-', c.toLower] else [c]

/-- A capital comes back from its small letter. -/
theorem toLower_of_isUpper {c : Char} (h : c.isUpper = true) :
    isSmall c.toLower = true ∧ c.toLower.toUpper = c :=
  of_ascii (p := fun c => c.isUpper = true → isSmall c.toLower = true ∧ c.toLower.toUpper = c)
    (by decide) (toNat_lt_of_isUpper h) h

/-- A name of ASCII characters is split at each of its capitals. -/
theorem toList_kebabCase {k : String} (ascii : ∀ c ∈ k.toList, c.toNat < 128) :
    (kebabCase k).toList = k.toList.flatMap splitHump := by
  have split : ∀ d ∈ splitHumps k.toList, d.toNat < 128 := by
    intro d hd
    obtain ⟨c, hc, mem⟩ := List.mem_flatMap.1 hd
    split at mem
    · simp only [List.mem_cons, List.not_mem_nil, or_false] at mem
      rcases mem with rfl | rfl
      · decide
      · exact ascii d hc
    · rw [List.mem_singleton.1 mem]
      exact ascii c hc
  rw [kebabCase, String.toList_ofList, lowerChars_of_ascii split, splitHumps, List.map_flatMap]
  refine List.flatMap_congr fun c hc => ?_
  rw [splitHump]
  split
  · rfl
  next plain =>
    exact congrArg (fun d => [d]) (of_ascii (p := fun c => ¬ c.isUpper = true → c.toLower = c)
      (by decide) (ascii c hc) plain)

/-- A character is kept, but for a dash before a small letter. -/
theorem joinHumps_cons {c : Char} {s : List Char}
    (dash : c = '-' → ∀ d ∈ s.head?, isSmall d = false) :
    joinHumps (c :: s) = c :: joinHumps s := by
  by_cases same : c = '-' ∧ s ≠ []
  · obtain ⟨rfl, some_⟩ := same
    obtain ⟨d, rest, rfl⟩ := List.exists_cons_of_ne_nil some_
    rw [joinHumps, if_neg (by rw [dash rfl d rfl]; exact Bool.false_ne_true)]
  · rw [joinHumps]
    rintro d rest rfl rfl
    exact same ⟨rfl, List.cons_ne_nil d rest⟩

/-- Joining a name that was split gives it back, if it is joined. -/
theorem joinHumps_flatMap_splitHump : ∀ {s : List Char}, IsJoined s →
    joinHumps (s.flatMap splitHump) = s
  | [], _ => rfl
  | c :: s, joined => by
    have tail : IsJoined s := List.IsChain.tail joined
    have ih := joinHumps_flatMap_splitHump tail
    rw [List.flatMap_cons, splitHump]
    split
    next upper =>
      obtain ⟨small, back⟩ := toLower_of_isUpper upper
      show joinHumps ('-' :: c.toLower :: s.flatMap splitHump) = _
      rw [joinHumps, if_pos small, back, ih]
    next plain =>
      rw [List.singleton_append, joinHumps_cons, ih]
      intro same d hd
      cases s with
      | nil => cases hd
      | cons e rest =>
        rw [List.flatMap_cons, splitHump] at hd
        split at hd
        · rw [← Option.mem_some_iff.1 hd]
          decide
        · rw [← Option.mem_some_iff.1 hd]
          exact (List.isChain_cons_cons.1 joined).1 same

/-! ## Declarations -/

/-- A name of a style as reading gives it. -/
structure IsKey (k : List Char) : Prop where
  some_ : k ≠ []
  trimmed : IsTrimmed k
  colon : ':' ∉ k
  stop : ';' ∉ k

/-- What is read for a name in camel case. -/
theorem isKey_joinHumps {n : List Char} (h : IsKey n) : IsKey (joinHumps n) where
  some_ none_ := h.some_ ((joinHumps_eq_nil_iff n).1 none_)
  trimmed := by
    refine ⟨fun d hd => ?_, fun d hd => ?_⟩
    · rcases head?_joinHumps n d hd with upper | first
      · exact (of_isUpper upper).2.1
      · exact h.trimmed.first d first
    · rcases getLast?_joinHumps n d hd with upper | last
      · exact (of_isUpper upper).2.1
      · exact h.trimmed.last d last
  colon mem := by
    rcases mem_of_mem_joinHumps n _ mem with upper | mem
    · exact absurd upper (by decide)
    · exact h.colon mem
  stop mem := by
    rcases mem_of_mem_joinHumps n _ mem with upper | mem
    · exact absurd upper (by decide)
    · exact h.stop mem

/-- A name whose characters give themselves or other characters of names is a name again. -/
theorem IsKey.flatMap {f : Char → List Char} (some_ : ∀ c, f c ≠ [])
    (each : ∀ c, ∀ d ∈ f c, d = c ∨ (isBlank d = false ∧ d ≠ ':' ∧ d ≠ ';')) {k : List Char}
    (h : IsKey k) : IsKey (k.flatMap f) where
  some_ none_ := by
    obtain ⟨c, rest, rfl⟩ := List.exists_cons_of_ne_nil h.some_
    rw [List.flatMap_cons, List.append_eq_nil_iff] at none_
    exact some_ c none_.1
  trimmed := by
    refine ⟨?_, ?_⟩
    · obtain ⟨c, rest, rfl⟩ := List.exists_cons_of_ne_nil h.some_
      rw [List.flatMap_cons, List.head?_append_of_ne_nil _ (some_ c)]
      intro d hd
      rcases each c d (List.mem_of_mem_head? hd) with rfl | ⟨filled, -⟩
      · exact h.trimmed.first d rfl
      · exact filled
    · obtain ⟨before, c, whole⟩ := List.eq_nil_or_concat k |>.resolve_left h.some_
      rw [whole, List.concat_eq_append, List.flatMap_append, List.flatMap_singleton,
        List.getLast?_append_of_ne_nil _ (some_ c)]
      intro d hd
      rcases each c d (List.mem_of_mem_getLast? hd) with rfl | ⟨filled, -⟩
      · exact h.trimmed.last d (by rw [whole, List.concat_eq_append, List.getLast?_concat]; rfl)
      · exact filled
  colon mem := by
    obtain ⟨c, hc, hd⟩ := List.mem_flatMap.1 mem
    rcases each c _ hd with rfl | ⟨-, colon, -⟩
    · exact h.colon hc
    · exact colon rfl
  stop mem := by
    obtain ⟨c, hc, hd⟩ := List.mem_flatMap.1 mem
    rcases each c _ hd with rfl | ⟨-, -, stop⟩
    · exact h.stop hc
    · exact stop rfl

/-- What is written for a name is a name. -/
theorem isKey_kebabCase {k : String} (h : IsKey k.toList) : IsKey (kebabCase k).toList := by
  have split : IsKey (splitHumps k.toList) := by
    refine h.flatMap (fun c => ?_) fun c d hd => ?_
    · split <;> exact List.cons_ne_nil _ _
    · split at hd
      · simp only [List.mem_cons, List.not_mem_nil, or_false] at hd
        rcases hd with rfl | rfl
        · exact .inr (by decide)
        · exact .inl rfl
      · exact .inl (List.mem_singleton.1 hd)
  rw [kebabCase, String.toList_ofList]
  exact ⟨fun none_ => split.some_ (lowerFrom_eq_nil_iff.1 none_), split.trimmed.lowerChars,
    fun colon => split.colon (mem_of_mem_lowerChars colon (by decide)),
    fun stop => split.stop (mem_of_mem_lowerChars stop (by decide))⟩

/-- A value of a style as reading gives it. -/
structure IsValue (v : List Char) : Prop where
  trimmed : IsTrimmed v
  stop : ';' ∉ v

/-- An entry of a map that a style is read as. -/
structure IsEntry (e : String × String) : Prop where
  name : IsKey e.1.toList
  joined : IsJoined e.1.toList
  value : IsValue e.2.toList

/-- What a piece of a style declares is left by reading as it is. -/
theorem of_declaration? {piece n v : List Char} (whole : ';' ∉ piece)
    (h : declaration? piece = some (n, v)) : IsKey n ∧ IsValue v := by
  unfold declaration? at h
  cases cut : cutAt [':'] piece with
  | none => simp [cut] at h
  | some parts =>
    obtain ⟨name, value⟩ := parts
    simp only [cut] at h
    have around := append_of_cutAt cut
    split at h
    · cases h
    next filled =>
      rw [List.isEmpty_iff] at filled
      simp only [Option.some.injEq, Prod.mk.injEq] at h
      obtain ⟨rfl, rfl⟩ := h
      refine ⟨⟨filled, isTrimmed_trimChars name, fun colon => ?_, fun stop => ?_⟩,
        ⟨isTrimmed_trimChars value, fun stop => ?_⟩⟩
      · exact not_mem_of_cutAt cut (mem_of_mem_trimChars colon)
      · exact whole (around ▸ by simp [mem_of_mem_trimChars stop])
      · exact whole (around ▸ by simp [mem_of_mem_trimChars stop])

/-- What a style declares is an entry, its name in camel case. -/
theorem isEntry_of_mem_parse {s : String} {e : String × String} (h : e ∈ (parse s).entries) :
    IsEntry e := by
  obtain ⟨⟨name, value⟩, declared, rfl⟩ := List.mem_map.1 (Dict.mem_of_mem_ofList h)
  obtain ⟨piece, mem, read⟩ := List.mem_filterMap.1 declared
  have whole : ';' ∉ piece := fun stop => by
    have other := eq_false_of_mem_splitWhere _ _ piece mem ';' stop
    simp at other
  obtain ⟨⟨n, v⟩, split, same⟩ := Option.map_eq_some_iff.1 read
  cases same
  obtain ⟨key, plain⟩ := of_declaration? whole split
  refine ⟨?_, ?_, ?_⟩
  · show IsKey (camelCase (String.ofList n)).toList
    rw [camelCase, String.toList_ofList, String.toList_ofList]
    exact isKey_joinHumps key
  · show IsJoined (camelCase (String.ofList n)).toList
    rw [camelCase, String.toList_ofList, String.toList_ofList]
    exact isJoined_joinHumps n
  · rw [String.toList_ofList]
    exact plain

/-- A name and a value are read between blanks. -/
theorem declaration?_append {b n v : List Char} (hb : ∀ c ∈ b, isBlank c = true) (hn : IsKey n)
    (hv : IsTrimmed v) : declaration? (b ++ n ++ ':' :: ' ' :: v) = some (n, v) := by
  have colon : ':' ∉ b ++ n := by
    rw [List.mem_append, not_or]
    exact ⟨not_mem_of_blank hb (by decide), hn.colon⟩
  have name : trimChars (b ++ n) = n := by
    rw [trimChars_append_left hb, trimChars_of_isTrimmed hn.trimmed]
  have value : trimChars (' ' :: v) = v := by
    have space : ∀ c ∈ [' '], isBlank c = true := Lists.forall_mem_of_all (by decide)
    exact (trimChars_append_left space).trans (trimChars_of_isTrimmed hv)
  unfold declaration?
  simp only [cutAt_append_cons _ colon, name, value, List.isEmpty_iff, hn.some_, if_false]

/-! ## Writing -/

/-- Every character is an ASCII character. -/
def IsAscii (s : String) : Prop := ∀ c ∈ s.toList, c.toNat < 128

instance (s : String) : Decidable (IsAscii s) :=
  List.decidableBAll (fun c : Char => c.toNat < 128) s.toList

/-- An entry as it is written. -/
def spelled (e : String × String) : String := kebabCase e.1 ++ ": " ++ e.2

/-- An entry behind blanks is what its piece declares. -/
theorem declaration?_spelled {e : String × String} (h : IsEntry e) {b : List Char}
    (hb : ∀ c ∈ b, isBlank c = true) : ';' ∉ b ++ (spelled e).toList ∧
      declaration? (b ++ (spelled e).toList) = some ((kebabCase e.1).toList, e.2.toList) := by
  have key := isKey_kebabCase h.name
  have form : (spelled e).toList = (kebabCase e.1).toList ++ ':' :: ' ' :: e.2.toList := by
    simp [spelled, String.toList_append]
  rw [form]
  constructor
  · rw [List.mem_append, not_or]
    refine ⟨not_mem_of_blank hb (by decide), ?_⟩
    simp [key.stop, h.value.stop]
  · rw [← List.append_assoc]
    exact declaration?_append hb key h.value.trimmed

/-- The pieces of what is written declare the entries, each with its name in dashes. -/
theorem filterMap_declaration?_join : ∀ {l : List (String × String)},
    (∀ e ∈ l, IsEntry e) → ∀ {b : List Char}, (∀ c ∈ b, isBlank c = true) →
      (splitWhere (· == ';') (b ++ (join "; " (l.map spelled)).toList)).filterMap declaration? =
        l.map fun e => ((kebabCase e.1).toList, e.2.toList)
  | [], _, b, hb => by
    have stop : ';' ∉ b := not_mem_of_blank hb (by decide)
    have colon : ':' ∉ b := not_mem_of_blank hb (by decide)
    rw [List.map_nil, join, String.toList_empty, List.append_nil,
      splitWhere_of_none (beq_eq_false_of_not_mem stop)]
    simp only [List.filterMap_cons, declaration?, cutAt_of_not_mem colon, List.filterMap_nil,
      List.map_nil]
  | [e], h, b, hb => by
    obtain ⟨stop, read⟩ := declaration?_spelled (h e List.mem_cons_self) hb
    rw [List.map_singleton, join, splitWhere_of_none (beq_eq_false_of_not_mem stop),
      List.filterMap_cons, read]
    rfl
  | e :: f :: rest, h, b, hb => by
    obtain ⟨stop, read⟩ := declaration?_spelled (h e List.mem_cons_self) hb
    have behind := filterMap_declaration?_join (fun g hg => h g (List.mem_cons_of_mem e hg))
      (b := [' ']) (Lists.forall_mem_of_all (by decide))
    -- The semicolon belongs to the first entry, the space behind it to the second.
    have form : b ++ (join "; " ((e :: f :: rest).map spelled)).toList =
        (b ++ (spelled e).toList) ++ ';' :: ([' '] ++ (join "; " ((f :: rest).map spelled)).toList)
        := by
      rw [List.map_cons, List.map_cons, join, String.toList_append, String.toList_append,
        List.append_assoc, ← List.append_assoc b]
      rfl
    rw [form, splitWhere_append_cons rfl _ (beq_eq_false_of_not_mem stop), List.filterMap_cons,
      read, behind]
    rfl

/-- What is declared where a style that was read is written: its entries, each with its name in
dashes. -/
theorem declarations_write_parse (s : String) : declarations (write (parse s)) =
    (parse s).entries.map fun e => (kebabCase e.1, e.2) := by
  have pieces := filterMap_declaration?_join (fun _ he => isEntry_of_mem_parse (s := s) he)
    (b := []) (List.forall_mem_nil _)
  rw [List.nil_append] at pieces
  have whole : (splitWhere (· == ';') (write (parse s)).toList).filterMap declaration? = _ :=
    pieces
  rw [declarations, ← List.map_filterMap, whole, List.map_map]
  refine List.map_congr_left fun e _ => ?_
  simp only [Function.comp, String.ofList_toList]

/-- A style that was read has entries exactly where what is written for it has. -/
theorem isEmpty_parse_write_parse (s : String) :
    (parse (write (parse s))).isEmpty = (parse s).isEmpty := by
  rw [parse, declarations_write_parse, List.map_map, Dict.isEmpty_ofList, Dict.isEmpty]
  exact List.isEmpty_map

/-- A style that was read is read from what is written for it, if its names are ASCII. -/
theorem parse_write_parse {s : String} (ascii : ∀ k ∈ (parse s).keys, IsAscii k) :
    parse (write (parse s)) = parse s := by
  have read : ((declarations (write (parse s))).map fun e => (camelCase e.1, e.2)) =
      (parse s).entries := by
    rw [declarations_write_parse, List.map_map]
    refine (List.map_congr_left fun e he => ?_).trans (List.map_id _)
    have plain := ascii e.1 (List.mem_map_of_mem he)
    have joined : camelCase (kebabCase e.1) = e.1 := by
      rw [camelCase, toList_kebabCase plain,
        joinHumps_flatMap_splitHump (isEntry_of_mem_parse he).joined, String.ofList_toList]
    simp only [Function.comp, joined, id]
  apply Dict.ext_entries
  rw [parse, read, Dict.entries_ofList (parse s).distinct]

end Componentry.Style
