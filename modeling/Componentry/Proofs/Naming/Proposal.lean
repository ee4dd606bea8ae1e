import Componentry.Naming
import Componentry.Proofs.Naming.Identifier

/-!
# Proposed names

Whatever a component is named after, the words it is put into are capitals with ASCII letters and
digits behind them. So the name that is proposed for a component is an identifier, if the names of
its parent and its siblings, which it may start with, are identifiers. A name that an element gives
itself does not depend on those.
-/

set_option autoImplicit false

namespace Componentry.Naming
open Componentry.Text

/-- Nothing, or an identifier. -/
def IsWording (s : String) : Prop := s = "" ∨ IsIdentifier s

/-- An identifier is a wording. -/
theorem IsIdentifier.isWording {s : String} (h : IsIdentifier s) : IsWording s := .inr h

/-- An identifier has only letters and digits. -/
theorem IsIdentifier.isAsciiAlnum {s : String} (h : IsIdentifier s) :
    ∀ c ∈ s.toList, Text.isAsciiAlnum c = true := by
  obtain ⟨c, rest, chars, hc, hr⟩ := h
  rw [chars]
  exact List.forall_mem_cons.2 ⟨isAsciiAlnum_of_isUpper hc, hr⟩

/-- Letters and digits may follow an identifier. -/
theorem IsIdentifier.append_string {s t : String} (h : IsIdentifier s)
    (ht : ∀ c ∈ t.toList, Text.isAsciiAlnum c = true) : IsIdentifier (s ++ t) := by
  have longer := h.append ht
  rwa [String.ofList_toList] at longer

/-- A wording before an identifier makes one. -/
theorem IsWording.append {s t : String} (hs : IsWording s) (ht : IsIdentifier t) :
    IsIdentifier (s ++ t) := by
  rcases hs with rfl | hs
  · rwa [String.empty_append]
  · exact hs.append_string ht.isAsciiAlnum

/-- Two wordings in a row make one. -/
theorem IsWording.append_wording {s t : String} (hs : IsWording s) (ht : IsWording t) :
    IsWording (s ++ t) := by
  rcases ht with rfl | ht
  · rwa [String.append_empty]
  · exact (hs.append ht).isWording

/-- The start of a wording is one. -/
theorem IsWording.of_prefix {s : String} {start : List Char} (hs : IsWording s)
    (within : start <+: s.toList) : IsWording (String.ofList start) := by
  rcases hs with rfl | hs
  · exact .inl (congrArg String.ofList (List.prefix_nil.1 within))
  · rw [List.prefix_iff_eq_take.1 within]
    rcases Nat.eq_zero_or_pos start.length with none | some_
    · rw [none]
      exact .inl rfl
    · exact (hs.take some_).isWording

/-! ## Words -/

/-- A word of a name is empty or starts with a letter. -/
theorem isWording_capitalized (piece : List Char) :
    IsWording (String.ofList (capitalized (plainWord piece))) := by
  have kept : ∀ c ∈ plainWord piece, isAsciiAlnum c = true := fun c hc =>
    (List.mem_filter.1 (List.dropWhile_subset _ hc)).2
  cases word : plainWord piece with
  | nil => exact .inl rfl
  | cons c rest =>
    rw [word] at kept
    have letter : isAsciiDigit c = false := by
      have head := List.head_dropWhile_not isAsciiDigit (l := piece.filter isAsciiAlnum)
        (by rw [← plainWord, word]; exact List.cons_ne_nil c rest)
      have first : ((piece.filter isAsciiAlnum).dropWhile isAsciiDigit) = c :: rest := word
      simpa only [first, List.head_cons] using head
    refine .inr ⟨c.toUpper, rest.map Char.toLower, String.toList_ofList, ?_, ?_⟩
    · exact of_ascii (p := fun c => isAsciiAlnum c = true → isAsciiDigit c = false →
        c.toUpper.isUpper = true) (by decide)
        (toNat_lt_of_isAsciiAlnum (kept c List.mem_cons_self)) (kept c List.mem_cons_self) letter
    · intro d hd
      obtain ⟨e, he, rfl⟩ := List.mem_map.1 hd
      have alnum := kept e (List.mem_cons_of_mem c he)
      exact of_ascii (p := fun e => isAsciiAlnum e = true → isAsciiAlnum e.toLower = true)
        (by decide) (toNat_lt_of_isAsciiAlnum alnum) alnum

/-- Wordings in a row make one. -/
theorem isWording_flatMap {f : List Char → List Char}
    (hf : ∀ piece, IsWording (String.ofList (f piece))) : ∀ pieces : List (List Char),
      IsWording (String.ofList (pieces.flatMap f))
  | [] => .inl rfl
  | piece :: rest => by
    have ih := isWording_flatMap hf rest
    rw [List.flatMap_cons, String.ofList_append]
    rcases ih with empty | ih
    · rw [empty, String.append_empty]
      exact hf piece
    · exact ((hf piece).append ih).isWording

/-- Whatever a text is, its words make a wording. -/
theorem isWording_pascalCase (s : String) : IsWording (pascalCase s) :=
  isWording_flatMap isWording_capitalized _

/-! ## Names by content, class names and element -/

/-- A number may follow an identifier. -/
theorem isIdentifier_append_natText {s : String} (h : IsIdentifier s) (n : Nat) :
    IsIdentifier (s ++ natText n) :=
  h.append_string fun _ hc => isAsciiAlnum_of_isDigit (isDigit_of_mem_natText hc)

/-- A fixed text is checked to be an identifier. -/
theorem isIdentifier_of_check {s : String}
    (h : (s.toList.head?.any Char.isUpper && s.toList.all isAsciiAlnum) = true) :
    IsIdentifier s := by
  obtain ⟨head, alnum⟩ := Bool.and_eq_true_iff.1 h
  cases chars : s.toList with
  | nil => rw [chars] at head; cases head
  | cons c rest =>
    rw [chars] at head alnum
    exact ⟨c, rest, chars, head, fun d hd => List.all_eq_true.1 alnum d (List.mem_cons_of_mem c hd)⟩

/-- The name for want of a better one is an identifier. -/
theorem isIdentifier_plainName (number : Nat) (hints : Option ContentHints) :
    IsIdentifier (plainName number hints) := by
  have component : IsIdentifier "Component" := isIdentifier_of_check (by decide)
  have container : IsIdentifier "Container" := isIdentifier_of_check (by decide)
  unfold plainName
  split
  next => exact isIdentifier_append_natText component number
  next =>
    split
    next =>
      exact isIdentifier_append_natText ((isWording_pascalCase _).append container) number
    next =>
      split
      · exact isIdentifier_append_natText container number
      · exact isIdentifier_append_natText component number

/-- The proposal by classes is a wording. -/
theorem isWording_ofClasses (number : Nat) (classes : List String) (hints : Option ContentHints) :
    IsWording (ofClasses number classes hints) := by
  have plain := (isIdentifier_plainName number hints).isWording
  rw [ofClasses]
  split
  next => exact plain
  next =>
    split
    · exact plain
    · dsimp only
      split
      · exact isWording_pascalCase _
      · split
        · exact plain
        · exact isWording_pascalCase _

/-- The proposal for a button is a wording. -/
theorem isWording_ofButton (number : Nat) (r : NameRequest) : IsWording (ofButton number r) := by
  have button : IsWording "Button" := .inr (isIdentifier_of_check (by decide))
  rw [ofButton]
  split
  next => exact button
  next =>
    split
    · exact button
    · exact isWording_ofClasses _ _ _

/-- The names of the table of elements are identifiers. -/
theorem isIdentifier_of_lookup_elementNames {tag name : String}
    (h : elementNames.lookup tag = some name) : IsIdentifier name := by
  have all : ∀ p ∈ elementNames,
      (p.2.toList.head?.any Char.isUpper && p.2.toList.all isAsciiAlnum) = true := by decide
  obtain ⟨before, rest, table, _⟩ := List.lookup_eq_some_iff.1 h
  exact isIdentifier_of_check (all (tag, name) (table ▸ List.mem_append_cons_self))

/-! ## The proposal -/

/-- What stands before a hump is a start of the word. -/
theorem prefix_of_beforeHump : ∀ {before rest start : List Char},
    beforeHump before rest = some start → start <+: before.reverse ++ rest
  | before, c :: d :: rest, start, h => by
    rw [beforeHump] at h
    split at h
    · cases h
      exact List.prefix_append _ _
    · have longer := prefix_of_beforeHump h
      rwa [List.reverse_cons, List.append_assoc] at longer
  | _, [], _, h => by cases h
  | _, [_], _, h => by cases h

/-- The name of the whole is the start of the name of a part. -/
theorem isWording_of_wholeOfPart? {part whole : String} (worded : IsWording part)
    (h : wholeOfPart? part = some whole) : IsWording whole := by
  rw [wholeOfPart?] at h
  split at h
  · cases h
    exact worded.of_prefix (List.take_prefix _ _)
  · obtain ⟨start, found, rfl⟩ := Option.map_eq_some_iff.1 h
    exact worded.of_prefix (prefix_of_beforeHump found)

/-- The names of the parent and of the siblings of a component, where it has some, are
identifiers. -/
structure HasWordedKin (r : NameRequest) : Prop where
  parent : IsWording r.parent
  siblings : ∀ sibling ∈ r.siblings, IsWording sibling

variable {number : Nat} {r : NameRequest}

/-- The proposal by a sibling is a wording when its name is. -/
theorem isWording_ofSiblings (kin : HasWordedKin r) {sibling : String}
    (worded : IsWording sibling) : IsWording (ofSiblings number r sibling) := by
  have part : IsIdentifier "Section" := isIdentifier_of_check (by decide)
  have whole : IsWording (if r.parent != "" then r.parent else (wholeOfPart? sibling).getD "") := by
    split
    · exact kin.parent
    · cases found : wholeOfPart? sibling with
      | none => exact .inl rfl
      | some whole => exact isWording_of_wholeOfPart? worded found
  rw [ofSiblings]
  split
  next => exact (whole.append part).isWording
  next => exact whole.append_wording (isWording_ofClasses _ _ _)

/-- The proposal by the parent is a wording when the names around are. -/
theorem isWording_ofParent (kin : HasWordedKin r) : IsWording (ofParent r) := by
  have part : IsIdentifier "Section" := isIdentifier_of_check (by decide)
  have container : IsIdentifier "Container" := isIdentifier_of_check (by decide)
  rw [ofParent]
  split
  next =>
    split
    · exact (kin.parent.append container).isWording
    · exact (kin.parent.append part).isWording
  next => exact (kin.parent.append part).isWording

/-- The proposal by the place is a wording when the names around are. -/
theorem isWording_ofPlace (kin : HasWordedKin r) : IsWording (ofPlace number r) := by
  rw [ofPlace]
  split
  next found =>
    obtain ⟨tag, _, found⟩ := Option.bind_eq_some_iff.1 found
    exact (kin.parent.append (isIdentifier_of_lookup_elementNames found)).isWording
  next =>
    split
    · exact isWording_ofButton number r
    · split
      next siblings =>
        exact isWording_ofSiblings kin (kin.siblings _ (siblings ▸ List.mem_cons_self))
      next =>
        split
        next => exact kin.parent.append_wording (isWording_ofClasses _ _ _)
        next =>
          split
          · exact isWording_ofParent kin
          · split
            · exact isWording_pascalCase _
            · exact (isIdentifier_plainName number r.hints).isWording

/-- Where nothing is proposed the plain name stands in. -/
theorem isIdentifier_orPlain {name : String} (h : IsWording name) :
    IsIdentifier (orPlain number r name) := by
  rw [orPlain]
  split
  next => exact isIdentifier_plainName number r.hints
  next some_ =>
    rcases h with rfl | h
    · exact absurd rfl some_
    · exact h

/-- A name of its own, brought into form, is a wording. -/
theorem isWording_of_explicitName? {name : String} (own : r.explicitName? = some name) :
    IsWording name := by
  obtain ⟨n, _, own⟩ := Option.bind_eq_some_iff.1 own
  obtain ⟨_, _, own⟩ := List.exists_of_findSome?_eq_some own
  obtain ⟨value, _, own⟩ := Option.bind_eq_some_iff.1 own
  obtain ⟨_, same⟩ := Option.ite_none_left_eq_some.1 own
  cases same
  exact isWording_pascalCase value

/-- What is proposed for a component is an identifier, if what it takes over from others is. -/
theorem isIdentifier_propose (kin : r.explicitName? = none → HasWordedKin r) :
    IsIdentifier (propose number r) := by
  rw [propose]
  split
  next own => exact isIdentifier_orPlain (isWording_of_explicitName? own)
  next unnamed =>
    have placed : IsIdentifier (orPlain number r (ofPlace number r)) :=
      isIdentifier_orPlain (isWording_ofPlace (kin unnamed))
    dsimp only
    split
    · exact placed.append_string (Lists.forall_mem_of_all (by decide))
    · exact placed

/-- The builders of names are sound: every text has an identifier, which is the text itself where
that is an identifier; the words of a text are nothing or an identifier, as is what class names
give; and every name that is proposed, before it is written by a convention, is an identifier, if it
is the element's own or what it takes over from the names of a parent and of siblings is one. -/
theorem builders_give_identifiers :
    (∀ s, IsIdentifier (identifier s) ∧ (IsIdentifier s → identifier s = s) ∧
      identifier (identifier s) = identifier s) ∧
    (∀ s, pascalCase s = "" ∨ IsIdentifier (pascalCase s)) ∧
    (∀ number classes hints, ofClasses number classes hints = "" ∨
      IsIdentifier (ofClasses number classes hints)) ∧
    ∀ number r, (r.explicitName? = none → HasWordedKin r) → IsIdentifier (propose number r) :=
  ⟨fun s => ⟨isIdentifier_identifier s, identifier_of_isIdentifier,
      identifier_of_isIdentifier (isIdentifier_identifier s)⟩,
    isWording_pascalCase, isWording_ofClasses, fun _ _ => isIdentifier_propose⟩

/-- A part of a card beside its header. -/
theorem builders_give_identifiers_of_part :
    let r : NameRequest := { type := some "div", siblings := ["CardHeader"] }
    HasWordedKin r ∧ propose 1 r = "CardSection" ∧ IsIdentifier (propose 1 r) := by
  have header : IsIdentifier "CardHeader" := isIdentifier_of_check (by decide)
  have kin : HasWordedKin { type := some "div", siblings := ["CardHeader"] } :=
    ⟨.inl rfl, List.forall_mem_singleton.2 header.isWording⟩
  exact ⟨kin, by decide, builders_give_identifiers.2.2.2 1 _ fun _ => kin⟩

end Componentry.Naming
