import Componentry.Jsx.Generator
import Componentry.Proofs.Jsx.Elements
import Componentry.Proofs.Jsx.Literal

/-!
# Parameters that are found and used

A value that is a name in curly brackets refers to a parameter. The parameters of a page are the
names that the values in it refer to, each once. Where a component is printed, a name is used if an
attribute that keeps its value refers to it on an element that is met: a switch is printed without
its value, a style as a map, and some attributes are left out. So every name that is used is found,
but not every one that is found is used.
-/

set_option autoImplicit false

namespace Componentry.Node
open Componentry.Jsx
variable {t : Node}

mutual
/-- A node that is met stands in the node it is met in. -/
theorem mem_preorder_of_mem_met : ∀ {n : Node}, t ∈ n.met → t ∈ n.preorder
  | .mk label children, h => by
    rw [preorder_mk]
    rw [met] at h
    split at h
    · exact List.mem_cons.2 (.inl (List.mem_singleton.1 h))
    · exact List.mem_cons.2 (.inl (List.mem_singleton.1 h))
    · exact List.mem_cons.2 ((List.mem_cons.1 h).imp_right mem_preorderAll_of_mem_metAll)
    · split at h
      · exact List.mem_cons.2 (.inl (List.mem_singleton.1 h))
      · exact List.mem_cons.2 ((List.mem_cons.1 h).imp_right mem_preorderAll_of_mem_metAll)

/-- The nodes a search for names meets are nodes of the page. -/
theorem mem_preorderAll_of_mem_metAll : ∀ {l : List Node}, t ∈ metAll l → t ∈ preorderAll l
  | [], h => by
    rw [metAll] at h
    cases h
  | n :: rest, h => by
    rw [preorderAll, List.mem_append]
    rw [metAll] at h
    split at h
    · exact (List.mem_append.1 h).imp mem_preorder_of_mem_met mem_preorderAll_of_mem_metAll
    · exact .inr (mem_preorderAll_of_mem_metAll h)
end

/-- The nodes met from the root are nodes of the page. -/
theorem mem_preorder_of_mem_metFromRoot {root : Node} (h : t ∈ root.metFromRoot) :
    t ∈ root.preorder := by
  rw [metFromRoot] at h
  split at h
  next => cases h
  next n found =>
    have inside := mem_preorder_of_mem_met h
    obtain ⟨label, children⟩ := root
    rcases outermost?_cases (.mk label children) with ⟨none_, -⟩ | ⟨whole, -⟩ | ⟨m, only, -, eq⟩
    · rw [none_] at found
      cases found
    · rw [whole] at found
      cases found
      exact inside
    · rw [only] at found
      cases found
      have mem : n ∈ children.filter renders := eq ▸ List.mem_singleton_self n
      rw [preorder_mk]
      exact List.mem_cons_of_mem _ (mem_preorderAll.2 ⟨n, (List.mem_filter.1 mem).1, inside⟩)

end Componentry.Node

namespace Componentry.Jsx
open Componentry.Text

/-! ## Names in curly brackets -/

/-- A name that a value can refer to. -/
def isReference (name : String) : Bool :=
  match name.toList with
  | c :: rest => startsName c && rest.all isNameChar
  | [] => false

/-- A value refers to a name. -/
def RefersTo (value : AttributeValue) (name : String) : Prop :=
  ∃ s, value = .text s ∧ referred? s = some name

section
variable {s name : String} {body : List Char}

/-- A text refers to the name that stands alone between its curly brackets. -/
theorem referred?_eq_some_iff : referred? s = some name ↔ isReference name = true ∧
    ∃ body, expression? s.toList = some body ∧ trimChars body = name.toList := by
  rw [referred?, Option.bind_eq_some_iff]
  constructor
  · rintro ⟨body, inside, found⟩
    split at found
    next c rest trimmed =>
      split at found
      next valid =>
        cases found
        refine ⟨?_, body, inside, by rw [String.toList_ofList, trimmed]⟩
        rw [isReference, String.toList_ofList]
        exact valid
      next => cases found
    next => cases found
  · rintro ⟨valid, body, inside, trimmed⟩
    refine ⟨body, inside, ?_⟩
    rw [isReference] at valid
    cases chars : name.toList with
    | nil =>
      rw [chars] at valid
      cases valid
    | cons c rest =>
      rw [chars] at valid trimmed
      have whole : String.ofList (c :: rest) = name := by rw [← chars, String.ofList_toList]
      rw [trimmed]
      exact (if_pos valid).trans (congrArg some whole)

/-- What starts a name may go on in one. -/
theorem isNameChar_of_startsName {c : Char} (h : startsName c = true) : isNameChar c = true := by
  rw [startsName, Bool.or_eq_true, Bool.or_eq_true, isAsciiLetter] at h
  rw [isNameChar, isWordChar, Bool.or_eq_true, Bool.or_eq_true]
  rcases h with (letter | line) | dollar
  · have alnum : isAsciiAlnum c = true := by
      rw [isAsciiAlnum, Char.isAlphanum, letter, Bool.true_or]
    exact .inl (.inl (isAlnum_of_isAsciiAlnum alnum))
  · exact .inl (.inr line)
  · exact .inr dollar

/-- A name starts with an ASCII character. -/
theorem toNat_lt_of_startsName {c : Char} (h : startsName c = true) : c.toNat < 128 := by
  rw [startsName, Bool.or_eq_true, Bool.or_eq_true, isAsciiLetter] at h
  rcases h with (letter | line) | dollar
  · exact toNat_lt_of_isAsciiAlnum (by rw [isAsciiAlnum, Char.isAlphanum, letter, Bool.true_or])
  · rw [beq_iff_eq.1 line]
    decide
  · rw [beq_iff_eq.1 dollar]
    decide

/-- A name that can be referred to has only characters of names. -/
theorem isNameChar_of_isReference (h : isReference name = true) :
    ∀ c ∈ name.toList, isNameChar c = true := by
  rw [isReference] at h
  split at h
  next c rest chars =>
    rw [Bool.and_eq_true, List.all_eq_true] at h
    rw [chars]
    intro d hd
    rcases List.mem_cons.1 hd with rfl | hd
    · exact isNameChar_of_startsName h.1
    · exact h.2 d hd
  next => cases h

/-- What is a name between blanks holds no character that is neither blank nor part of a name. -/
theorem not_mem_of_trimChars (h : isReference name = true) (trimmed : trimChars body = name.toList)
    {c : Char} (solid : isBlank c = false) (foreign : isNameChar c = false) : c ∉ body := by
  intro mem
  obtain ⟨before, behind, blank, blank', whole⟩ := exists_blanks_trimChars body
  rw [whole, List.mem_append, List.mem_append] at mem
  rcases mem with (mem | mem) | mem
  · rw [blank c mem] at solid
    cases solid
  · rw [trimmed] at mem
    rw [isNameChar_of_isReference h c mem] at foreign
    cases foreign
  · rw [blank' c mem] at solid
    cases solid

end

/-! ## Names that are printed -/

/-- A text is an attribute that has a name in curly brackets for its value. -/
def IsBoundTo (text key name : String) : Prop :=
  isReference name = true ∧ ∃ body, trimChars body = name.toList ∧
    text = key ++ "=\x7b" ++ String.ofList body ++ "\x7d"

/-- An attribute is printed as a switch, whatever its value is. -/
def isTurnedOn (name : String) : Bool :=
  match standard? name with
  | some (_, kind) => kind == .boolean
  | none => isSwitch name

/-- An attribute is printed with its value: it is not left out, no switch and no style. -/
def keepsValue (name : String) : Bool :=
  !isLeftOut name && !isTurnedOn name && name != "style"

section
variable {text key name s : String} {p : Property} {renamesClass : Bool}

/-- A text with a name for its value is longer than the key. -/
theorem IsBoundTo.length_lt (h : IsBoundTo text key name) :
    key.toList.length < text.toList.length := by
  obtain ⟨-, body, -, rfl⟩ := h
  simp only [String.toList_append, List.length_append]
  have sign : "=\x7b".toList.length = 2 := rfl
  omega

/-- A bare name is bound to nothing. -/
theorem not_isBoundTo_self : ¬ IsBoundTo key key name := fun h => Nat.lt_irrefl _ h.length_lt

/-- What is not printed is bound to nothing. -/
theorem not_isBoundTo_empty : ¬ IsBoundTo "" key name := fun h => Nat.not_lt_zero _ h.length_lt

/-- What stands in the curly brackets of a text is what is bound there. -/
theorem isBoundTo_append_iff {body : List Char} :
    IsBoundTo (key ++ "=\x7b" ++ String.ofList body ++ "\x7d") key name ↔
      isReference name = true ∧ trimChars body = name.toList := by
  constructor
  · rintro ⟨valid, other, trimmed, same⟩
    have chars := congrArg String.toList same
    simp only [String.toList_append, String.toList_ofList, List.append_assoc,
      List.append_cancel_left_eq] at chars
    rw [List.append_cancel_right_eq] at chars
    exact ⟨valid, chars ▸ trimmed⟩
  · rintro ⟨valid, trimmed⟩
    exact ⟨valid, body, trimmed, rfl⟩

/-- A text with a character in its brackets that is no part of a name is bound to none. -/
theorem not_isBoundTo_of_mem {body : List Char} {c : Char} (mem : c ∈ body)
    (solid : isBlank c = false) (foreign : isNameChar c = false) :
    ¬ IsBoundTo (key ++ "=\x7b" ++ String.ofList body ++ "\x7d") key name := by
  rw [isBoundTo_append_iff]
  rintro ⟨valid, trimmed⟩
  exact not_mem_of_trimChars valid trimmed solid foreign mem

/-- A value in quotes is bound to nothing. -/
theorem not_isBoundTo_quoted (value : String) :
    ¬ IsBoundTo (key ++ "=\"" ++ value ++ "\"") key name := by
  rintro ⟨-, body, -, same⟩
  have chars := congrArg String.toList same
  simp only [String.toList_append, List.append_assoc, List.append_cancel_left_eq] at chars
  have quote : "=\"".toList = ['=', '"'] := rfl
  have brace : "=\x7b".toList = ['=', '\x7b'] := rfl
  rw [quote, brace] at chars
  cases chars

/-- A text is printed with a name in curly brackets exactly if it refers to the name. -/
theorem isBoundTo_attributeText_iff (value : p.value = .text s) :
    IsBoundTo (attributeText key p) key name ↔ referred? s = some name := by
  rw [referred?_eq_some_iff, attributeText, value]
  dsimp only
  split
  next body inside =>
    rw [isBoundTo_append_iff, inside]
    simp
  next none_ =>
    rw [none_]
    have nothing : ¬ ∃ body, (none : Option (List Char)) = some body ∧
        trimChars body = name.toList := by
      rintro ⟨_, ⟨⟩, _⟩
    refine iff_of_false ?_ fun h => nothing h.2
    split
    · -- a function starts with a bracket that no name has
      have function : key ++ "=\x7b() => \x7b " ++ handlerBody s ++ "; \x7d\x7d" =
          key ++ "=\x7b" ++ String.ofList
            ("() => \x7b ".toList ++ (handlerBody s).toList ++ "; \x7d".toList) ++ "\x7d" := by
        apply String.toList_injective
        simp [String.toList_append]
      rw [function]
      exact not_isBoundTo_of_mem (c := '(') (by simp) (by decide) (by decide)
    · exact not_isBoundTo_quoted _

/-- A style is printed with no name in curly brackets. -/
theorem not_isBoundTo_style {style : Dict String} (kind : p.kind = .style)
    (value : p.value = .ofStyle style) : ¬ IsBoundTo (attributeText "style" p) "style" name := by
  simp only [attributeText, value, PropertyValue.ofStyle, kind, beq_self_eq_true, if_true]
  split
  · exact not_isBoundTo_empty
  · generalize (texts? _).getD [] = entries
    have inner : "style=\x7b" ++ literal entries ++ "\x7d" =
        "style" ++ "=\x7b" ++ String.ofList (literal entries).toList ++ "\x7d" := by
      rw [String.ofList_toList]
      rfl
    rw [inner]
    refine not_isBoundTo_of_mem (c := '\x7b') ?_ (by decide) (by decide)
    rw [literal, String.append_assoc, String.toList_append]
    exact List.mem_append_left _ (by decide)

/-- What becomes of an attribute that is not left out: a switch is on, a style is a map, and any
other attribute keeps its value. -/
theorem standardProperty_cases (value : PropertyValue) (kept : isLeftOut name = false) :
    (isTurnedOn name = true ∧ (standardProperty name value).value = .switch true) ∨
      (keepsValue name = false ∧ name = "style" ∧
        standardProperty name value =
          { name := "style", value := .ofStyle (styleMap value), kind := .style }) ∨
      (keepsValue name = true ∧ (standardProperty name value).value = value) := by
  -- The cases are those of the table of names: left out, a switch, renamed, and not in it.
  unfold standardProperty
  split
  next property found =>
    rw [isLeftOut_iff.2 ⟨property, found⟩] at kept
    cases kept
  next property found => exact .inl ⟨by rw [isTurnedOn, found]; rfl, rfl⟩
  next property kind _ notBoolean found =>
    have off : isTurnedOn name = false := by
      rw [isTurnedOn, found]
      exact beq_eq_false_iff_ne.2 fun same => notBoolean (same ▸ rfl)
    have style : (name != "style") = true := bne_iff_ne.2 (kind_of_standard? found).2
    exact .inr (.inr ⟨by rw [keepsValue, kept, off, style]; rfl, rfl⟩)
  next found =>
    have turned : isTurnedOn name = isSwitch name := by rw [isTurnedOn, found]
    have passed : ∀ n ∈ switchAttributes, (startsWith n "data-" || startsWith n "aria-") = false :=
      by decide +kernel
    split_ifs with isStyle isPassed switch
    · have same := beq_iff_eq.1 isStyle
      subst same
      exact .inr (.inl ⟨by simp [keepsValue], rfl, rfl⟩)
    · have off : isSwitch name = false := by
        rw [isSwitch, ← Bool.not_eq_true, List.contains_iff_mem]
        exact fun mem => absurd (passed name mem ▸ isPassed) Bool.false_ne_true
      exact .inr (.inr ⟨by rw [keepsValue, kept, turned, off]; simpa using isStyle, rfl⟩)
    · exact .inl ⟨turned.trans switch, rfl⟩
    · have off : isSwitch name = false := Bool.eq_false_iff.2 switch
      exact .inr (.inr ⟨by rw [keepsValue, kept, turned, off]; simpa using isStyle, rfl⟩)

/-- An attribute that is not left out is printed with a name in curly brackets exactly if it keeps
its value and refers to the name. -/
theorem isBoundTo_printedText_iff {value : AttributeValue} (kept : isLeftOut key = false) :
    IsBoundTo (printedText renamesClass key value) (printedName renamesClass key value) name ↔
      RefersTo value name ∧ keepsValue key = true := by
  rw [printedText, printedName, writeProperty]
  -- Only the last case prints the value itself; a word and a map are never a lone name.
  rcases standardProperty_cases (.ofAttribute value) kept with
    ⟨on, as⟩ | ⟨other, -, as⟩ | ⟨keeps, as⟩
  · have word : attributeText (writtenName renamesClass (standardProperty key (.ofAttribute value)))
        (standardProperty key (.ofAttribute value)) =
          writtenName renamesClass (standardProperty key (.ofAttribute value)) := by
      rw [attributeText, as]
      rfl
    rw [word]
    refine iff_of_false not_isBoundTo_self fun h => ?_
    have keeps := h.2
    rw [keepsValue, on, Bool.not_true, Bool.and_false, Bool.false_and] at keeps
    cases keeps
  · rw [as]
    refine iff_of_false (not_isBoundTo_style rfl rfl) fun h => ?_
    rw [other] at h
    cases h.2
  · cases value with
    | text s =>
      rw [isBoundTo_attributeText_iff as]
      constructor
      · exact fun refers => ⟨⟨s, rfl, refers⟩, keeps⟩
      · rintro ⟨⟨_, ⟨⟩, refers⟩, -⟩
        exact refers
    | switch on =>
      refine iff_of_false ?_ fun h => ?_
      · rw [attributeText, as]
        cases on
        · exact not_isBoundTo_empty
        · exact not_isBoundTo_self
      · obtain ⟨⟨_, same, -⟩, -⟩ := h
        cases same

end

/-! ## Parameters that are found -/

/-- The references of an element's attributes, each with the value that it stands in. -/
def references (a : Attributes) : List (String × String) :=
  a.toMarkup.entries.filterMap fun (_, v) =>
    match v with
    | .text s => (referred? s).map fun name => (name, s)
    | .switch _ => none

/-- A reference is enlisted unless there is a parameter of its name. -/
def enlist (found : List Parameter) (r : String × String) : List Parameter :=
  if found.any fun p => p.name == r.1 then found
  else found ++ [{ name := r.1, type := typeOf r.1 r.2 }]

/-- The names are detected element by element, in the order of the page. -/
theorem detect_eq (root : Node) : detect root =
    (root.elements.flatMap fun n => references n.attributes).foldl enlist [] :=
  rfl

section
variable {name : String} {root : Node}

/-- The references of a bag are those of what is written for it. -/
theorem mem_references {a : Attributes} : name ∈ (references a).map Prod.fst ↔
    ∃ e ∈ a.toMarkup.entries, RefersTo e.2 name := by
  rw [List.mem_map]
  constructor
  · rintro ⟨r, hr, rfl⟩
    obtain ⟨⟨key, value⟩, he, found⟩ := List.mem_filterMap.1 hr
    cases value with
    | text s =>
      obtain ⟨reference, refers, rfl⟩ := Option.map_eq_some_iff.1 found
      exact ⟨_, he, s, rfl, refers⟩
    | switch => cases found
  · rintro ⟨⟨key, value⟩, he, s, rfl, refers⟩
    exact ⟨(name, s), List.mem_filterMap.2 ⟨_, he, by dsimp only; rw [refers]; rfl⟩, rfl⟩

/-- Names that are enlisted are listed once, with nothing said of them but their type. -/
structure AreFound (found : List Parameter) : Prop where
  distinct : (found.map Parameter.name).Nodup
  plain : ∀ p ∈ found, p = { name := p.name, type := p.type }

/-- One more reference is listed unless its name is. -/
theorem AreFound.enlist {found : List Parameter} (h : AreFound found) (r : String × String) :
    AreFound (enlist found r) ∧ ∀ name, name ∈ (Jsx.enlist found r).map Parameter.name ↔
      name ∈ found.map Parameter.name ∨ name = r.1 := by
  rw [Jsx.enlist]
  split
  next known =>
    obtain ⟨p, hp, same⟩ := List.any_eq_true.1 known
    refine ⟨h, fun name => ⟨.inl, fun either => either.elim id ?_⟩⟩
    rintro rfl
    exact beq_iff_eq.1 same ▸ List.mem_map_of_mem hp
  next new =>
    have fresh : r.1 ∉ found.map Parameter.name := fun mem => by
      obtain ⟨p, hp, same⟩ := List.mem_map.1 mem
      exact new (List.any_eq_true.2 ⟨p, hp, beq_iff_eq.2 same⟩)
    refine ⟨⟨?_, fun p hp => ?_⟩, fun name => ?_⟩
    · rw [List.map_append, List.nodup_append]
      refine ⟨h.distinct, List.nodup_singleton _, fun name hn other ho same => ?_⟩
      rw [List.map_singleton, List.mem_singleton] at ho
      have given : name = r.1 := same.trans ho
      exact fresh (given ▸ hn)
    · rcases List.mem_append.1 hp with hp | hp
      · exact h.plain p hp
      · rw [List.mem_singleton.1 hp]
    · rw [List.map_append, List.mem_append, List.map_singleton, List.mem_singleton]

/-- A list of references is listed name by name, each once. -/
theorem AreFound.foldl : ∀ (l : List (String × String)) {found : List Parameter},
    AreFound found → AreFound (l.foldl Jsx.enlist found) ∧ ∀ name,
      name ∈ (l.foldl Jsx.enlist found).map Parameter.name ↔
        name ∈ found.map Parameter.name ∨ name ∈ l.map Prod.fst
  | [], _, h => ⟨h, fun name => by simp⟩
  | r :: rest, _, h => by
    obtain ⟨first, names⟩ := h.enlist r
    obtain ⟨all, others⟩ := AreFound.foldl rest first
    refine ⟨all, fun name => ?_⟩
    rw [List.foldl_cons, others, names, List.map_cons, List.mem_cons, or_assoc]

/-- The parameters of a page are the names that are referred to in it. -/
theorem areFound_detect (root : Node) : AreFound (detect root) ∧ ∀ name,
    name ∈ (detect root).map Parameter.name ↔
      ∃ n ∈ root.elements, ∃ e ∈ n.attributes.toMarkup.entries, RefersTo e.2 name := by
  have start : AreFound [] := ⟨List.nodup_nil, fun _ hp => absurd hp List.not_mem_nil⟩
  obtain ⟨found, names⟩ := AreFound.foldl
    (root.elements.flatMap fun n => references n.attributes) start
  rw [detect_eq]
  refine ⟨found, fun name => (names name).trans ?_⟩
  rw [List.map_nil, List.map_flatMap]
  simp only [List.not_mem_nil, false_or, List.mem_flatMap, mem_references]

/-- Found parameters alone are all there are. -/
theorem AreFound.mergeParameters {found : List Parameter} (h : AreFound found) :
    mergeParameters found [] = found := by
  have distinct : ((found.map fun p => (p.name, p)).map Prod.fst).Nodup := by
    rw [List.map_map]
    exact h.distinct
  show ((Dict.ofList (found.map fun p => (p.name, p))).entries.map Prod.snd) = found
  rw [Dict.entries_ofList distinct, List.map_map]
  exact List.map_id _

/-- Found parameters are listed in the head of a component by their names alone. -/
theorem AreFound.parameterList {found : List Parameter} (h : AreFound found) (some_ : found ≠ [])
    (component : String) (declaresType : Bool) :
    parameterList component declaresType found =
      "\x7b " ++ join ", " (found.map Parameter.name) ++ " \x7d" ++
        (if declaresType then ": " ++ component ++ "Props" else "") := by
  have bindings : found.map Parameter.binding = found.map Parameter.name :=
    List.map_congr_left fun p hp => by
      rw [h.plain p hp]
      rfl
  rw [Jsx.parameterList, if_neg (by simpa using some_), bindings]

/-- Found parameters have a line each in the type of a component. -/
theorem AreFound.parameterType {found : List Parameter} (h : AreFound found) (some_ : found ≠ [])
    (component : String) : parameterType component found =
      join "\n" (("interface " ++ (component ++ "Props") ++ " \x7b") ::
        (found.map fun p => "  " ++ p.name ++ "?: " ++ p.type ++ ";") ++ ["\x7d"]) ++ "\n\n" := by
  have lines : found.flatMap Parameter.typeLines =
      found.map fun p => "  " ++ p.name ++ "?: " ++ p.type ++ ";" := by
    rw [List.map_eq_flatMap]
    refine List.flatMap_congr fun p hp => ?_
    rw [h.plain p hp]
    show ["  " ++ p.name ++ "?" ++ ": " ++ p.type ++ ";"] =
      ["  " ++ p.name ++ "?: " ++ p.type ++ ";"]
    have mark : "?: " = "?" ++ ": " := rfl
    rw [mark, ← String.append_assoc]
  rw [Jsx.parameterType, if_neg (by simpa using some_), lines]
  rfl

end

/-! ## Names that can be bound -/

/-- Words that no parameter of a module can have for its name. -/
def reservedWords : List String := [
  "arguments", "await", "break", "case", "catch", "class", "const", "continue", "debugger",
  "default", "delete", "do", "else", "enum", "eval", "export", "extends", "false", "finally", "for",
  "function", "if", "implements", "import", "in", "instanceof", "interface", "let", "new", "null",
  "package", "private", "protected", "public", "return", "static", "super", "switch", "this",
  "throw", "true", "try", "typeof", "var", "void", "while", "with", "yield"]

/-- A name that a parameter can have. -/
def Alphabet.isBindingName (a : Alphabet) (name : String) : Bool :=
  a.isIdentifier name.toList && !reservedWords.contains name

/-- The characters of a name beyond ASCII go on with identifiers. -/
def Alphabet.Continues (a : Alphabet) (name : String) : Prop :=
  ∀ c ∈ name.toList, c.toNat < 128 ∨ a.continues c = true

/-- No character of a name is spacing. -/
theorem isSpacing_eq_false_of_isNameChar {c : Char} (h : isNameChar c = true) :
    isSpacing c = false := by
  have none_ : ∀ d ∈ spacings, isNameChar d = false := Lists.forall_mem_of_all (by decide +kernel)
  cases spacing : isSpacing c with
  | false => rfl
  | true =>
    rw [isSpacing, List.contains_iff_mem] at spacing
    rw [none_ c spacing] at h
    cases h

/-- A name that can be referred to can be bound, if it is not reserved and its characters beyond
ASCII go on with identifiers. -/
theorem isBindingName_of_isReference {a : Alphabet} {name : String} (h : isReference name = true)
    (continues : a.Continues name) (free : name ∉ reservedWords) : a.isBindingName name = true := by
  have unreserved : reservedWords.contains name = false := by
    rwa [← Bool.not_eq_true, List.contains_iff_mem]
  rw [Alphabet.isBindingName, unreserved, Bool.not_false, Bool.and_true]
  rw [isReference] at h
  split at h
  next c rest chars =>
    rw [Bool.and_eq_true, List.all_eq_true] at h
    rw [Alphabet.Continues, chars] at continues
    rw [chars, Alphabet.isIdentifier, Bool.and_eq_true, List.all_eq_true]
    refine ⟨?_, fun d hd => ?_⟩
    · rw [Alphabet.startsIdentifier, if_pos (toNat_lt_of_startsName h.1)]
      exact h.1
    · have letter := h.2 d hd
      rw [Alphabet.continuesIdentifier]
      split
      next small =>
        rw [isNameChar, isWordChar, isAlnum, if_pos small] at letter
        exact letter
      next large =>
        rw [(continues d (List.mem_cons_of_mem c hd)).resolve_left large,
          isSpacing_eq_false_of_isNameChar letter]
        rfl
  next => cases h

/-! ## Names that are used -/

/-- A name stands in curly brackets as the value of a printed attribute of an element that is met.
-/
def IsUsed (renamesClass : Bool) (root : Node) (name : String) : Prop :=
  ∃ n ∈ root.metFromRoot, n.isElement = true ∧ ∃ e ∈ printedEntries n.attributes,
    IsBoundTo (printedText renamesClass e.1 e.2) (printedName renamesClass e.1 e.2) name

section
variable {root : Node} {name : String} {renamesClass : Bool}

/-- A name is used just where an element that is printed refers to it and keeps the value. -/
theorem isUsed_iff : IsUsed renamesClass root name ↔
    ∃ n ∈ root.metFromRoot, n.isElement = true ∧ ∃ e ∈ n.attributes.toMarkup.entries,
      RefersTo e.2 name ∧ keepsValue e.1 = true := by
  constructor
  · rintro ⟨n, hn, element, e, he, bound⟩
    obtain ⟨mem, kept⟩ := mem_printedEntries.1 he
    exact ⟨n, hn, element, e, mem, (isBoundTo_printedText_iff kept).1 bound⟩
  · rintro ⟨n, hn, element, e, mem, refers, keeps⟩
    have kept : isLeftOut e.1 = false := by
      rw [keepsValue, Bool.and_eq_true, Bool.and_eq_true, Bool.not_eq_true'] at keeps
      exact keeps.1.1
    exact ⟨n, hn, element, e, mem_printedEntries.2 ⟨mem, kept⟩,
      (isBoundTo_printedText_iff kept).2 ⟨refers, keeps⟩⟩

/-- A name that is used is found. -/
theorem IsUsed.mem_detect (h : IsUsed renamesClass root name) :
    name ∈ (detect root).map Parameter.name := by
  obtain ⟨n, hn, element, e, mem, refers, -⟩ := isUsed_iff.1 h
  exact ((areFound_detect root).2 name).2
    ⟨n, List.mem_filter.2 ⟨Node.mem_preorder_of_mem_metFromRoot hn, element⟩, e, mem, refers⟩

end

/-! ## Components -/

/-- Parameters as a component lists them: each name once, in the head by the names alone and in the
type with a line for each. -/
structure AreListed (component : String) (declaresType : Bool) (found : List Parameter) : Prop where
  distinct : (found.map Parameter.name).Nodup
  head : found ≠ [] → parameterList component declaresType found =
    "\x7b " ++ join ", " (found.map Parameter.name) ++ " \x7d" ++
      (if declaresType then ": " ++ component ++ "Props" else "")
  type : found ≠ [] → parameterType component found =
    join "\n" (("interface " ++ (component ++ "Props") ++ " \x7b") ::
      (found.map fun p => "  " ++ p.name ++ "?: " ++ p.type ++ ";") ++ ["\x7d"]) ++ "\n\n"

/-- What was found is listed, each name once. -/
theorem AreFound.areListed {found : List Parameter} (h : AreFound found) (component : String)
    (declaresType : Bool) : AreListed component declaresType found where
  distinct := h.distinct
  head some_ := h.parameterList some_ component declaresType
  type some_ := h.parameterType some_ component

/-- Without rules of the user no value stops a page. -/
theorem collect_empty (l : List Node) : (SourceOptions.collect Dict.empty l).2 = none := by
  induction l with
  | nil => rfl
  | cons n rest ih =>
    have properties : ∃ l, SourceOptions.propertiesOf Dict.empty n = .ok l := by
      rw [SourceOptions.propertiesOf]
      split
      · exact ⟨_, keptProperties_empty _⟩
      · exact ⟨[], rfl⟩
    obtain ⟨l, read⟩ := properties
    rw [SourceOptions.collect, read]
    exact ih

/-- The component that is written for a page where parameters are found. -/
theorem exists_generate {g : Generator} {t : TypedOptions} (typed : g.options.typed = some t)
    (detects : t.detects = true) (rules : g.rules = Dict.empty) (own : g.own = []) (root : Node) :
    ∃ source, (g.generate root).1 = .ok source ∧ source.content = g.options.content (detect root)
      (root.rendered (g.options.attributesOf Dict.empty) SourceOptions.bodyLevel) := by
  have found : g.options.detected root = detect root := by
    rw [SourceOptions.detected, typed]
    exact if_pos detects
  have all : ({ g with found := g.options.detected root } : Generator).parameters =
      detect root := by
    rw [Generator.parameters, own, found, (areFound_detect root).1.mergeParameters]
  have goes : (g.options.render g.rules SourceOptions.bodyLevel root).stopped = none := by
    rw [rules]
    exact collect_empty _
  rw [Generator.generate]
  dsimp only
  rw [goes]
  refine ⟨_, rfl, ?_⟩
  dsimp only
  rw [all, rules]
  rfl

/-- A component without rules and parameters of the user lists the names that the values in its page
refer to, each once, and the names that are used are those that attributes refer to which are
printed with their values: each of them is listed. -/
theorem used_names_are_listed {g : Generator} {t : TypedOptions} (typed : g.options.typed = some t)
    (detects : t.detects = true) (rules : g.rules = Dict.empty) (own : g.own = []) (root : Node) :
    ∃ source found, (g.generate root).1 = .ok source ∧
      source.content = g.options.content found
        (root.rendered (g.options.attributesOf Dict.empty) SourceOptions.bodyLevel) ∧
      AreListed g.options.componentName t.declaresType found ∧
      (root.renderedLines (g.options.attributesOf Dict.empty) SourceOptions.bodyLevel).filterMap
        (fun line => line.content.attributes?) =
          ((root.metFromRoot.filter Node.isElement).map fun n =>
            join " " (printedTexts g.options.renamesClass n.attributes)) ∧
      ∀ name,
        (name ∈ found.map Parameter.name ↔
          ∃ n ∈ root.elements, ∃ e ∈ n.attributes.toMarkup.entries, RefersTo e.2 name) ∧
        (IsUsed g.options.renamesClass root name ↔
          ∃ n ∈ root.metFromRoot, n.isElement = true ∧ ∃ e ∈ n.attributes.toMarkup.entries,
            RefersTo e.2 name ∧ keepsValue e.1 = true) ∧
        (IsUsed g.options.renamesClass root name → name ∈ found.map Parameter.name) ∧
        (name ∈ found.map Parameter.name → name ∉ reservedWords →
          ∀ a : Alphabet, a.Continues name → a.isBindingName name = true) := by
  obtain ⟨source, generated, content⟩ := exists_generate typed detects rules own root
  obtain ⟨areFound, names⟩ := areFound_detect root
  refine ⟨source, detect root, generated, content, areFound.areListed _ _, ?_,
    fun name => ⟨names name, isUsed_iff, IsUsed.mem_detect, fun mem free a continues => ?_⟩⟩
  -- What is printed for an element is its bag without the rules, as there are none.
  · rw [Node.attributes?_renderedLines]
    refine List.map_congr_left fun n hn => ?_
    have element : n.isElement = true := (List.mem_filter.1 hn).2
    exact attributesOf_eq g.options (beq_iff_eq.1 element)
  · obtain ⟨n, -, e, -, s, -, refers⟩ := (names name).1 mem
    exact isBindingName_of_isReference (referred?_eq_some_iff.1 refers).1 continues free

/-- A counter with a number that is given to it, and a switch that is on whatever is given. -/
def counter : Node :=
  let plain := Dict.ofList
    [("data-count", .text "\x7b itemCount \x7d"), ("hidden", .text "\x7bempty\x7d")]
  .mk { id := "n1", kind := .element, tag := some "span", attributes := { plain } }
    [.mk { id := "n2", kind := .text, text := some "items" } []]

/-- What writes a component for a page where parameters are found. -/
def detecting : Generator := Generator.start { typed := some { detects := true } } Dict.empty

/-- A counter that refers to two names uses one of them only. -/
theorem used_names_are_listed_counter : ∃ source found,
    (detecting.generate counter).1 = .ok source ∧
    AreListed "Component" true found ∧ IsUsed true counter "itemCount" ∧
    "itemCount" ∈ found.map Parameter.name ∧ "empty" ∈ found.map Parameter.name := by
  obtain ⟨source, found, generated, -, listed, -, names⟩ :=
    used_names_are_listed (g := detecting) rfl rfl rfl rfl counter
  have met : counter ∈ counter.metFromRoot := Node.self_mem_met counter
  have inside : counter ∈ counter.elements :=
    List.mem_filter.2 ⟨Node.mem_preorder_of_mem_metFromRoot met, rfl⟩
  have entries : counter.attributes.toMarkup.entries =
      [("data-count", .text "\x7b itemCount \x7d"), ("hidden", .text "\x7bempty\x7d")] := by
    decide +kernel
  have count : RefersTo (.text "\x7b itemCount \x7d") "itemCount" := ⟨_, rfl, by decide +kernel⟩
  have empty : RefersTo (.text "\x7bempty\x7d") "empty" := ⟨_, rfl, by decide +kernel⟩
  have used : IsUsed true counter "itemCount" := (names "itemCount").2.1.2
    ⟨counter, met, rfl, _, entries ▸ List.mem_cons_self, count, by decide +kernel⟩
  exact ⟨source, found, generated, listed, used, (names "itemCount").2.2.1 used,
    (names "empty").1.2 ⟨counter, inside, _,
      entries ▸ List.mem_cons_of_mem _ (List.mem_singleton_self _), empty⟩⟩

/-- A name that a switch refers to is found, and the switch is printed without it. -/
theorem name_of_switch_is_found_unused : ∃ d : Document,
    (Document.read {} (some "<input disabled=\"\x7bflag\x7d\">")).result = .ok d ∧
    (detect d.root).map Parameter.name = ["flag"] ∧ ¬ IsUsed true d.root "flag" ∧
    (d.root.renderedLines (detecting.options.attributesOf Dict.empty) SourceOptions.bodyLevel).map
      Line.write = ["    <input disabled />"] := by
  have known : ((Document.read {} (some "<input disabled=\"\x7bflag\x7d\">")).result.toOption.map
      fun d => ((detect d.root).map Parameter.name,
        d.root.metFromRoot.flatMap fun n => n.attributes.toMarkup.entries.map Prod.fst,
        (d.root.renderedLines (detecting.options.attributesOf Dict.empty)
          SourceOptions.bodyLevel).map Line.write)) =
      some (["flag"], ["disabled"], ["    <input disabled />"]) := by decide +kernel
  obtain ⟨d, read, known⟩ := exists_ok_of_toOption_map known
  obtain ⟨found, known⟩ := Prod.mk.inj known
  obtain ⟨only, shown⟩ := Prod.mk.inj known
  refine ⟨d, read, found, fun used => ?_, shown⟩
  obtain ⟨n, hn, -, e, he, -, keeps⟩ := isUsed_iff.1 used
  have name : e.1 ∈ ["disabled"] :=
    only ▸ List.mem_flatMap.2 ⟨n, hn, List.mem_map_of_mem he⟩
  rw [List.mem_singleton.1 name] at keeps
  revert keeps
  decide +kernel

end Componentry.Jsx
