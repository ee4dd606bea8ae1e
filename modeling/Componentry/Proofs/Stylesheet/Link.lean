import Componentry.Proofs.Dict
import Componentry.Proofs.Lists
import Componentry.Proofs.Markup.Scanning
import Componentry.Proofs.Markup.Tags
import Componentry.Proofs.Text.Erasure
import Componentry.Stylesheet.Conversion

/-!
# Links to style sheets

A link is one line before markup that holds none. It is read by itself, as an element without a
style, unless the name of the style sheet numbers a character with too many digits; what stands
behind it is read as it was without it.
-/

set_option autoImplicit false

namespace Componentry
open Componentry.Text Componentry.Markup Componentry.Stylesheet

/-! ## Markup behind a piece -/

namespace Markup

/-- Data is read up to what starts markup. -/
theorem read_of_plain {c : Char} (plain : startsMarkup c = false) (final : Bool) (s : List Char) :
    read final none (c :: s) = .next [.data (c :: s.takeWhile fun d => !startsMarkup d)] none
      (s.dropWhile fun d => !startsMarkup d) := by
  rw [startsMarkup, Bool.or_eq_false_iff] at plain
  rw [read, if_neg (by simp [plain.1]), if_neg (by simp [plain.2])]

/-- A character that starts no markup is read with the data behind it. -/
theorem exists_pass_cons {c : Char} (plain : startsMarkup c = false) {final : Bool} :
    ∀ {s : List Char} {tokens : List Token} {left : Remainder},
      pass final none s = .ok (tokens, left) →
      ∃ tokens', pass final none (c :: s) = .ok (tokens', left) ∧
        tokens'.filterMap Token.tag? = tokens.filterMap Token.tag?
  | [], tokens, left, h => by
    refine ⟨[.data [c]] ++ tokens, Scans.of_read (fun final => ?_) ?_ final tokens left h, rfl⟩
    · rw [read_of_plain plain]
      rfl
    · exact Nat.succ_pos _
  -- The character joins the data behind it, or is data alone where markup starts.
  | d :: s, tokens, left, h => by
    cases starts : startsMarkup d with
    | true =>
      refine ⟨[.data [c]] ++ tokens, Scans.of_read (fun final => ?_) ?_ final tokens left h, rfl⟩
      · rw [read_of_plain plain, List.takeWhile_cons_of_neg (by simp [starts]),
          List.dropWhile_cons_of_neg (by simp [starts])]
      · exact Nat.lt_succ_self _
    | false =>
      have shorter : (s.dropWhile fun d => !startsMarkup d).length < (d :: s).length :=
        Nat.lt_succ_of_le (List.length_dropWhile_le _ s)
      rw [pass, read_of_plain starts] at h
      dsimp only at h
      rw [if_pos shorter] at h
      cases behind : pass final none (s.dropWhile fun d => !startsMarkup d) with
      | error f =>
        rw [behind] at h
        cases h
      | ok passed =>
        rw [behind] at h
        cases h
        refine ⟨[.data (c :: d :: s.takeWhile fun d => !startsMarkup d)] ++ passed.1,
          Scans.of_read (fun final => ?_) ?_ final passed.1 passed.2 behind, rfl⟩
        · rw [read_of_plain plain, List.takeWhile_cons_of_pos (by simp [starts]),
            List.dropWhile_cons_of_pos (by simp [starts])]
        · exact Nat.lt_succ_of_lt shorter

/-- Markup behind a piece that is read by itself and a character of data keeps its elements. -/
theorem exists_scan_behind {s t : List Char} {c : Char} {piece tokens : List Token}
    (plain : startsMarkup c = false) (first : Scans s piece (c :: t))
    (h : Token.scan t = .ok tokens) : ∃ tokens', Token.scan s = .ok tokens' ∧
      tokens'.filterMap Token.tag? = piece.filterMap Token.tag? ++ tokens.filterMap Token.tag? := by
  simp only [Token.scan, bind, Except.bind] at h
  cases passed : pass false none t with
  | error f =>
    rw [passed] at h
    cases h
  | ok one =>
    obtain ⟨tokens₁, raw, left⟩ := one
    simp only [passed] at h
    cases finished : pass true raw left with
    | error f =>
      rw [finished] at h
      cases h
    | ok two =>
      simp only [finished] at h
      cases h
      obtain ⟨tokens₁', behind, same⟩ := exists_pass_cons plain passed
      have whole := first false tokens₁' (raw, left) behind
      refine ⟨_, by simp only [Token.scan, bind, Except.bind, whole, finished]; rfl, ?_⟩
      simp only [List.filterMap_append, same, List.append_assoc]

/-- Markup that starts with a refused tag is refused. -/
theorem scan_of_refused {s : List Char} {f : Fault} (refused : readTag ('<' :: s) = .refused f) :
    Token.scan ('<' :: s) = .error f := by
  have stops : pass false none ('<' :: s) = .error f := by
    rw [pass, read, if_pos (beq_self_eq_true _), refused]
  rw [Token.scan, stops]
  rfl

/-! ## The tag of a link -/

/-- The attributes of a link are read as they stand. -/
theorem attributesFrom_link {file : List Char} (quoteless : '"' ∉ file) (rest : List Char)
    (fuel : Nat) :
    attributesFrom (fuel + 3) ' '
        ("rel=\"stylesheet\" href=\"".toList ++ (file ++ '"' :: '>' :: rest)) =
      ([("rel", "stylesheet".toList), ("href", file)], '>' :: rest) := by
  have named : ∀ name ∈ ["rel", "href"], ∀ d ∈ name.toList, IsInName d := by
    intro name mem d hd
    have letters : ∀ name ∈ ["rel", "href"], name.toList.all isNameLetter = true := by decide
    exact isInName_of_isNameLetter (List.all_eq_true.1 (letters name mem) d hd)
  have rel := @attributesFrom_name 'r' ['e', 'l'] _ _ _ _ (named "rel" (by decide))
    ⟨'=', _, rfl, by decide⟩ (by
      rw [value?_quoted (s := "stylesheet".toList) (by decide)
        (' ' :: 'h' :: (['r', 'e', 'f'] ++ '=' :: '"' :: (file ++ '"' :: '>' :: rest))),
        Option.getD_some]) (fuel + 2)
  have href := @attributesFrom_name 'h' ['r', 'e', 'f'] _ _ _ _
    (named "href" (by decide)) ⟨'=', _, rfl, by decide⟩ (by
      rw [value?_quoted quoteless ('>' :: rest), Option.getD_some]) (fuel + 1)
  have closing : attributesFrom (fuel + 1) '"' ('>' :: rest) = ([], '>' :: rest) := by
    rw [attributesFrom, if_neg (by decide)]
  rw [skipGap_space (by decide) (by decide), href, skipGap_of_not (by decide) (by decide),
    closing] at rel
  exact rel

/-- A link is read by itself if the name of its style sheet is. -/
theorem readTag_link {file : List Char} (quoteless : '"' ∉ file) (rest : List Char) :
    readTag ('<' :: ("link rel=\"stylesheet\" href=\"".toList ++ (file ++ '"' :: '>' :: rest))) =
      Reading.ofExcept (decodeAttributes [("rel", "stylesheet".toList), ("href", file)])
        fun attributes => .next [.start "link" attributes false] none rest := by
  have start : "rel=\"stylesheet\" href=\"".toList.length = 23 := rfl
  obtain ⟨fuel, enough⟩ : ∃ fuel, ("rel=\"stylesheet\" href=\"".toList ++
      (file ++ '"' :: '>' :: rest)).length = fuel + 3 :=
    Nat.exists_eq_add_of_le' (by rw [List.length_append, start]; omega)
  have attributes := attributesFrom_link quoteless rest fuel
  rw [← enough] at attributes
  have gap : skipGap 'k' (' ' :: ("rel=\"stylesheet\" href=\"".toList ++
      (file ++ '"' :: '>' :: rest))) =
        (' ', "rel=\"stylesheet\" href=\"".toList ++ (file ++ '"' :: '>' :: rest)) :=
    skipGap_space (by decide) (by decide) 'k' _
  have tag : readTag ('<' :: ("link rel=\"stylesheet\" href=\"".toList ++
      (file ++ '"' :: '>' :: rest))) = readStart ('<' :: (['l', 'i', 'n', 'k'] ++
        ' ' :: ("rel=\"stylesheet\" href=\"".toList ++ (file ++ '"' :: '>' :: rest)))) :=
    readTag_of_isAsciiLetter (by decide) _
  have inName : ∀ c ∈ ['l', 'i', 'n', 'k'], (!endsTagName c) = true :=
    Lists.forall_mem_of_all (by decide)
  rw [tag, readStart, List.drop_succ_cons, List.drop_zero]
  dsimp only
  rw [takeWhile_append_cons inName (by decide), dropWhile_append_cons inName (by decide)]
  have last : (['l', 'i', 'n', 'k'].getLast?.getD 'a') = 'k' := rfl
  rw [last, gap]
  dsimp only
  rw [attributes]
  rfl

/-- The attributes of a link are decoded if the name of its style sheet is. -/
theorem decodeAttributes_link (file : List Char) :
    decodeAttributes [("rel", "stylesheet".toList), ("href", file)] =
      (decodeValue file).map fun decoded =>
        [("rel", "stylesheet"), ("href", String.ofList decoded)] := by
  have rel : decodeValue "stylesheet".toList = .ok "stylesheet".toList :=
    decodeValue_of_plain (by decide)
  rw [decodeAttributes, rel, decodeAttributes]
  cases decodeValue file <;> rfl

/-- The element of a link. -/
def linkTag (href : String) : Tag :=
  ⟨"link", attributesOf "link" [("rel", "stylesheet"), ("href", href)]⟩

/-- A link has no style of its own. -/
theorem ofTag?_linkTag (href : String) : ElementStyle.ofTag? (linkTag href) = none := by
  have entries : (Dict.ofList [("rel", "stylesheet"), ("href", href)]).entries =
      [("rel", "stylesheet"), ("href", href)] := Dict.entries_ofList (by simp)
  have style : (linkTag href).value? "style" = none := by
    simp [linkTag, Tag.value?, attributesOf, Dict.get?, Dict.mapEntries, entries]
  rw [ElementStyle.ofTag?, style, Option.bind_none]

end Markup

/-! ## The line of a link -/

namespace StyleStrategy

variable {s : StyleStrategy} {o : StyleOptions} {markup : String}

/-- The line of a link to a style sheet. -/
def linkLine (file : String) : String := "<link rel=\"stylesheet\" href=\"" ++ file ++ "\">\n"

/-- A link tells its sheet. -/
theorem linkLine_injective : Function.Injective linkLine := by
  intro a b same
  unfold linkLine at same
  exact (String.append_right_inj _).1 ((String.append_left_inj _).1 same)

/-- A text with a link before it is another text. -/
theorem linkLine_append_ne (file m : String) : linkLine file ++ m ≠ m := by
  intro same
  have empty : linkLine file = "" :=
    (String.append_left_inj m).1 (same.trans String.empty_append.symm)
  exact absurd (String.append_eq_empty_iff.1 empty).2 (by decide)

/-- The markup of a tree with its styles converted, before a style sheet is linked. -/
def unlinked (s : StyleStrategy) (o : StyleOptions) (markup : String) (tree : Tree) : String :=
  let given := (s.classing o (ElementStyle.ofTree tree)).1.given
  if (classMap given).isEmpty then markup
  else Tree.writeAll false (Tree.restyleAll o given tree.children).1

/-- The strategy of plain sheets has one sheet, where a sheet is due. -/
theorem files_plain (separate : o.separateFile = true) :
    StyleStrategy.plain.files o = [StyleStrategy.plain.sheetName o] := by
  rw [files, separate]
  rfl

/-- Plain rules with a file of their own are linked, unless there is a link already. -/
theorem linked_plain (separate : o.separateFile = true) {m : String}
    (free : contains m "<link" = false) :
    StyleStrategy.plain.linked o m = linkLine (StyleStrategy.plain.sheetName o) ++ m := by
  unfold linked
  rw [files_plain separate]
  dsimp only
  rw [free, if_neg Bool.false_ne_true]
  rfl

/-- A conversion gives a result for markup that is read and styles that are given their classes. -/
theorem result_convert_eq_ok {styled : StyledMarkup} :
    (s.convert o markup).result = .ok styled ↔ ∃ tree c, Tree.parse markup = .ok tree ∧
      s.classing o (ElementStyle.ofTree tree) = (c, none) ∧
      styled = { strategy := s, markup := s.linked o (s.unlinked o markup tree),
                 sheet := s.sheet o (ElementStyle.ofTree tree), classes := classMap c.given,
                 files := s.files o, warnings := c.unsupported } := by
  constructor
  · intro h
    rw [convert] at h
    cases parsed : Tree.parse markup with
    | error fault =>
      rw [parsed] at h
      cases h
    | ok tree =>
      simp only [parsed, convertTree] at h
      split at h
      · cases h
      · next c classed =>
        cases h
        exact ⟨tree, c, rfl, classed, by rw [unlinked, classed]⟩
  · rintro ⟨tree, c, parsed, classed, rfl⟩
    rw [convert, parsed]
    simp only [convertTree, unlinked, classed]

/-- What a conversion of styles comes to. -/
theorem exists_of_convert {styled : StyledMarkup} (h : (s.convert o markup).result = .ok styled) :
    ∃ tree, Tree.parse markup = .ok tree ∧
      styled.markup = s.linked o (s.unlinked o markup tree) ∧
      styled.sheet = s.sheet o (ElementStyle.ofTree tree) := by
  obtain ⟨tree, c, parsed, -, rfl⟩ := result_convert_eq_ok.1 h
  exact ⟨tree, parsed, rfl, rfl⟩

/-- No link is put before markup that keeps its sheet. -/
theorem linked_of_inside (inside : o.separateFile = false) (m : String) : s.linked o m = m := by
  have none : s.files o = [] := by
    rw [files, inside, Bool.false_and, if_neg Bool.false_ne_true]
  unfold linked
  rw [none]
  cases s <;> rfl

/-- Markup that holds a link is given no other one. -/
theorem linked_of_link {m : String} (link : contains m "<link" = true) : s.linked o m = m := by
  unfold linked
  split
  · rw [link, if_pos rfl]
  · rfl

/-- A link is set only for plain rules, and names their style sheet. -/
theorem linked_cases (s : StyleStrategy) (o : StyleOptions) (m : String) : s.linked o m = m ∨
    s = .plain ∧ s.linked o m = linkLine (s.sheetName o) ++ m := by
  match s with
  | .scoped => exact .inl rfl
  | .utility => exact .inl rfl
  | .plain =>
    cases separate : o.separateFile with
    | false => exact .inl (linked_of_inside separate m)
    | true =>
      cases link : contains m "<link" with
      | false => exact .inr ⟨rfl, linked_plain separate link⟩
      | true => exact .inl (linked_of_link link)

/-- The characters of a link before a text. -/
theorem toList_linkLine_append (file m : String) : (linkLine file ++ m).toList =
    '<' :: ("link rel=\"stylesheet\" href=\"".toList ++
      (file.toList ++ '"' :: '>' :: '\n' :: m.toList)) := by
  have parts (a b c : String) : (a ++ b ++ c ++ m).toList =
      a.toList ++ (b.toList ++ (c.toList ++ m.toList)) := by
    simp only [String.toList_append, List.append_assoc]
  have opening : "<link rel=\"stylesheet\" href=\"".toList =
      '<' :: "link rel=\"stylesheet\" href=\"".toList := by decide +kernel
  have closing : "\">\n".toList = ['"', '>', '\n'] := by decide
  exact (parts _ _ _).trans (by rw [opening, closing, List.cons_append]; rfl)

/-- A text with a link before it has a link. -/
theorem contains_linkLine (file m : String) : contains (linkLine file ++ m) "<link" = true := by
  rw [contains, toList_linkLine_append, occursIn_iff]
  exact ⟨[], _, rfl⟩

/-- A link is set once. -/
theorem linked_linked (s : StyleStrategy) (o : StyleOptions) (m : String) :
    s.linked o (s.linked o m) = s.linked o m := by
  rcases s.linked_cases o m with same | ⟨-, linked⟩
  · rw [same, same]
  · rw [linked, linked_of_link (contains_linkLine _ m)]

/-! ## Reading what is linked -/

/-- Markup behind a link keeps its elements. -/
theorem exists_parse_linkLine {file m : String} {tree : Tree} (quoteless : '"' ∉ file.toList)
    (short : ¬ HoldsLongNumber file.toList) (parsed : Tree.parse m = .ok tree) :
    ∃ tree' href, Tree.parse (linkLine file ++ m) = .ok tree' ∧
      Tree.tagsIn tree'.children = linkTag href :: Tree.tagsIn tree.children := by
  obtain ⟨decoded, read⟩ := exists_decodeValue_ok short
  have tag := readTag_link quoteless ('\n' :: m.toList)
  rw [decodeAttributes_link, read] at tag
  have first := Scans.of_readTag tag (by simp only [List.length_append, List.length_cons]; omega)
  rw [← toList_linkLine_append] at first
  rw [Tree.parse] at parsed
  cases scanned : Token.scan m.toList with
  | error f =>
    rw [scanned] at parsed
    cases parsed
  | ok tokens =>
    rw [scanned] at parsed
    cases parsed
    obtain ⟨tokens', whole, same⟩ := exists_scan_behind (by decide) first scanned
    refine ⟨Tree.ofTokens tokens', String.ofList decoded, by rw [Tree.parse, whole]; rfl, ?_⟩
    rw [Tree.tagsIn_ofTokens, Tree.tagsIn_ofTokens, same]
    rfl

/-- A link to a style sheet whose name is refused is refused. -/
theorem parse_linkLine_of_refused {file : String} {f : Fault} (quoteless : '"' ∉ file.toList)
    (refused : decodeValue file.toList = .error f) (m : String) :
    Tree.parse (linkLine file ++ m) = .error f := by
  have tag := readTag_link quoteless ('\n' :: m.toList)
  rw [decodeAttributes_link, refused] at tag
  rw [Tree.parse, toList_linkLine_append, scan_of_refused tag]
  rfl

/-- The name of a style sheet of plain rules has what the ending is put behind. -/
theorem sheetName_plain (o : StyleOptions) : ∃ start, StyleStrategy.plain.sheetName o =
    start ++ ".css" ∧ (start = "styles" ∨ start = o.fileName) := by
  refine ⟨_, rfl, ?_⟩
  split
  · exact .inl rfl
  · exact .inr rfl

/-- The name of a sheet has no quote, where the name of the file has none. -/
theorem quote_not_mem_sheetName (quoteless : '"' ∉ o.fileName.toList) :
    '"' ∉ (StyleStrategy.plain.sheetName o).toList := by
  obtain ⟨start, name, named⟩ := sheetName_plain o
  rw [name, String.toList_append, List.mem_append]
  rintro (mem | mem)
  · rcases named with rfl | rfl
    · exact absurd mem (by decide)
    · exact quoteless mem
  · exact absurd mem (by decide)

/-- The name of a sheet has no long number, where the name of the file has none. -/
theorem not_holdsLongNumber_sheetName (short : ¬ HoldsLongNumber o.fileName.toList) :
    ¬ HoldsLongNumber (StyleStrategy.plain.sheetName o).toList := by
  obtain ⟨start, name, named⟩ := sheetName_plain o
  have ending : ".css".toList = '.' :: "css".toList := by decide
  rw [name, String.toList_append, ending]
  intro long
  have long := long.of_append (by decide) (by decide) (by decide)
  rcases named with rfl | rfl
  · exact not_holdsLongNumber_of_plain (by decide) long
  · exact short long

/-- Markup keeps its styles when it is linked, unless the name of the style sheet is too long a
number. -/
theorem exists_parse_linked {m : String} {tree : Tree} (quoteless : '"' ∉ o.fileName.toList)
    (short : s = .plain → o.separateFile = true → ¬ HoldsLongNumber o.fileName.toList)
    (parsed : Tree.parse m = .ok tree) : ∃ tree', Tree.parse (s.linked o m) = .ok tree' ∧
      ElementStyle.ofTree tree' = ElementStyle.ofTree tree := by
  cases separate : o.separateFile with
  | false => exact ⟨tree, by rw [linked_of_inside separate, parsed], rfl⟩
  | true =>
    rcases s.linked_cases o m with same | ⟨rfl, linked⟩
    · exact ⟨tree, by rw [same, parsed], rfl⟩
    · have short := not_holdsLongNumber_sheetName (short rfl separate)
      obtain ⟨tree', href, read, tags⟩ :=
        exists_parse_linkLine (quote_not_mem_sheetName quoteless) short parsed
      refine ⟨tree', by rw [linked, read], ?_⟩
      change (Tree.tagsIn tree'.children).filterMap ElementStyle.ofTag? = _
      rw [tags, List.filterMap_cons_none (ofTag?_linkTag href)]
      rfl

end StyleStrategy
end Componentry
