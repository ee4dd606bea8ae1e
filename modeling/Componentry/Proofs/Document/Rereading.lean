import Componentry.Document.Printer
import Componentry.Document.Reader
import Componentry.Proofs.Attributes.Rereading
import Componentry.Proofs.Outcome
import Mathlib.Data.List.Forall2

/-!
# Nodes that are written and read again

What is written for an element is scanned piece by piece and built into one tree, and reading that
tree gives the element again: the same elements and texts in the same order, with attributes that
say the same. Comments are written, too, but a page is read without them unless it is asked for
them.
-/

set_option autoImplicit false

namespace Componentry.Node
open Componentry.Text Componentry.Markup Componentry.Markup.Builder Componentry.Attributes

/-! ## Nodes that are restored -/

/-- Elements that a page consists of; what is in the others is not looked for in them. -/
def pageNames : List String := ["html", "head", "body"]

/-- A bag that is made of attributes of an element. -/
def IsExtracted (element : String) (a : Attributes) : Prop :=
  ∃ written : List (String × String), (∀ e ∈ written, isAttributeName e.1 = true) ∧
    a = ofTag (tagOf element written)

/-- Two nodes are not both texts. -/
def StandApart (a b : Node) : Prop := ¬(a.kind = .text ∧ b.kind = .text)

/-- Nodes as reading makes them of elements that are no part of the page's own frame and hold no
raw text: texts are not blank and do not stand side by side, a comment does not hold its end, and
nothing stands in void elements. -/
inductive IsRestorable : Node → Prop where
  | text {label : Label} {s : String} (kind : label.kind = .text) (tag : label.tag = none)
      (text : label.text = some s) (filled : isBlankText s = false) : IsRestorable (.mk label [])
  | comment {label : Label} {s : String} (kind : label.kind = .comment)
      (text : label.text = some s) (open_ : HoldsNoEnd s.toList) : IsRestorable (.mk label [])
  | element {label : Label} {children : List Node} {name : String} (kind : label.kind = .element)
      (tag : label.tag = some name) (text : label.text = none)
      (named : isElementName name = true) (other : name ∉ pageNames) (plain : name ∉ rawNames)
      (void : name ∈ voidNames → children = []) (attributes : IsExtracted name label.attributes)
      (apart : children.IsChain StandApart)
      (below : ∀ c ∈ children, IsRestorable c) : IsRestorable (.mk label children)

/-! ## Nodes that say the same -/

/-- Attributes that are not lost when they are written: the class is absent or not blank, and the
names of the style are ASCII. -/
structure IsKept (a : Attributes) : Prop where
  filled : ∀ c ∈ a.className, isBlankText c = false
  ascii : ∀ k ∈ a.styleOrNone.keys, Style.IsAscii k

/-- Two nodes have the same kind, name, text and children, and the attributes of an element say the
same if they are not lost when they are written. -/
inductive Matches : Node → Node → Prop where
  | mk {label again : Label} {children others : List Node} (kind : again.kind = label.kind)
      (tag : again.tag = label.tag) (text : again.text = label.text)
      (attributes : label.kind = .element → IsKept label.attributes →
        label.attributes.agrees again.attributes = true)
      (below : List.Forall₂ Matches children others) :
      Matches (.mk label children) (.mk again others)

mutual
/-- A node with the comments below it left out. -/
def withoutComments : Node → Node
  | .mk label children => .mk label (withoutCommentsAll children)

/-- The nodes of a list that are no comments, with those below them left out. -/
def withoutCommentsAll : List Node → List Node
  | [] => []
  | n :: rest =>
    if n.kind == .comment then withoutCommentsAll rest
    else withoutComments n :: withoutCommentsAll rest
end

/-- Comments are taken out of a forest tree by tree. -/
theorem withoutCommentsAll_cons (n : Node) (rest : List Node) :
    withoutCommentsAll (n :: rest) = withoutCommentsAll [n] ++ withoutCommentsAll rest := by
  simp only [withoutCommentsAll]
  split <;> rfl

/-! ## Reading trees -/

/-- A tree is read as a node, wherever it stands, and has no element in it that a page is looked for
in. -/
structure IsReadAs (n : Node) (t : Tree) : Prop where
  node : ∀ parent before after depth number, List.Forall₂ Matches (withoutCommentsAll [n])
    (readOne {} parent before after depth number t).1.toList
  names : ∀ e ∈ t.elements, ∀ name ∈ pageNames, e.isNamed name = false

/-- Trees that are read as nodes are read as them one after the other. -/
theorem forall₂_readAll {nodes : List Node} {trees : List Tree}
    (h : List.Forall₂ IsReadAs nodes trees) (parent : Place) : ∀ before depth number,
      List.Forall₂ Matches (withoutCommentsAll nodes)
        (readAll {} parent before depth number trees).1 := by
  induction h with
  | nil =>
    intro before depth number
    rw [withoutCommentsAll, readAll]
    exact .nil
  | cons first _ ih =>
    intro before depth number
    rw [withoutCommentsAll_cons, readAll]
    exact List.rel_append (first.node parent before _ depth number) (ih _ depth _)

/-- Trees that nodes are read as have no element with the name of a whole page. -/
theorem not_isNamed_of_mem_elementsIn {nodes : List Node} {trees : List Tree}
    (h : List.Forall₂ IsReadAs nodes trees) : ∀ e ∈ Tree.elementsIn trees, ∀ name ∈ pageNames,
      e.isNamed name = false := by
  induction h with
  | nil =>
    intro e he
    rw [Tree.elementsIn] at he
    exact absurd he List.not_mem_nil
  | cons first _ ih =>
    intro e he
    rw [Tree.elementsIn, List.mem_append] at he
    exact he.elim (first.names e) (ih e)

section
variable {label : Label} {s : String}

/-- A text that is not blank is read as the node it was. -/
theorem isReadAs_text {kind : StringKind} (isText : kind.isText = true) (text : label.kind = .text)
    (tag : label.tag = none) (holds : label.text = some s) (filled : isBlankText s = false) :
    IsReadAs (.mk label []) (.string kind s) where
  node parent before after depth number := by
    have other : kind ≠ .comment := by
      rintro rfl
      cases isText
    have keeps : ReadOptions.keeps {} (.string kind s) = true := by
      rw [ReadOptions.keeps, isText, filled]
      · rfl
      · exact other
    have kept : ((.mk label [] : Node).kind == .comment) = false := by
      show (label.kind == .comment) = false
      rw [text]
      rfl
    rw [readOne, keeps]
    simp only [withoutCommentsAll, kept, Bool.false_eq_true, if_false]
    refine .cons (.mk ?_ tag.symm holds.symm (fun element => ?_) .nil) .nil
    · show (if kind == .comment then NodeKind.comment else .text) = _
      rw [if_neg (by simpa using other), text]
    · rw [text] at element
      cases element
  names _ he := by
    rw [Tree.elements] at he
    exact absurd he List.not_mem_nil

/-- A comment is read as nothing, as comments are left out. -/
theorem isReadAs_comment (comment : label.kind = .comment) :
    IsReadAs (.mk label []) (.string .comment s) where
  node parent before after depth number := by
    have left : ((.mk label [] : Node).kind == .comment) = true := by
      show (label.kind == .comment) = true
      rw [comment]
      rfl
    rw [readOne]
    simp only [withoutCommentsAll, left, if_true]
    exact .nil
  names _ he := by
    rw [Tree.elements] at he
    exact absurd he List.not_mem_nil

/-- An element is read with its children and with the attributes that are read for it. -/
theorem isReadAs_element {children : List Node} {trees : List Tree} {name : String}
    (kind : label.kind = .element) (tag : label.tag = some name) (text : label.text = none)
    (other : name ∉ pageNames) (attributes : IsExtracted name label.attributes)
    (below : List.Forall₂ IsReadAs children trees) : IsReadAs (.mk label children)
      (.element (tagOf name (reread label.attributes.toMarkup.entries)) trees) where
  node parent before after depth number := by
    have kept : ((.mk label children : Node).kind == .comment) = false := by
      show (label.kind == .comment) = false
      rw [kind]
      rfl
    have reaches : ReadOptions.reaches {} depth = true := rfl
    rw [readOne, if_pos reaches]
    simp only [withoutCommentsAll, kept, Bool.false_eq_true, if_false, withoutComments]
    -- The kind, the name and the children are as they were; only the attributes were written and
    -- read.
    refine .cons (.mk kind.symm tag.symm text.symm (fun _ lasting => ?_)
      (forall₂_readAll below _ _ _ _)) .nil
    obtain ⟨written, named, extracted⟩ := attributes
    have areAttributes := areAttributes_attributesOf name named
    have bag : label.attributes = bagOf (attributesOf name written).entries := by
      rw [extracted]
      exact ofTag_eq areAttributes.areLowered.lowered
    obtain ⟨filled, ascii⟩ := lasting
    show label.attributes.agrees
      (ofTag (tagOf name (reread label.attributes.toMarkup.entries))) = true
    rw [bag] at filled ascii ⊢
    rw [(areAttributes_reread areAttributes).ofTag_eq]
    exact (agrees_bagOf_reread areAttributes.areLowered filled ascii).1
  names e he pageName mem := by
    rw [Tree.elements] at he
    rcases List.mem_cons.1 he with rfl | he
    · show (name == pageName) = false
      rw [beq_eq_false_iff_ne]
      rintro rfl
      exact other mem
    · exact not_isNamed_of_mem_elementsIn below e he pageName mem

end

/-! ## Writing nodes -/

/-- The attributes that are written for a bag have names of attributes. -/
theorem areNamed_of_isExtracted {element : String} {a : Attributes} (h : IsExtracted element a) :
    AreNamed a.toMarkup.entries := by
  obtain ⟨written, named, rfl⟩ := h
  have areAttributes := areAttributes_attributesOf element named
  intro e he
  have mem := List.mem_map_of_mem (f := fun e : String × AttributeValue => (e.1, readValue e.2)) he
  rw [Attributes.ofTag_eq (t := tagOf element written) areAttributes.areLowered.lowered] at mem
  exact (areAttributes_reread areAttributes).named (e.1, readValue e.2) mem

section
variable {label : Label} {name : String}

/-- The attributes are written one after another, with spaces between them. -/
theorem write_eq (a : Attributes) :
    a.write = join " " (a.toMarkup.entries.map fun e => writeEntry e.1 e.2) := rfl

/-- A start tag is its name with the attributes behind it. -/
theorem toList_startTag (tag : label.tag = some name)
    (named : AreNamed label.attributes.toMarkup.entries) : (startTag label).toList =
      '<' :: (name.toList ++ (spaced label.attributes.toMarkup.entries ++ ['>'])) := by
  unfold startTag
  dsimp only
  rw [tag, Option.getD_some, write_eq, spaced]
  cases entries : label.attributes.toMarkup.entries with
  | nil =>
    have empty : (join " " (([] : List (String × AttributeValue)).map fun e =>
        writeEntry e.1 e.2)).isEmpty = true := rfl
    rw [if_pos empty]
    simp [String.toList_append]
  | cons e rest =>
    have spaces := cons_join (show " ".toList = [' '] from rfl)
      (l := (e :: rest).map fun e => writeEntry e.1 e.2) (List.cons_ne_nil _ _)
    rw [List.flatMap_map] at spaces
    have filled : (join " " ((e :: rest).map fun e => writeEntry e.1 e.2)).isEmpty = false := by
      obtain ⟨c, first, whole, -⟩ := exists_name (named e (entries ▸ List.mem_cons_self))
      rw [← Bool.not_eq_true, String.isEmpty_iff]
      intro none_
      rw [none_, List.flatMap_cons, toList_writeEntry, whole] at spaces
      cases spaces
    rw [if_neg (by rw [filled]; exact Bool.false_ne_true)]
    simp only [String.toList_append, List.append_assoc, ← spaces]
    rfl

/-- The characters of an end tag. -/
theorem toList_endTag (tag : label.tag = some name) :
    (endTag label).toList = '<' :: '/' :: (name.toList ++ ['>']) := by
  simp only [endTag, tag, Option.getD_some, String.toList_append, List.append_assoc]
  rfl

end

/-- What is written for an element or a comment starts with a bracket. -/
theorem exists_bracket {n : Node} (h : IsRestorable n) (other : n.kind ≠ .text) :
    ∃ s, (n.writeIn false).toList = '<' :: s := by
  cases h with
  | text kind => exact absurd kind other
  | @comment label s kind text =>
    refine ⟨'!' :: '-' :: '-' :: (s.toList ++ ['-', '-', '>']), ?_⟩
    simp only [writeIn, kind, text, Option.getD_some, String.toList_append, List.append_assoc]
    rfl
  | element kind tag text named other plain void attributes =>
    have start := toList_startTag tag (areNamed_of_isExtracted attributes)
    simp only [writeIn, kind]
    split
    · exact ⟨_, start⟩
    · rw [String.toList_append, String.toList_append, start]
      exact ⟨_, rfl⟩

/-- What is written for a node is scanned by itself, and building takes it in as one tree that is
read as the node. A text goes up to the markup behind it, and no other text may stand before it. -/
def IsRebuilt (n : Node) : Prop :=
  ∀ (b : Builder) (rest : List Char), b.IsOwed →
    (n.kind = .text → b.pending = none ∧ ∃ behind, rest = '<' :: behind) →
    ∃ (tokens : List Token) (t : Tree), Scans ((n.writeIn false).toList ++ rest) tokens rest ∧
      Took b [t] (tokens.foldl step b) ∧
      (n.kind ≠ .text → (tokens.foldl step b).pending = none) ∧ IsReadAs n t

/-- Nodes that are written one after the other are built into one tree each. -/
theorem exists_rebuilt : ∀ {l : List Node}, (∀ n ∈ l, IsRestorable n ∧ IsRebuilt n) →
    l.IsChain StandApart →
    ∀ (b : Builder) (rest : List Char), b.IsOwed →
      (∀ n ∈ l.head?, n.kind = .text → b.pending = none) →
      ∃ (tokens : List Token) (trees : List Tree),
        Scans ((writeAllIn false l).toList ++ '<' :: rest) tokens ('<' :: rest) ∧
        Took b trees (tokens.foldl step b) ∧ List.Forall₂ IsReadAs l trees
  | [], _, _, b, rest, _, _ => ⟨[], [], Scans.refl _, Took.refl b, .nil⟩
  | n :: more, each, apart, b, rest, owed, idle => by
    obtain ⟨-, rebuilt⟩ := each n List.mem_cons_self
    -- a text has markup behind it: the next node, which is no text, or what follows the nodes
    have follows : n.kind = .text → b.pending = none ∧
        ∃ behind, (writeAllIn false more).toList ++ '<' :: rest = '<' :: behind := by
      intro text
      refine ⟨idle n rfl text, ?_⟩
      cases more with
      | nil => exact ⟨rest, rfl⟩
      | cons m others =>
        have other : m.kind ≠ .text := fun second =>
          (List.isChain_cons_cons.1 apart).1 ⟨text, second⟩
        obtain ⟨s, written⟩ := exists_bracket (each m (by simp)).1 other
        rw [writeAllIn, String.toList_append, written]
        exact ⟨_, rfl⟩
    obtain ⟨tokens, t, scans, took, settled, read⟩ := rebuilt b _ owed follows
    obtain ⟨later, trees, scansMore, tookMore, readMore⟩ := exists_rebuilt
      (fun m hm => each m (List.mem_cons_of_mem n hm)) apart.tail (tokens.foldl step b) rest
      (took.isOwed owed) fun m hm second => by
        cases more with
        | nil => cases hm
        | cons k others =>
          obtain rfl := Option.mem_some_iff.1 hm
          exact settled fun first => (List.isChain_cons_cons.1 apart).1 ⟨first, second⟩
    refine ⟨tokens ++ later, t :: trees, ?_, ?_, .cons read readMore⟩
    · rw [writeAllIn, String.toList_append, List.append_assoc]
      exact scans.trans scansMore
    · rw [List.foldl_append]
      exact took.trans tookMore

section
variable {label : Label} {s : String}

/-- What is written for a text is taken in as one. -/
theorem isRebuilt_text (kind : label.kind = .text) (tag : label.tag = none)
    (text : label.text = some s) (filled : isBlankText s = false) : IsRebuilt (.mk label []) := by
  intro b rest owed follows
  obtain ⟨idle, behind, rfl⟩ := follows kind
  obtain ⟨pieces, scans, whole⟩ := exists_scans_text behind s.toList
  have written : (writeIn false (.mk label [])).toList = s.toList.flatMap escapeChar := by
    simp only [writeIn, kind, text, Bool.false_eq_true, if_false, Option.getD_some]
    rw [escape, String.toList_ofList]
  refine ⟨pieces.map .data, .string b.dataKind s, by rwa [written], ?_, fun other => ?_, ?_⟩
  · have took := took_text filled whole idle
    rwa [String.ofList_toList] at took
  · exact absurd kind other
  · exact isReadAs_text (isText_dataKind b) kind tag text filled

/-- What is written for a comment is taken in as one. -/
theorem isRebuilt_comment (kind : label.kind = .comment) (text : label.text = some s)
    (open_ : HoldsNoEnd s.toList) : IsRebuilt (.mk label []) := by
  intro b rest owed follows
  have written : (writeIn false (.mk label [])).toList ++ rest =
      '<' :: '!' :: '-' :: '-' :: (s.toList ++ '-' :: '-' :: '>' :: rest) := by
    simp only [writeIn, kind, text, Option.getD_some, String.toList_append, List.append_assoc]
    rfl
  obtain ⟨idle, read, took⟩ := took_comment b s.toList
  refine ⟨[.comment s.toList], .string .comment read, ?_, took, fun _ => idle,
    isReadAs_comment kind⟩
  rw [written]
  exact scans_comment open_ rest

end

/-- The whole text has no name of an element. -/
theorem ne_documentName {name : String} (h : isElementName name = true) : name ≠ documentName := by
  rintro rfl
  exact absurd h (by decide)

section
variable {label : Label} {name : String} (kind : label.kind = .element)
  (tag : label.tag = some name) (areNamed : AreNamed label.attributes.toMarkup.entries)
include kind tag areNamed

/-- An element that has no end tag is written as its start tag. -/
theorem toList_writeIn_of_bare (bare : name ∈ voidElements) :
    (writeIn false (.mk label [])).toList =
      '<' :: (name.toList ++ (spaced label.attributes.toMarkup.entries ++ ['>'])) := by
  have closes : isVoid label = true := by
    rw [isVoid, tag, Option.getD_some, List.contains_iff_mem]
    exact bare
  simp only [writeIn, kind, if_pos closes, toList_startTag tag areNamed]

/-- Any other element is written as its start tag, what is in it and its end tag. -/
theorem toList_writeIn_of_not_bare (bare : name ∉ voidElements) (plain : name ∉ rawNames)
    (children : List Node) : (writeIn false (.mk label children)).toList =
      '<' :: (name.toList ++ (spaced label.attributes.toMarkup.entries ++
        '>' :: ((writeAllIn false children).toList ++ '<' :: '/' :: (name.toList ++ ['>'])))) := by
  have encloses : ¬isVoid label = true := by
    rw [isVoid, tag, Option.getD_some, List.contains_iff_mem]
    exact bare
  have raw : isRaw label = false := by
    rw [isRaw, tag, Option.getD_some]
    simpa using plain
  simp only [writeIn, kind, if_neg encloses, raw, String.toList_append,
    toList_startTag tag areNamed, toList_endTag tag, List.cons_append, List.append_assoc,
    List.nil_append]

end

/-- What is written for an element is taken in as one tree with what is in the element below it;
without an end tag, its start tag is taken in by itself. -/
theorem isRebuilt_element {label : Label} {children : List Node} {name : String}
    (kind : label.kind = .element) (tag : label.tag = some name) (text : label.text = none)
    (named : isElementName name = true) (other : name ∉ pageNames) (plain : name ∉ rawNames)
    (void : name ∈ voidNames → children = []) (attributes : IsExtracted name label.attributes)
    (apart : children.IsChain StandApart)
    (below : ∀ c ∈ children, IsRestorable c ∧ IsRebuilt c) : IsRebuilt (.mk label children) := by
  intro b rest owed follows
  have areNamed := areNamed_of_isExtracted attributes
  have notRaw : rawNames.contains name = false := by simpa using plain
  have bareWritten := toList_writeIn_of_bare kind tag areNamed
  have written (bare : name ∉ voidElements) :=
    toList_writeIn_of_not_bare kind tag areNamed bare plain children
  have read {trees : List Tree} (h : List.Forall₂ IsReadAs children trees) :=
    isReadAs_element kind tag text other attributes h
  generalize label.attributes.toMarkup.entries = entries at bareWritten written areNamed read
  -- Three ways to be written: without an end tag, with one but void, and with what is in it.
  by_cases bare : name ∈ voidElements
  · have nothing : children = [] := void (voidElements_subset bare)
    subst nothing
    obtain ⟨idle, took⟩ : (b.step (.start name (reread entries) false)).pending = none ∧ _ :=
      took_void bare b
    refine ⟨[.start name (reread entries) false], _, ?_, took, fun _ => idle, read .nil⟩
    simp only [bareWritten bare, List.cons_append, List.append_assoc, List.nil_append]
    exact scans_startTag named notRaw areNamed rest
  · have scansStart := scans_startTag named notRaw areNamed ((writeAllIn false children).toList ++
      '<' :: '/' :: (name.toList ++ '>' :: rest))
    have scansEnd := scans_endTag named rest
    by_cases empty : name ∈ voidNames
    · have nothing : children = [] := void empty
      subst nothing
      obtain ⟨idle, took⟩ :
          ((b.step (.start name (reread entries) false)).step (.finish name)).pending = none ∧ _ :=
        took_closed (List.contains_iff_mem.2 empty) b
      refine ⟨[.start name (reread entries) false, .finish name], _, ?_, took, fun _ => idle,
        read .nil⟩
      simp only [written bare, List.cons_append, List.append_assoc, List.nil_append]
      exact scansStart.trans scansEnd
    · have holds : voidNames.contains name = false := by simpa using empty
      obtain ⟨tokens, trees, scans, took, readAll⟩ := exists_rebuilt below apart
        (b.step (.start name (reread entries) false)) ('/' :: (name.toList ++ '>' :: rest))
        (isOwed_step_start holds owed) fun _ _ _ => pending_step_start holds b
      obtain ⟨idle, whole⟩ := took_element holds (ne_documentName named) owed took
      refine ⟨.start name (reread entries) false :: (tokens ++ [.finish name]), _, ?_, ?_,
        fun _ => ?_, read readAll⟩
      · simp only [written bare, List.cons_append, List.append_assoc, List.nil_append]
        exact scansStart.trans (scans.trans scansEnd)
      · rw [List.foldl_cons, List.foldl_append]
        exact whole
      · rw [List.foldl_cons, List.foldl_append]
        exact idle

/-- Every node that is to be restored is built and read again. -/
theorem isRebuilt_of_isRestorable {n : Node} (h : IsRestorable n) : IsRebuilt n := by
  induction h with
  | text kind tag text filled => exact isRebuilt_text kind tag text filled
  | comment kind text open_ => exact isRebuilt_comment kind text open_
  | element kind tag text named other plain void attributes apart below ih =>
    exact isRebuilt_element kind tag text named other plain void attributes apart
      fun c hc => ⟨below c hc, ih c hc⟩

end Componentry.Node
