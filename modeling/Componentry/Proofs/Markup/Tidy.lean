import Componentry.Markup.Tree.Builder
import Componentry.Proofs.Dict
import Componentry.Proofs.Text.Lower
import Componentry.Proofs.Text.Pieces

/-!
# Tidy trees

Whatever a text looks like, the elements of its tree have names without spaces and attributes named
in lower case, nothing stands in void elements, and no comment holds the end of a comment. The lexer
ends a name at a space and puts names in lower case, which puts no space in, and it ends a comment
at the first end of one; the builder closes a void element before anything can be taken in.
-/

set_option autoImplicit false

namespace Componentry.Markup
open Componentry.Text

/-! ## Ends of comments -/

/-- No comment ends within a text. -/
def HoldsNoEnd (s : List Char) : Prop := untilEnd commentEnd? s = none

instance (s : List Char) : Decidable (HoldsNoEnd s) :=
  inferInstanceAs (Decidable (untilEnd commentEnd? s = none))

/-- A comment ends at two dashes and a bracket, with blanks between them at most. -/
theorem commentEnd?_eq_some_iff {s after : List Char} : commentEnd? s = some after ↔
    ∃ b, (∀ c ∈ b, isBlank c = true) ∧ s = '-' :: '-' :: (b ++ '>' :: after) := by
  constructor
  · intro h
    unfold commentEnd? at h
    split at h
    next rest =>
      split at h
      next left =>
        cases h
        refine ⟨rest.takeWhile isBlank, fun c hc => List.mem_takeWhile_imp hc, ?_⟩
        rw [← left, List.takeWhile_append_dropWhile]
      next => cases h
    next => cases h
  · rintro ⟨b, blank, rfl⟩
    have left : (b ++ '>' :: after).dropWhile isBlank = '>' :: after := by
      rw [List.dropWhile_append_of_pos blank, List.dropWhile_cons_of_neg (by decide)]
    rw [commentEnd?, left]
    rfl

/-- What ends a comment ends it, whatever follows. -/
theorem commentEnd?_append_right {s t : List Char} (h : commentEnd? (s ++ t) = none) :
    commentEnd? s = none := by
  rw [← Option.not_isSome_iff_eq_none, Option.isSome_iff_exists]
  rintro ⟨after, found⟩
  obtain ⟨b, blank, rfl⟩ := commentEnd?_eq_some_iff.1 found
  have again : commentEnd? ('-' :: '-' :: (b ++ '>' :: (after ++ t))) = some (after ++ t) :=
    commentEnd?_eq_some_iff.2 ⟨b, blank, rfl⟩
  rw [List.cons_append, List.cons_append, List.append_assoc, List.cons_append, again] at h
  cases h

/-- What stands before the first end of a comment holds no end. -/
theorem holdsNoEnd_of_untilEnd : ∀ {s inside rest : List Char},
    untilEnd commentEnd? s = some (inside, rest) → HoldsNoEnd inside ∧ inside <+: s
  | c :: s, inside, rest, h => by
    rw [untilEnd] at h
    split at h
    next =>
      cases h
      exact ⟨rfl, List.nil_prefix⟩
    next here =>
      obtain ⟨⟨more, after⟩, later, same⟩ := Option.map_eq_some_iff.1 h
      cases same
      obtain ⟨open_, t, rfl⟩ := holdsNoEnd_of_untilEnd later
      refine ⟨?_, t, rfl⟩
      rw [← List.cons_append] at here
      have none_ : untilEnd commentEnd? more = none := open_
      rw [HoldsNoEnd, untilEnd, commentEnd?_append_right here, none_]
      rfl

/-- Without a bracket no comment ends. -/
theorem holdsNoEnd_of_not_mem : ∀ {s : List Char}, '>' ∉ s → HoldsNoEnd s
  | [], _ => rfl
  | c :: s, h => by
    have here : commentEnd? (c :: s) = none := by
      rw [← Option.not_isSome_iff_eq_none, Option.isSome_iff_exists]
      rintro ⟨after, found⟩
      obtain ⟨b, -, whole⟩ := commentEnd?_eq_some_iff.1 found
      exact h (whole ▸ by simp)
    have later : untilEnd commentEnd? s = none :=
      holdsNoEnd_of_not_mem fun mem => h (List.mem_cons_of_mem c mem)
    rw [HoldsNoEnd, untilEnd, here, later]
    rfl

/-! ## Tokens -/

/-- A token that starts an element names it without a space and its attributes in lower case, and a
comment holds no end of one. -/
def Token.IsTidy : Token → Prop
  | .start name attributes _ => ' ' ∉ name.toList ∧ ∀ e ∈ attributes, lower e.1 = e.1
  | .comment characters => HoldsNoEnd characters
  | _ => True

/-- Data, and all other tokens that neither start an element nor are comments, are tidy. -/
@[simp] theorem Token.isTidy_of_other {t : Token} (start : ∀ name attributes closed,
    t ≠ .start name attributes closed) (comment : ∀ characters, t ≠ .comment characters) :
    t.IsTidy := by
  cases t with
  | start name attributes closed => exact absurd rfl (start name attributes closed)
  | comment characters => exact absurd rfl (comment characters)
  | _ => trivial

namespace Reading

/-- The tokens that were read. -/
def tokens : Reading → List Token
  | .next tokens _ _ => tokens
  | .stop tokens _ => tokens
  | .cutOff => []
  | .refused _ => []

/-- The tokens that were read are tidy. -/
def IsTidy (r : Reading) : Prop := ∀ t ∈ r.tokens, t.IsTidy

variable {token : Token} {raw : Option String} {rest : List Char}

@[simp] theorem isTidy_cutOff : IsTidy .cutOff := fun _ mem => absurd mem List.not_mem_nil

@[simp] theorem isTidy_refused (f : Fault) : IsTidy (.refused f) :=
  fun _ mem => absurd mem List.not_mem_nil

@[simp] theorem isTidy_nothing : IsTidy (.next [] raw rest) :=
  fun _ mem => absurd mem List.not_mem_nil

@[simp] theorem isTidy_one : IsTidy (.next [token] raw rest) ↔ token.IsTidy := by
  simp only [IsTidy, tokens, List.mem_singleton, forall_eq]

@[simp] theorem isTidy_stop : IsTidy (.stop [] rest) :=
  fun _ mem => absurd mem List.not_mem_nil

@[simp] theorem isTidy_stop_one : IsTidy (.stop [token] rest) ↔ token.IsTidy := by
  simp only [IsTidy, tokens, List.mem_singleton, forall_eq]

/-- A reading that waits for a result is tidy when it is so for the result. -/
theorem isTidy_ofExcept {α : Type} {go : α → Reading} {e : Except Fault α}
    (each : ∀ a, e = .ok a → (go a).IsTidy) : (Reading.ofExcept e go).IsTidy := by
  cases e with
  | ok a => exact each a rfl
  | error f => exact isTidy_refused f

end Reading

/-- Lower case puts no space in. -/
theorem space_not_mem_lower {s : List Char} (h : ' ' ∉ s) :
    ' ' ∉ (lower (String.ofList s)).toList := by
  rw [lower, String.toList_ofList, String.toList_ofList]
  intro mem
  exact h (mem_of_mem_lowerChars mem (by decide))

/-- Attributes are named in lower case. -/
theorem lower_of_mem_attributesFrom : ∀ {fuel : Nat} {before : Char} {s : List Char}
    {e : String × List Char}, e ∈ (attributesFrom fuel before s).1 → lower e.1 = e.1
  | 0, _, s, _, h => by
    rw [attributesFrom] at h
    cases h
  | _ + 1, _, [], _, h => by
    rw [attributesFrom] at h
    cases h
  | fuel + 1, before, c :: rest, e, h => by
    rw [attributesFrom] at h
    split at h
    · rcases List.mem_cons.1 h with rfl | h
      · show lower (lower (String.ofList _)) = _
        rw [lower, lower, String.toList_ofList, lowerChars_lowerChars]
      · exact lower_of_mem_attributesFrom h
    · cases h

/-- Decoding leaves the names. -/
theorem map_fst_of_decodeAttributes : ∀ {l : List (String × List Char)}
    {decoded : List (String × String)}, decodeAttributes l = .ok decoded →
      decoded.map Prod.fst = l.map Prod.fst
  | [], _, h => by
    cases h
    rfl
  | (name, value) :: rest, decoded, h => by
    rw [decodeAttributes] at h
    cases first : decodeValue value with
    | error f =>
      rw [first] at h
      cases h
    | ok s =>
      cases others : decodeAttributes rest with
      | error f =>
        rw [first, others] at h
        cases h
      | ok more =>
        rw [first, others] at h
        cases h
        rw [List.map_cons, List.map_cons, map_fst_of_decodeAttributes others]

/-- A start tag is named up to the first character that ends a name. -/
theorem isTidy_readStart (s : List Char) : (readStart s).IsTidy := by
  have name : ' ' ∉ (lower (String.ofList
      ((s.drop 1).takeWhile fun c => !endsTagName c))).toList := by
    apply space_not_mem_lower
    intro mem
    have := List.mem_takeWhile_imp mem
    exact absurd this (by decide)
  -- The names come lowered from the reader of attributes; decoding changes the values only.
  have lowered {fuel : Nat} {before : Char} {gap : List Char} {decoded : List (String × String)}
      (known : decodeAttributes (attributesFrom fuel before gap).1 = .ok decoded) :
      ∀ e ∈ decoded, lower e.1 = e.1 := by
    intro e he
    have mem := List.mem_map_of_mem (f := Prod.fst) he
    rw [map_fst_of_decodeAttributes known] at mem
    obtain ⟨written, found, same⟩ := List.mem_map.1 mem
    rw [← same]
    exact lower_of_mem_attributesFrom found
  simp only [readStart]
  split
  · exact Reading.isTidy_cutOff
  · apply Reading.isTidy_ofExcept
    exact fun _ known => Reading.isTidy_one.2 ⟨name, lowered known⟩
  · apply Reading.isTidy_ofExcept
    exact fun _ known => Reading.isTidy_one.2 ⟨name, lowered known⟩
  · split
    · exact Reading.isTidy_cutOff
    · apply Reading.isTidy_ofExcept
      exact fun _ _ => Reading.isTidy_one.2 trivial

/-- What is read as a comment for want of anything else stops at the bracket before an end. -/
theorem isTidy_readLooseComment (s : List Char) : (readLooseComment s).IsTidy := by
  unfold readLooseComment
  split
  · simp
  next cut => exact Reading.isTidy_one.2 (holdsNoEnd_of_not_mem (not_mem_of_cutAt cut))

/-- The end of an element, well written or not, is tidy. -/
theorem isTidy_readFinish (s : List Char) : (readFinish s).IsTidy := by
  unfold readFinish
  split
  · simp
  · split
    · simp
    · simp
    · split
      · split <;> simp
      · exact isTidy_readLooseComment _

/-- A marked section is no element and no comment. -/
theorem isTidy_readSection (s : List Char) : (readSection s).IsTidy := by
  have token (inside : List Char) : (sectionToken inside).IsTidy := by
    unfold sectionToken
    split <;> trivial
  simp only [readSection]
  split
  · simp
  · split
    · simp
    · split
      · simp
      · split
        · simp
        · split
          · simp
          · exact Reading.isTidy_one.2 (token _)

/-- A declaration is a comment up to its end, a section or a document type. -/
theorem isTidy_readDeclaration (s : List Char) : (readDeclaration s).IsTidy := by
  unfold readDeclaration
  split
  · split
    · simp
    next found => exact Reading.isTidy_one.2 (holdsNoEnd_of_untilEnd found).1
  · exact isTidy_readSection _
  · split
    · split <;> simp
    · exact isTidy_readLooseComment s

/-- Whatever a bracket opens is tidy. -/
theorem isTidy_readTag (s : List Char) : (readTag s).IsTidy := by
  unfold readTag
  split
  · exact isTidy_readFinish _
  · exact isTidy_readDeclaration _
  · unfold readInstruction
    split <;> simp
  · split
    · exact isTidy_readStart _
    · simp
  · simp

/-- A reference by number is data. -/
theorem isTidy_readNumber (s : List Char) : (readNumber s).IsTidy := by
  -- the two ways in which a number stops the pass
  have bail : (if s.contains ';' then Reading.stop [.data ['&', '#']] s
      else .stop [] ('&' :: '#' :: s)).IsTidy := by
    split <;> simp
  simp only [readNumber]
  split
  · split
    · exact bail
    · apply Reading.isTidy_ofExcept
      exact fun _ _ => Reading.isTidy_one.2 trivial
  · exact bail

/-- A reference by name is data. -/
theorem isTidy_readEntity (final : Bool) (s : List Char) : (readEntity final s).IsTidy := by
  unfold readEntity
  split
  · simp
  · split
    · split
      · split <;> simp
      · simp
    · simp

/-- Whatever an ampersand opens is data. -/
theorem isTidy_readReference (final : Bool) (s : List Char) : (readReference final s).IsTidy := by
  unfold readReference
  split
  · exact isTidy_readNumber _
  · exact isTidy_readEntity final _
  · simp

/-- What was cut off at the end of the text is data. -/
theorem isTidy_readCutOff (s : List Char) : (readCutOff s).IsTidy := by
  simp only [readCutOff]
  split
  · simp
  · split <;> simp

/-- What stands raw inside an element is data. -/
theorem isTidy_readRaw (name : String) (s : List Char) : (readRaw name s).IsTidy := by
  unfold readRaw
  split
  · simp
  · intro t mem
    rcases List.mem_cons.1 mem with rfl | mem
    · trivial
    · rw [List.mem_singleton.1 mem]
      trivial

/-- Whatever is read next is tidy. -/
theorem isTidy_read (final : Bool) (raw : Option String) (s : List Char) :
    (read final raw s).IsTidy := by
  unfold read
  split
  · exact isTidy_readRaw _ _
  · simp
  · split
    · have tag := isTidy_readTag
      split
      · split
        · exact isTidy_readCutOff _
        · simp
      · exact tag _
    · split
      · exact isTidy_readReference final _
      · simp

/-- A pass reads tidy tokens, by what each step reads. -/
theorem isTidy_of_pass {final : Bool} {raw : Option String} {s : List Char} {tokens : List Token}
    {left : Remainder} (h : pass final raw s = .ok (tokens, left)) : ∀ t ∈ tokens, t.IsTidy := by
  have here := isTidy_read final
  -- The cases are the ways a step can end: more to read, no progress, cut off, stopped, refused.
  induction raw, s using pass.induct final generalizing tokens left with
  | case1 raw s first raw' rest step smaller more left' passed ih =>
    rw [pass, step] at h
    simp only [if_pos smaller, passed, Except.ok.injEq, Prod.mk.injEq] at h
    obtain ⟨rfl, rfl⟩ := h
    intro t mem
    rcases List.mem_append.1 mem with mem | mem
    · have tidy := here raw s
      rw [step] at tidy
      exact tidy t mem
    · exact ih passed t mem
  | case2 raw s first raw' rest step smaller f passed _ =>
    rw [pass, step] at h
    simp only [if_pos smaller, passed] at h
    cases h
  | case3 raw s first raw' rest step still =>
    have tidy := here raw s
    rw [pass, step] at h
    simp only [if_neg still, Except.ok.injEq, Prod.mk.injEq] at h
    obtain ⟨rfl, rfl⟩ := h
    rwa [step] at tidy
  | case4 raw s step =>
    rw [pass, step] at h
    cases h
    exact fun t mem => absurd mem List.not_mem_nil
  | case5 raw s first rest step =>
    have tidy := here raw s
    rw [pass, step] at h
    cases h
    rwa [step] at tidy
  | case6 raw s f step =>
    rw [pass, step] at h
    cases h

/-- The tokens of a text are tidy. -/
theorem isTidy_of_scan {s : List Char} {tokens : List Token} (h : Token.scan s = .ok tokens) :
    ∀ t ∈ tokens, t.IsTidy := by
  unfold Token.scan at h
  cases one : pass false none s with
  | error f =>
    rw [one] at h
    cases h
  | ok p =>
    obtain ⟨first, raw, rest⟩ := p
    cases two : pass true raw rest with
    | error f =>
      rw [one] at h
      simp only [bind, Except.bind, two] at h
      cases h
    | ok q =>
      obtain ⟨second, raw', rest'⟩ := q
      rw [one] at h
      simp only [bind, Except.bind, two, pure, Except.pure, Except.ok.injEq] at h
      subst h
      intro t mem
      -- A token comes from the first pass, from the one over the remainder, or is the data left at
      -- the end.
      rcases List.mem_append.1 mem with mem | mem
      · rcases List.mem_append.1 mem with mem | mem
        · exact isTidy_of_pass one t mem
        · exact isTidy_of_pass two t mem
      · split at mem
        · rw [List.mem_singleton.1 mem]
          trivial
        · exact absurd mem List.not_mem_nil

/-! ## Trees -/

/-- A tag with a name without spaces and with attributes named in lower case. -/
structure Tag.IsTidy (tag : Tag) : Prop where
  name : ' ' ∉ tag.name.toList
  lowered : ∀ e ∈ tag.attributes.entries, lower e.1 = e.1

/-- A tree of elements with tidy tags and nothing in void ones, and of strings of which no comment
holds the end of a comment. -/
inductive Tree.IsTidy : Tree → Prop where
  | string {kind : StringKind} {text : String}
      (closed : kind = .comment → HoldsNoEnd text.toList) : IsTidy (.string kind text)
  | element {tag : Tag} {children : List Tree} (tidy : tag.IsTidy)
      (void : voidNames.contains tag.name = true → children = [])
      (below : ∀ t ∈ children, IsTidy t) : IsTidy (.element tag children)

/-- An open element is no void one, and what is in it so far is tidy. -/
structure Frame.IsTidy (f : Frame) : Prop where
  tag : f.tag.IsTidy
  holds : voidNames.contains f.tag.name = false
  below : ∀ t ∈ f.children, t.IsTidy

namespace Frame
variable {f : Frame} {t : Tree}

/-- A tidy frame stays tidy when it takes in a tidy tree. -/
theorem IsTidy.adopt (h : f.IsTidy) (ht : t.IsTidy) : (f.adopt t).IsTidy where
  tag := h.tag
  holds := h.holds
  below s mem := by
    rcases List.mem_cons.1 mem with rfl | mem
    · exact ht
    · exact h.below s mem

/-- A tidy frame closes to a tidy tree. -/
theorem IsTidy.toTree (h : f.IsTidy) : f.toTree.IsTidy := by
  refine .element h.tag ?_ ?_
  · intro void
    rw [h.holds] at void
    cases void
  · intro t mem
    exact h.below t (List.mem_reverse.1 mem)

/-- To close the elements down to a name leaves tidy frames. -/
theorem IsTidy.closeTo (name : String) {outer : List Frame} (h : f.IsTidy)
    (ho : ∀ g ∈ outer, g.IsTidy) :
    (Frame.closeTo name f outer).1.IsTidy ∧ ∀ g ∈ (Frame.closeTo name f outer).2, g.IsTidy := by
  induction outer generalizing f with
  | nil => exact ⟨h, fun g mem => absurd mem List.not_mem_nil⟩
  | cons g outer ih =>
    obtain ⟨hg, ho⟩ := List.forall_mem_cons.1 ho
    have adopted := hg.adopt h.toTree
    unfold Frame.closeTo
    split
    · exact ⟨adopted, ho⟩
    · exact ih adopted ho

/-- To close all elements leaves a tidy frame. -/
theorem IsTidy.closeAll {outer : List Frame} (h : f.IsTidy) (ho : ∀ g ∈ outer, g.IsTidy) :
    (Frame.closeAll f outer).IsTidy := by
  induction outer generalizing f with
  | nil => exact h.toTree
  | cons g outer ih =>
    obtain ⟨hg, ho⟩ := List.forall_mem_cons.1 ho
    exact ih (hg.adopt h.toTree) ho

end Frame

/-- The attributes of an element have the names of those that were written. -/
theorem lower_of_mem_attributesOf {name : String} {l : List (String × String)}
    (lowered : ∀ e ∈ l, lower e.1 = e.1) : ∀ e ∈ (attributesOf name l).entries,
      lower e.1 = e.1 := by
  intro e he
  obtain ⟨written, mem, rfl⟩ := List.mem_map.1 he
  exact lowered written (Dict.mem_of_mem_ofList mem)

/-- All open elements are tidy. -/
structure Builder.IsTidy (b : Builder) : Prop where
  current : b.current.IsTidy
  outer : ∀ f ∈ b.outer, f.IsTidy

namespace Builder
variable {b : Builder}

/-- A builder starts tidy: the whole text is an element that is not void. -/
theorem isTidy_start : IsTidy start where
  current := {
    tag := ⟨by decide, fun _ mem => absurd mem List.not_mem_nil⟩
    holds := by decide
    below := fun _ mem => absurd mem List.not_mem_nil }
  outer _ mem := absurd mem List.not_mem_nil

/-- The strings of any open element are text of the page. -/
theorem isText_dataKind (b : Builder) : b.dataKind.isText = true := by
  rw [dataKind]
  cases found : b.openNames.findSome? StringKind.ofContainer? with
  | none => rfl
  | some kind =>
    obtain ⟨name, -, same⟩ := List.exists_of_findSome?_eq_some found
    unfold StringKind.ofContainer? at same
    split at same <;> cases same <;> rfl

/-- To trim a text of blanks puts no end of a comment into it. -/
theorem holdsNoEnd_settle {characters : List Char} (h : HoldsNoEnd characters) (b : Builder) :
    HoldsNoEnd (b.settle characters) := by
  rw [settle]
  split
  · split <;> decide
  · exact h

/-- The text that was pending is taken in, and as a comment only when it holds no end. -/
theorem IsTidy.endString (h : b.IsTidy) {kind : Option StringKind}
    (closed : kind = some .comment → ∀ s ∈ b.pending, HoldsNoEnd s) :
    (b.endString kind).IsTidy := by
  unfold Builder.endString
  split
  · exact h
  next characters pending =>
    refine ⟨h.current.adopt (.string fun comment => ?_), h.outer⟩
    rw [String.toList_ofList]
    cases kind with
    | none =>
      have text := isText_dataKind b
      rw [Option.getD_none] at comment
      rw [comment] at text
      cases text
    | some kind => exact holdsNoEnd_settle (closed (congrArg some comment) characters pending) b

/-- The text that was pending is taken in as a plain one. -/
theorem IsTidy.ended (h : b.IsTidy) : (b.endString none).IsTidy :=
  h.endString fun same => by cases same

/-- A string of its own is taken in, a comment only when it holds no end. -/
theorem IsTidy.addString (h : b.IsTidy) {kind : StringKind} {characters : List Char}
    (closed : kind = .comment → HoldsNoEnd characters) : (b.addString kind characters).IsTidy := by
  have opened : IsTidy { b.endString none with pending := some characters } :=
    ⟨h.ended.current, h.ended.outer⟩
  refine opened.endString fun comment s pending => ?_
  obtain rfl := Option.mem_some_iff.1 pending
  exact closed (Option.some.inj comment)

/-- An element that may hold something is opened. -/
theorem IsTidy.push (h : b.IsTidy) {tag : Tag} (tidy : tag.IsTidy)
    (holds : voidNames.contains tag.name = false) : (b.push tag).IsTidy where
  current := ⟨tidy, holds, fun _ mem => absurd mem List.not_mem_nil⟩
  outer := List.forall_mem_cons.2 ⟨h.ended.current, h.ended.outer⟩

/-- To close an element by its name leaves the builder tidy. -/
theorem IsTidy.close (h : b.IsTidy) (name : String) : (b.close name).IsTidy := by
  have ended := h.ended
  unfold Builder.close
  dsimp only
  split
  · obtain ⟨current, outer⟩ := ended.current.closeTo name ended.outer
    exact ⟨current, outer⟩
  · exact ended

/-- No text is pending after the pending one was taken in. -/
theorem pending_endString (b : Builder) (kind : Option StringKind) :
    (b.endString kind).pending = none := by
  unfold Builder.endString
  split
  next none => exact none
  next => rfl

/-- Where no text is pending there is nothing to take in. -/
theorem endString_of_pending_eq_none (h : b.pending = none) (kind : Option StringKind) :
    b.endString kind = b := by
  rw [Builder.endString, h]

/-- An element that closes where it starts is taken in with nothing in it. -/
theorem close_push (b : Builder) {tag : Tag} (other : tag.name ≠ documentName) :
    (b.push tag).close tag.name =
      { b.endString none with current := (b.endString none).current.adopt (.element tag []) } := by
  have idle : (b.push tag).pending = none := pending_endString b none
  have still : (b.push tag).endString none = b.push tag := endString_of_pending_eq_none idle none
  have innermost :
      ((b.push tag).openNames.contains tag.name && tag.name != documentName) = true := by
    rw [Bool.and_eq_true, List.contains_iff_mem, bne_iff_ne]
    exact ⟨List.mem_cons_self, other⟩
  have closed : Frame.closeTo tag.name (b.push tag).current (b.push tag).outer =
      ((b.endString none).current.adopt (.element tag []), (b.endString none).outer) := by
    simp only [push, Frame.closeTo, beq_self_eq_true, if_true]
    rfl
  simp only [close, still, if_pos innermost, closed]
  rfl

/-- An element that is closed at once takes nothing in, so it may be a void one. -/
theorem IsTidy.close_push (h : b.IsTidy) {tag : Tag} (tidy : tag.IsTidy)
    (other : tag.name ≠ documentName) : ((b.push tag).close tag.name).IsTidy := by
  have ended := h.ended
  rw [Builder.close_push b other]
  refine ⟨ended.current.adopt (.element tidy (fun _ => rfl) ?_), ended.outer⟩
  exact fun _ mem => absurd mem List.not_mem_nil

/-- A void element is closed before anything is taken in, and so is one that closes itself, unless
it has the name of the whole text, which is no void one. -/
theorem IsTidy.step (h : b.IsTidy) {token : Token} (ht : token.IsTidy) : (b.step token).IsTidy := by
  cases token with
  | data characters =>
    simp only [Builder.step]
    split
    · exact h
    · exact ⟨h.current, h.outer⟩
  | start name attributes closed =>
    have tag : Tag.IsTidy ⟨name, attributesOf name attributes⟩ :=
      ⟨ht.1, lower_of_mem_attributesOf ht.2⟩
    simp only [Builder.step]
    -- A void element never stays open, so only the other ones are pushed.
    by_cases void : voidNames.contains name = true
    · have other : name ≠ documentName := by
        rintro rfl
        exact absurd void (by decide)
      have done := h.close_push tag other
      rw [if_pos void]
      split
      · exact done
      · exact ⟨done.current, done.outer⟩
    · have opened := h.push tag (Bool.not_eq_true _ ▸ void)
      rw [if_neg void]
      split
      · exact opened.close name
      · exact opened
  | finish name =>
    simp only [Builder.step, Builder.finish]
    split
    · exact ⟨h.current, h.outer⟩
    · exact h.close name
  | comment characters => exact h.addString fun _ => ht
  | cdata characters => exact h.addString fun same => by cases same
  | doctype characters => exact h.addString fun same => by cases same
  | instruction characters => exact h.addString fun same => by cases same
  | declaration characters => exact h.addString fun same => by cases same

/-- The builder is tidy after any run of tidy tokens. -/
theorem IsTidy.foldl {tokens : List Token} (h : b.IsTidy) (ht : ∀ t ∈ tokens, t.IsTidy) :
    (tokens.foldl Builder.step b).IsTidy := by
  induction tokens generalizing b with
  | nil => exact h
  | cons t tokens ih =>
    obtain ⟨first, others⟩ := List.forall_mem_cons.1 ht
    exact ih (h.step first) others

end Builder

/-- Whatever a text looks like, its tree is tidy. -/
theorem Tree.isTidy_of_parse {s : String} {t : Tree} (h : Tree.parse s = .ok t) : t.IsTidy := by
  unfold Tree.parse at h
  cases scanned : Token.scan s.toList with
  | error f =>
    rw [scanned] at h
    cases h
  | ok tokens =>
    rw [scanned] at h
    cases h
    have built := Builder.isTidy_start.foldl (isTidy_of_scan scanned)
    have ended := built.ended
    exact ended.current.closeAll ended.outer

end Componentry.Markup
