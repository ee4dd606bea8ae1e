import Componentry.Document.Reader
import Componentry.Jsx.Source
import Componentry.Proofs.Outcome
import Componentry.Proofs.Jsx.Emission
import Componentry.Proofs.Layout.Arrangement

/-!
# Pages in source text that is laid out

A component has lines before the rendered page, those of the page, and lines behind it. Every line
that is put out for the page is indented deeper than a statement, so the layout changes nothing that
it shows. This holds only of where a line starts: a text, a comment or an attribute with ends of
lines in it goes on at the start of a line of its own, and there may be taken for a statement.
-/

set_option autoImplicit false

namespace Componentry
open Componentry.Text Componentry.Jsx Componentry.Layout

/-! ## Levels -/

namespace Node

variable {attributes : Label → String}

/-- A line has its own level. -/
theorem level_le_of_mem_singleton {line : Line} {level : Int} {content : LineContent}
    (h : line ∈ [⟨level, content⟩]) : level ≤ line.level := by
  obtain rfl := List.mem_singleton.1 h
  exact Int.le_refl level

mutual
/-- The lines of a node have its level at least. -/
theorem level_le_of_mem_lines {line : Line} (level : Int) (first last : Bool) : ∀ n : Node,
    line ∈ n.lines attributes level first last → level ≤ line.level
  | .mk label children, h => by
    have framed {start stop : LineContent} (mem : line ∈ ⟨level, start⟩ ::
        linesAll attributes (level + 1) true children ++ [⟨level, stop⟩]) : level ≤ line.level := by
      rcases List.mem_append.1 mem with mem | mem
      · rcases List.mem_cons.1 mem with rfl | mem
        · exact Int.le_refl level
        · have deeper := level_le_of_mem_linesAll (level + 1) true children mem
          omega
      · exact level_le_of_mem_singleton mem
    cases kind : label.kind with
    | text =>
      simp only [lines, kind] at h
      split at h
      · cases h
      · exact level_le_of_mem_singleton h
    | comment =>
      simp only [lines, kind] at h
      exact level_le_of_mem_singleton h
    | fragment =>
      simp only [lines, kind] at h
      exact framed h
    | element =>
      simp only [lines, kind] at h
      split at h
      · exact level_le_of_mem_singleton h
      · exact framed h

/-- The lines of nodes that stand side by side have their level at least. -/
theorem level_le_of_mem_linesAll {line : Line} (level : Int) (first : Bool) : ∀ l : List Node,
    line ∈ linesAll attributes level first l → level ≤ line.level
  | [], h => by
    rw [linesAll] at h
    cases h
  | n :: rest, h => by
    rw [linesAll] at h
    split at h
    · rcases List.mem_append.1 h with h | h
      · exact level_le_of_mem_lines level first _ n h
      · exact level_le_of_mem_linesAll level false rest h
    · exact level_le_of_mem_linesAll level first rest h
end

/-- The lines of a root have its level at least. -/
theorem level_le_of_mem_renderedLines {line : Line} {level : Int} {root : Node}
    (h : line ∈ root.renderedLines attributes level) : level ≤ line.level := by
  rw [renderedLines, emitted_eq] at h
  split at h
  · exact level_le_of_mem_singleton h
  next =>
    obtain ⟨n, -, mem⟩ := List.mem_flatMap.1 h
    exact level_le_of_mem_lines level true true n mem

end Node

namespace Layout

variable {o : LayoutOptions}

/-- A line that is not written anew as a statement is not written in another way. -/
theorem alters_of_punctuate {line : List Char}
    (h : punctuate o (dropEndWhile isBlank line) = dropEndWhile isBlank line) :
    alters o line = false := by
  rw [alters, h, bne_self_eq_false, Bool.and_false]

/-- A blank line is no statement. -/
theorem alters_of_blank {line : List Char} (h : isFilled line = false) : alters o line = false := by
  refine alters_of_punctuate ?_
  rcases punctuate_cases o (dropEndWhile isBlank line) with stays | anew
  · exact stays
  · have filled := anew.isFilled.2
    rw [isFilled_dropEndWhile, h] at filled
    cases filled

/-- A line that starts like no statement is not written in another way. -/
theorem alters_of_start {c : Char} (h : c ∉ [' ', 'i', ')', 'e']) (rest : List Char) :
    alters o (c :: rest) = false := by
  refine alters_of_punctuate ?_
  obtain ⟨b, -, whole⟩ := exists_dropEndWhile_append isBlank (c :: rest)
  rcases List.append_eq_cons_iff.1 whole with ⟨empty, -⟩ | ⟨kept, start, -⟩
  · rw [empty]
    rfl
  · rw [start, punctuate_of_start h]

/-- A line indented by more than two columns is no statement. -/
theorem alters_of_deep {n : Nat} (deep : sourceIndent < n) (l : List Char) :
    alters o (List.replicate n ' ' ++ l) = false := by
  obtain ⟨b, -, whole⟩ := exists_dropEndWhile_append isBlank (List.replicate n ' ' ++ l)
  exact alters_of_punctuate (punctuate_of_deep deep ⟨b, whole⟩)

end Layout

namespace Jsx

/-- No line that starts within a text, a comment or an attribute is a statement that is written in
another way. -/
def Line.IsSpared (o : LayoutOptions) (line : Line) : Prop :=
  ∀ l ∈ (linesOf line.content.write.toList).tail, alters o l = false

/-- Of the lines that a line within a component makes up, the first one is no statement. -/
theorem isSpared_iff {o : LayoutOptions} {line : Line}
    (deep : SourceOptions.bodyLevel ≤ line.level) :
    line.IsSpared o ↔ ∀ l ∈ filledLines line.write.toList, alters o l = false := by
  have columns : sourceIndent < 2 * line.level.toNat := by
    have two : SourceOptions.bodyLevel = 2 := rfl
    have width : sourceIndent = 2 := rfl
    omega
  have spaces : ∀ c ∈ List.replicate (2 * line.level.toNat) ' ', isLineBreak c = false := by
    intro c hc
    rw [List.eq_of_mem_replicate hc]
    rfl
  have some_ : List.replicate (2 * line.level.toNat) ' ' ++ line.content.write.toList ≠ [] := by
    intro none_
    have long := congrArg List.length none_
    rw [List.length_append, List.length_replicate, List.length_nil] at long
    omega
  rw [toList_write, filledLines, linesOf_append_left spaces _ some_]
  constructor
  · intro spared l hl
    rcases List.mem_cons.1 (List.mem_filter.1 hl).1 with rfl | hl
    · exact alters_of_deep columns _
    · exact spared l hl
  · intro kept l hl
    cases filled : isFilled l with
    | false => exact alters_of_blank filled
    | true => exact kept l (List.mem_filter.2 ⟨List.mem_cons_of_mem _ hl, filled⟩)

end Jsx

namespace SourceOptions

/-- The line that opens the function of a component, with the type of its parameters before it. -/
def headText (o : SourceOptions) (parameters : List Parameter) : String :=
  let name := o.componentName
  match o.typed with
  | none => "function " ++ name ++ "()"
  | some t =>
    (if t.declaresType then parameterType name parameters else "")
      ++ ((if t.isDefault then "export default function " else "export function ")
        ++ name ++ "(" ++ parameterList name t.declaresType parameters ++ ")")

/-- The line that exports a component that is not typed, with the empty one before it. -/
def exportText (o : SourceOptions) : String :=
  if o.typed.isSome then "" else "\n" ++ ("export default " ++ o.componentName ++ ";" ++ "\n")

/-- The source of a component up to the rendered page. -/
def opening (o : SourceOptions) (parameters : List Parameter) : String :=
  o.importText ++ (o.headText parameters ++ " \x7b" ++ "\n" ++ "  return (")

/-- The source of a component behind the rendered page. -/
def closing (o : SourceOptions) : String := "  );" ++ "\n" ++ ("\x7d" ++ "\n" ++ o.exportText)

/-- The rendered page stands on lines of its own. -/
theorem sourceText_eq (o : SourceOptions) (parameters : List Parameter) (body : String) :
    o.sourceText parameters body =
      o.opening parameters ++ "\n" ++ (body ++ "\n" ++ o.closing) := by
  rw [sourceText, opening, headText, closing, exportText]
  cases o.typed with
  | none => simp only [functionText, join, List.cons_append, List.nil_append, String.append_assoc,
      String.append_empty, String.empty_append, Option.isSome_none, Bool.false_eq_true, if_false]
  | some t => simp only [functionText, join, List.cons_append, List.nil_append, String.append_assoc,
      String.append_empty, Option.isSome_some, if_true]

/-- The lines of two texts with a line feed between them. -/
theorem filledLines_append_lineFeed (s t : String) :
    filledLines (s ++ "\n" ++ t).toList = filledLines s.toList ++ filledLines t.toList := by
  have feed : "\n".toList = ['\n'] := rfl
  rw [String.toList_append, String.toList_append, feed, List.append_assoc, List.singleton_append,
    filledLines_append]

/-- A line feed at the end opens no line. -/
theorem filledLines_concat_lineFeed (s : String) :
    filledLines (s ++ "\n").toList = filledLines s.toList := by
  have ended := filledLines_append_lineFeed s ""
  rw [String.append_empty] at ended
  exact ended.trans (List.append_nil _)

/-- The imports end with a line of their own. -/
theorem filledLines_importText_append (o : SourceOptions) (s : String) :
    filledLines (o.importText ++ s).toList =
      filledLines o.importText.toList ++ filledLines s.toList := by
  rw [importText]
  generalize (if o.importsLibrary then ["import React from 'react';"] else []) ++ o.imports =
    imports
  split
  · rfl
  · have feeds : "\n\n" = "\n" ++ "\n" := rfl
    simp only [feeds, ← String.append_assoc, filledLines_append_lineFeed,
      filledLines_concat_lineFeed]

/-- Texts without line breaks in a row have none. -/
theorem solid_append {s t : String} (hs : ∀ c ∈ s.toList, isLineBreak c = false)
    (ht : ∀ c ∈ t.toList, isLineBreak c = false) :
    ∀ c ∈ (s ++ t).toList, isLineBreak c = false := by
  rw [String.toList_append]
  exact fun c hc => (List.mem_append.1 hc).elim (hs c) (ht c)

/-- Of the lines around the page in a component that is not typed, only imports, the end of the
return and the export are statements. -/
theorem statement_of_alters {o : SourceOptions} {parameters : List Parameter} {line : List Char}
    (untyped : o.typed = none) (solid : ∀ c ∈ o.componentName.toList, isLineBreak c = false)
    (mem : line ∈ filledLines (o.opening parameters).toList ++ filledLines o.closing.toList)
    (altered : alters o.layout line = true) :
    line ∈ filledLines o.importText.toList ∨ line = "  );".toList ∨
      line = ("export default " ++ o.componentName ++ ";").toList := by
  have spared {l : List Char} (h : alters o.layout l = false) : line ≠ l := by
    rintro rfl
    rw [h] at altered
    cases altered
  have fixed {s : String} (h : s.toList.all (fun c => decide (isLineBreak c = false)) = true) :
      ∀ c ∈ s.toList, isLineBreak c = false := Lists.forall_mem_of_all h
  rcases List.mem_append.1 mem with before | behind
  · rw [opening, headText, untyped, filledLines_importText_append,
      filledLines_append_lineFeed] at before
    rcases List.mem_append.1 before with imported | before
    · exact .inl imported
    · rcases List.mem_append.1 before with head | return_
      · have whole := eq_of_mem_filledLines (solid_append (solid_append (solid_append
          (fixed (by decide)) solid) (fixed (by decide))) (fixed (by decide))) head
        rw [String.toList_append, String.toList_append, String.toList_append] at whole
        exact absurd whole (spared (alters_of_start (by decide) _))
      · have whole := eq_of_mem_filledLines (fixed (by decide)) return_
        exact absurd whole (spared (alters_of_punctuate rfl))
  · rw [closing, exportText, untyped, filledLines_append_lineFeed,
      filledLines_append_lineFeed] at behind
    rcases List.mem_append.1 behind with end_ | behind
    · exact .inr (.inl (eq_of_mem_filledLines (fixed (by decide)) end_))
    · rcases List.mem_append.1 behind with brace | export_
      · have whole := eq_of_mem_filledLines (fixed (by decide)) brace
        exact absurd whole (spared (alters_of_start (by decide) _))
      · have started := filledLines_append_lineFeed ""
          ("export default " ++ o.componentName ++ ";" ++ "\n")
        rw [String.empty_append, filledLines_concat_lineFeed] at started
        have solidExport := solid_append (solid_append (s := "export default ")
          (fixed (by decide)) solid) (t := ";") (fixed (by decide))
        have empty : filledLines "".toList = [] := rfl
        rw [if_neg (by decide), started, empty, List.nil_append] at export_
        exact .inr (.inr (eq_of_mem_filledLines solidExport export_))

/-- Laid out, a component shows on the lines before, on and behind its page what it showed there,
but for statements that are written in another way. The lines of the page show the same exactly when
no line that starts within a text, a comment or an attribute is such a statement; around the page of
a component that is not typed only the imports, the end of the return and the export are. -/
theorem contentLines_content (o : SourceOptions) (rules : CustomRules)
    (parameters : List Parameter) (root : Node) :
    let body := (o.render rules bodyLevel root).text
    contentLines (o.content parameters body) =
      shownLines o.layout (o.opening parameters) ++ (shownLines o.layout body ++
        shownLines o.layout o.closing) ∧
    (shownLines o.layout body = contentLines body ↔
      ∀ line ∈ root.renderedLines (o.attributesOf rules) bodyLevel, line.IsSpared o.layout) ∧
    (o.typed = none → (∀ c ∈ o.componentName.toList, isLineBreak c = false) →
      ∀ line ∈ filledLines (o.opening parameters).toList ++ filledLines o.closing.toList,
        alters o.layout line = true →
        line ∈ filledLines o.importText.toList ∨ line = "  );".toList ∨
          line = ("export default " ++ o.componentName ++ ";").toList) := by
  have known : o.language ∈ languages := by
    rw [language]
    split <;> decide
  have filled :
      isBlankText (o.sourceText parameters (o.render rules bodyLevel root).text) = false := by
    refine List.all_eq_false.2 ⟨')', ?_, by decide⟩
    simp only [sourceText_eq, closing, String.toList_append, List.mem_append]
    exact .inr (.inr (.inl (.inl (by decide))))
  refine ⟨?_, ?_, fun untyped solid line => statement_of_alters untyped solid⟩
  · rw [content, contentLines_write _ known filled, shownLines, sourceText_eq,
      filledLines_append_lineFeed, filledLines_append_lineFeed, List.map_append, List.map_append]
    rfl
  · rw [shownLines_eq_iff]
    show (∀ l ∈ filledLines (join "\n" _).toList, _) ↔ _
    rw [filledLines_join]
    constructor
    · intro kept line mem
      refine (isSpared_iff (Node.level_le_of_mem_renderedLines mem)).2 fun l hl => kept l ?_
      exact List.mem_flatMap.2 ⟨line.write, List.mem_map_of_mem mem, hl⟩
    · intro spared l hl
      obtain ⟨written, put, hl⟩ := List.mem_flatMap.1 hl
      obtain ⟨line, mem, rfl⟩ := List.mem_map.1 put
      exact (isSpared_iff (Node.level_le_of_mem_renderedLines mem)).1 (spared line mem) l hl

/-- A text that goes on at the start of a line like an import loses its quotation marks. -/
theorem text_like_import_is_rewritten : ∃ d : Document,
    (Document.read {} (some "<p>x\nimport \"a\"</p>")).result = .ok d ∧
    let body := (({} : SourceOptions).render Dict.empty bodyLevel d.root).text
    contentLines body = ["<p>", "x", "import \"a\"", "</p>"].map String.toList ∧
    shownLines {} body = ["<p>", "x", "import 'a';", "</p>"].map String.toList ∧
    "import \"a\"".toList ∉ contentLines (({} : SourceOptions).content [] body) := by
  let o : SourceOptions := {}
  have known : ((Document.read {} (some "<p>x\nimport \"a\"</p>")).result.toOption.map fun d =>
      let body := (o.render Dict.empty bodyLevel d.root).text
      (contentLines body, shownLines {} body,
        (contentLines (o.content [] body)).contains "import \"a\"".toList)) =
      some (["<p>", "x", "import \"a\"", "</p>"].map String.toList,
        ["<p>", "x", "import 'a';", "</p>"].map String.toList, false) := by decide +kernel
  obtain ⟨d, read, known⟩ := exists_ok_of_toOption_map known
  obtain ⟨page, known⟩ := Prod.mk.inj known
  obtain ⟨shown, absent⟩ := Prod.mk.inj known
  refine ⟨d, read, page, shown, fun mem => ?_⟩
  rw [List.contains_iff_mem.2 mem] at absent
  cases absent

end SourceOptions
end Componentry
