import Componentry.Outcome
import Componentry.Text.Letters
import Componentry.Text.Lines

/-!
# The layout of source text

Source text is laid out line by line: blanks at ends of lines go, runs of empty lines become one,
indents of two columns become the chosen ones, and lines that import or end a statement follow the
chosen quotes and semicolons. What cannot be laid out stays as it is.
-/

set_option autoImplicit false

namespace Componentry
open Componentry.Text

/-- The width of an indent: so many columns, or something of a kind that is no number. -/
inductive IndentSize where
  | columns (n : Int)
  | unusable (kind : String)
deriving Repr, DecidableEq

/-- How source text is laid out. -/
structure LayoutOptions where
  usesTabs : Bool := false
  indentSize : IndentSize := .columns 2
  lineWidth : Int := 80
  singleQuotes : Bool := true
  semicolons : Bool := true
  enabled : Bool := true
deriving Repr, DecidableEq

/-- Why there is no indent of a width. -/
inductive IndentFault where
  /-- The width is of a kind that is no number. -/
  | kind (name : String)
  | number (f : NumberFault)
  /-- There is no room for so many columns. -/
  | room
deriving Repr, DecidableEq

/-- The report of a width without an indent. -/
def IndentFault.message : IndentFault → String
  | .kind name => "can't multiply sequence by non-int of type '" ++ name ++ "'"
  | .number f => f.message
  | .room => ""

namespace Layout

/-- The languages whose source text is laid out. -/
def languages : List String := ["jsx", "tsx", "typescript"]

/-- The columns of an indent in source text that has not been laid out. -/
def sourceIndent : Nat := 2

/-- The mark for quotes. -/
def quoteMark (o : LayoutOptions) : Char := if o.singleQuotes then '\'' else '"'

/-- What ends a statement. -/
def statementEnd (o : LayoutOptions) : List Char := if o.semicolons then [';'] else []

/-- Puts the chosen mark around quotations that do not hold it. -/
def requote (mark : Char) : List Char → List Char
  | [] => []
  | c :: rest =>
    if c == '\'' || c == '"' then
      let inner := rest.takeWhile fun d => d != c
      match _h : rest.dropWhile fun d => d != c with
      | [] => c :: requote mark rest
      | _ :: after =>
        (if inner.contains mark then c :: inner ++ [c] else mark :: inner ++ [mark])
          ++ requote mark after
    else c :: requote mark rest
termination_by s => s.length
decreasing_by
  all_goals simp_wf
  have hle := (List.dropWhile_sublist (l := rest) fun d => d != c).length_le
  rw [_h] at hle
  simp only [List.length_cons] at hle
  omega

/-- Takes one semicolon from the end. -/
def withoutSemicolon (line : List Char) : List Char :=
  match line.reverse with
  | ';' :: rest => rest.reverse
  | _ => line

/-- An import, without its semicolon. -/
def importBody? (line : List Char) : Option (List Char) :=
  match restAfter? "import".toList line with
  | none => none
  | some [] => some line
  | some (c :: _) => if isWordChar c then none else some (withoutSemicolon line)

/-- At most so many spaces, and what follows them. -/
def splitSpaces : Nat → List Char → List Char × List Char
  | n + 1, ' ' :: rest =>
    let (spaces, after) := splitSpaces n rest
    (' ' :: spaces, after)
  | _, s => ([], s)

/-- The end of a statement that is indented at most once, without its semicolon: a closing bracket
alone, or a default export of a name. -/
def statementBody? (line : List Char) : Option (List Char) :=
  let (spaces, after) := splitSpaces 2 line
  let ends (rest : List Char) : Bool :=
    let rest := rest.dropWhile isBlank
    rest == [] || rest == [';']
  match after with
  | ')' :: rest => if ends rest then some (spaces ++ [')']) else none
  | _ =>
    match restAfter? "export default ".toList after with
    | none => none
    | some rest =>
      let name := rest.takeWhile isWordChar
      if !name.isEmpty && ends (rest.dropWhile isWordChar) then
        some (spaces ++ "export default ".toList ++ name)
      else none

/-- A line with the chosen quotes and semicolons. -/
def punctuate (o : LayoutOptions) (line : List Char) : List Char :=
  match importBody? line with
  | some body => requote (quoteMark o) body ++ statementEnd o
  | none =>
    match statementBody? line with
    | some body => body ++ statementEnd o
    | none => line

/-- A number that no count of characters reaches. -/
def isBeyondCounts (n : Int) : Bool :=
  (Nat.pow 2 63 : Nat) ≤ n || n < -(Nat.pow 2 63 : Nat)

/-- The characters of so many columns, none for a number below zero. -/
def columns (n : Int) : Except IndentFault (List Char) :=
  if isBeyondCounts n then .error (.number .beyondCounts)
  else if (Nat.pow 2 36 : Nat) ≤ n then .error .room
  else .ok (List.replicate n.toNat ' ')

/-- The characters of one indent. -/
def indentUnit (o : LayoutOptions) : Except IndentFault (List Char) :=
  if o.usesTabs then .ok ['\t']
  else match o.indentSize with
    | .columns n => columns n
    | .unusable kind => .error (.kind kind)

/-- A line with its indent in the chosen unit; an odd column stays a space. -/
def reindent (unit : List Char) (line : List Char) : List Char :=
  let width := (line.takeWhile (· == ' ')).length
  (List.replicate (width / sourceIndent) unit).flatten
    ++ List.replicate (width % sourceIndent) ' ' ++ line.drop width

/-- Keeps of each run of empty lines one, and none where such a run is passed over from the
start. -/
def squeeze : Bool → List (List Char) → List (List Char)
  | _, [] => []
  | skip, line :: rest =>
    if line.isEmpty then if skip then squeeze true rest else [] :: squeeze true rest
    else line :: squeeze false rest

/-- Drops the empty lines at the end. -/
def dropEmptyEnd (lines : List (List Char)) : List (List Char) :=
  (lines.reverse.dropWhile List.isEmpty).reverse

/-- A line laid out; an empty one stays empty. -/
def arrangeLine (o : LayoutOptions) (unit line : List Char) : List Char :=
  if line.isEmpty then [] else reindent unit (punctuate o line)

/-- The lines of source text laid out. -/
def arrangeLines (o : LayoutOptions) (unit code : List Char) : List (List Char) :=
  (dropEmptyEnd (squeeze true ((linesOf code).map (dropEndWhile isBlank)))).map (arrangeLine o unit)

/-- Source text laid out, each line ended. -/
def arrange (o : LayoutOptions) (unit : List Char) (code : String) : String :=
  String.ofList ((arrangeLines o unit code.toList).flatMap fun line => line ++ ['\n'])

/-- Source text is to be laid out: it is not blank, and this is wanted. -/
def isWanted (o : LayoutOptions) (code : String) : Bool := !isBlankText code && o.enabled

/-- Source text laid out where that is wanted and can be done. -/
def write (o : LayoutOptions) (language code : String) : String :=
  if !isWanted o code || !languages.contains language then code
  else match indentUnit o with
    | .ok unit => arrange o unit code
    | .error _ => code

/-- What there is to say when source text is laid out. -/
def report (o : LayoutOptions) (language code : String) : List Record :=
  if !isWanted o code then []
  else if !languages.contains language then
    [⟨.warning, "Unknown formatter parser '" ++ language ++ "', leaving code unformatted."⟩]
  else match indentUnit o with
    | .ok _ => []
    | .error fault => [⟨.warning, "Code formatting failed: " ++ fault.message⟩]

/-- Lays out source text. -/
def format (o : LayoutOptions) (language code : String) : Outcome String :=
  ⟨report o language code, .ok (write o language code)⟩

/-- Source text is laid out already. -/
def check (o : LayoutOptions) (language code : String) : Outcome Bool :=
  ⟨report o language code, .ok (write o language code == code)⟩

end Layout
end Componentry
