import Componentry.Markup.Tree.Builder

/-!
# Writing trees

Attributes are written sorted by name with a value in quotes; text and values have `&`, `<` and `>`
escaped, except in scripts and style sheets. An empty void element closes itself. A declared
character set is written as the one the text is in.
-/

set_option autoImplicit false

namespace Componentry.Markup
open Componentry.Text

/-- The references for the characters that delimit markup. -/
def escapeChar (c : Char) : List Char :=
  if c == '&' then "&amp;".toList
  else if c == '<' then "&lt;".toList
  else if c == '>' then "&gt;".toList
  else [c]

/-- A text with the characters that delimit markup escaped. -/
def escape (s : String) : String := String.ofList (s.toList.flatMap escapeChar)

/-- A value in quotes that it does not hold; one that holds both has its double quotes escaped. -/
def quoteValue (s : String) : String :=
  if s.toList.contains '"' then
    if s.toList.contains '\'' then "\"" ++ replace s "\"" "&quot;" ++ "\""
    else "'" ++ s ++ "'"
  else "\"" ++ s ++ "\""

/-- The character set that text is written in. -/
def characterSet : String := "utf-8"

/-- Replaces the value after each `charset=` that stands at the start of a line or after a
semicolon, blanks allowed before it; `free` says whether that holds here. -/
def renameCharset : Nat → Bool → List Char → List Char
  | 0, _, s => s
  | _ + 1, _, [] => []
  | fuel + 1, free, c :: rest =>
    match if free then restAfter? "charset=".toList (c :: rest) else none with
    | some after =>
      let after := after.dropWhile (· != ';')
      "charset=".toList ++ characterSet.toList ++ renameCharset fuel false after
    | none => c :: renameCharset fuel (c == ';' || c == '\n' || (free && isBlank c)) rest

/-- A value as it is written: the declarations of a character set name the one that is used. -/
def writtenValue (tag : Tag) (name value : String) : String :=
  if tag.name != "meta" then value
  else if name == "charset" then characterSet
  else if name == "content" && !tag.attributes.has "charset"
      && (tag.value? "http-equiv").map lower == some "content-type" then
    String.ofList (renameCharset value.toList.length true value.toList)
  else value

/-- The attributes of an element, each after a space. -/
def writeAttributes (tag : Tag) : String :=
  let sorted := tag.attributes.entries.mergeSort fun a b => le a.1 b.1
  concat (sorted.map fun (name, value) =>
    " " ++ name ++ "=" ++ quoteValue (escape (writtenValue tag name value)))

/-- A string in the markup of its kind; text in a raw element is not escaped. -/
def writeString (raw : Bool) (kind : StringKind) (text : String) : String :=
  match kind with
  | .comment => "<!--" ++ text ++ "-->"
  | .cdata => "<![CDATA[" ++ text ++ "]]>"
  | .instruction => "<?" ++ text ++ ">"
  | .doctype => "<!DOCTYPE " ++ text ++ ">\n"
  | .declaration => "<?" ++ text ++ "?>"
  | _ => if raw then text else escape text

mutual
/-- The markup of a tree, within a raw element or not. -/
def Tree.write (raw : Bool) : Tree → String
  | .string kind text => writeString raw kind text
  | .element tag children =>
    if children.isEmpty && voidNames.contains tag.name then
      "<" ++ tag.name ++ writeAttributes tag ++ "/>"
    else
      "<" ++ tag.name ++ writeAttributes tag ++ ">"
        ++ Tree.writeAll (rawNames.contains tag.name) children ++ "</" ++ tag.name ++ ">"

/-- The markup of trees, one after the other. -/
def Tree.writeAll (raw : Bool) : List Tree → String
  | [] => ""
  | t :: rest => Tree.write raw t ++ Tree.writeAll raw rest
end

/-- The markup of a whole text: the element that stands for it is not written. -/
def Tree.writeDocument (t : Tree) : String := Tree.writeAll false t.children

end Componentry.Markup
