import Componentry.Document.Node
import Componentry.Attributes.Printer
import Componentry.Markup.Tree.Printer

/-!
# Writing nodes as markup

An element is written with its attributes and what is inside it; a void element has neither content
nor end tag. A text is escaped unless it stands directly in a script or a style sheet. A fragment
is what is inside it.
-/

set_option autoImplicit false

namespace Componentry.Node
open Componentry.Text Componentry.Markup

/-- The start tag of an element. -/
def startTag (n : Label) : String :=
  let attributes := n.attributes.write
  let name := n.tag.getD "None"
  if attributes.isEmpty then "<" ++ name ++ ">" else "<" ++ name ++ " " ++ attributes ++ ">"

/-- The end tag of an element. -/
def endTag (n : Label) : String := "</" ++ n.tag.getD "None" ++ ">"

/-- An element that has no content. -/
def isVoid (n : Label) : Bool := voidElements.contains (n.tag.getD "None")

/-- An element whose texts are written as they are. -/
def isRaw (n : Label) : Bool := rawNames.contains (n.tag.getD "None")

mutual
/-- The markup of a node, standing directly in a raw element or not. -/
def writeIn (raw : Bool) : Node → String
  | .mk label children =>
    match label.kind with
    | .text => if raw then label.text.getD "" else escape (label.text.getD "")
    | .comment => "<!--" ++ label.text.getD "" ++ "-->"
    | .fragment => writeAllIn false children
    | .element =>
      if isVoid label then startTag label
      else startTag label ++ writeAllIn (isRaw label) children ++ endTag label

/-- The markup of nodes, one after the other. -/
def writeAllIn (raw : Bool) : List Node → String
  | [] => ""
  | n :: rest => writeIn raw n ++ writeAllIn raw rest
end

/-- The markup of a node. -/
def write (n : Node) : String := writeIn false n

end Componentry.Node
