import Componentry.Component
import Componentry.Document.Node
import Componentry.Text.Case

/-!
# Describing elements

What the element of a component is for, the properties it might take, and what is in it.
-/

set_option autoImplicit false

namespace Componentry
open Componentry.Text

/-- A text contains a part written in small letters, case apart. -/
def mentions (s part : String) : Bool := occursIn part.toList (foldCase s.toList)

namespace Node

/-- Elements with a meaning of their own. -/
def semanticTags : List String := [
  "header", "nav", "main", "footer", "article", "section", "aside", "figure", "figcaption",
  "dialog", "details", "summary"]

/-- Elements that a reader acts on. -/
def interactiveTags : List String := [
  "button", "a", "input", "textarea", "select", "form", "details", "dialog"]

/-- Elements that show media. -/
def mediaTags : List String := ["img", "picture", "video", "audio", "canvas", "svg"]

/-- Elements that list data. -/
def dataTags : List String := ["table", "ul", "ol", "dl"]

/-- Parts of class names of containers. -/
def containerParts : List String := [
  "container", "wrapper", "layout", "grid", "flex", "row", "col", "section"]

/-- Parts of class names of navigation. -/
def navigationParts : List String := ["nav", "menu", "breadcrumb", "pagination"]

/-- Parts of class names of content. -/
def contentParts : List String := ["card", "article", "post", "item", "entry"]

/-- Some class name has one of some parts. -/
def hasClassPart (n : Node) (parts : List String) : Bool :=
  n.attributes.classes.any fun c => parts.any fun part => mentions c part

/-- What an element is for. -/
def role (n : Node) : ComponentRole :=
  if semanticTags.contains n.tagOrNone then .semantic
  else if interactiveTags.contains n.tagOrNone then .interactive
  else if mediaTags.contains n.tagOrNone then .media
  else if dataTags.contains n.tagOrNone then .data
  else if n.hasClassPart navigationParts then .navigation
  else if n.hasClassPart containerParts then .layout
  else if n.hasClassPart contentParts then .content
  else .unknown

/-- The first class name that names an element or a modifier of a block. -/
def blockClass? (n : Node) : Option BlockClass :=
  ((n.attributes.classes.filter fun c => contains c "__" || contains c "--").map
    BlockClass.parse).find? fun b =>
      (b.element.filter fun s => s != "").isSome || (b.modifier.filter fun s => s != "").isSome

/-- The properties that an element might take. -/
def suggestedProperties (n : Node) (inPattern : Bool) : List SuggestedProperty :=
  [⟨"className", .string, false⟩]
    ++ (if n.elementChildren.isEmpty then [] else [⟨"children", .node, false⟩])
    ++ (if interactiveTags.contains n.tagOrNone then [⟨"onClick", .function, false⟩] else [])
    ++ (if n.tagOrNone == "img" then [⟨"src", .string, true⟩, ⟨"alt", .string, true⟩] else [])
    ++ (if n.tagOrNone == "a" then [⟨"href", .string, true⟩] else [])
    ++ (if inPattern then [⟨"variant", .string, false⟩] else [])

/-- What is in an element. -/
def content (n : Node) (isPatternItem : Bool) : ComponentContent :=
  let tags := n.innerElements.map tagOrNone
  { elementCount := tags.length
    textLength := size n.textContent
    hasInteractive := tags.any fun t =>
      ["button", "a", "input", "textarea", "select", "form"].contains t
    hasForms := tags.contains "form"
    hasImages := tags.contains "img"
    childTypes := n.elementChildren.map tagOrNone
    isPatternItem }

end Node
end Componentry
