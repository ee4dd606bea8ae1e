import Componentry.Document.Node

/-!
# Sections

Sections are the parts of a page that have a meaning of their own: its header, navigation, cards
and so on. Each kind has its element names and the class names that suggest it.
-/

set_option autoImplicit false

namespace Componentry
open Componentry.Text

/-- The kinds of sections; `none` is the kind of what is no section. -/
inductive SectionKind where
  | header
  | nav
  | main
  | aside
  | footer
  | section
  | article
  | figure
  | form
  | table
  | list
  | card
  | hero
  | none
deriving Repr, DecidableEq

namespace SectionKind

/-- All kinds. -/
def all : List SectionKind := [
  .header, .nav, .main, .aside, .footer, .section, .article, .figure, .form, .table, .list, .card,
  .hero, .none]

/-- The word for a kind. -/
def name : SectionKind → String
  | .header => "header"
  | .nav => "nav"
  | .main => "main"
  | .aside => "aside"
  | .footer => "footer"
  | .section => "section"
  | .article => "article"
  | .figure => "figure"
  | .form => "form"
  | .table => "table"
  | .list => "list"
  | .card => "card"
  | .hero => "hero"
  | .none => "none"

/-- The kind of a word. -/
def ofName? (s : String) : Option SectionKind := all.find? fun k => k.name == s

/-- The element names that suggest a kind. -/
def tags : SectionKind → List String
  | .header => ["header", "masthead"]
  | .nav => ["nav", "navigation"]
  | .main => ["main", "article"]
  | .aside => ["aside", "sidebar"]
  | .footer => ["footer"]
  | .section => ["section"]
  | .article => ["article"]
  | .figure => ["figure"]
  | .form => ["form"]
  | .table => ["table"]
  | .list => ["ul", "ol", "dl"]
  | .card | .hero | .none => []

/-- The class names that suggest a kind. -/
def classes : SectionKind → List String
  | .header => ["header", "site-header", "page-header", "main-header", "top-bar"]
  | .nav => ["nav", "navbar", "navigation", "menu", "main-menu", "top-nav"]
  | .main => ["main", "content", "main-content", "primary-content"]
  | .aside => ["aside", "sidebar", "side-bar", "secondary-content"]
  | .footer => ["footer", "site-footer", "page-footer", "bottom-bar"]
  | .section => ["section"]
  | .article => ["article", "post", "entry"]
  | .figure => ["figure", "image", "media"]
  | .form => ["form", "search-form", "login-form"]
  | .table => ["table", "data-table"]
  | .list => ["list", "items", "listing"]
  | .card => ["card", "panel", "box", "tile"]
  | .hero => ["hero", "banner", "jumbotron", "showcase"]
  | .none => []

/-- The name that components of a kind start with. -/
def componentName : SectionKind → String
  | .header => "Header"
  | .nav => "Navigation"
  | .main => "MainContent"
  | .aside => "Sidebar"
  | .footer => "Footer"
  | .section => "Section"
  | .article => "Article"
  | .figure => "Figure"
  | .form => "Form"
  | .table => "Table"
  | .list => "List"
  | .card => "Card"
  | .hero => "Hero"
  | .none => "Component"

/-- The kind that an element name stands for by itself. -/
def ofTag : String → SectionKind
  | "header" | "masthead" => .header
  | "nav" | "navigation" => .nav
  | "main" => .main
  | "article" => .article
  | "aside" | "sidebar" => .aside
  | "footer" => .footer
  | "section" => .section
  | "figure" => .figure
  | "form" => .form
  | "table" => .table
  | "ul" | "ol" | "dl" => .list
  | _ => .none

end SectionKind

/-- A rule of the user's own: elements that a selector means are sections of a kind. -/
structure SectionRule where
  kind : SectionKind
  selector : String
  leastConfidence : Float := 0.0
  componentName : Option String := none

/-- A section of a page: its node, the name of its component, and how sure that is. -/
structure PageSection where
  kind : SectionKind
  node : Node
  componentName : String
  confidence : Float
  reasoning : String

namespace PageSection

/-- All nodes of a section. -/
def nodes (s : PageSection) : List Node := s.node.preorder

/-- A section holds the node of an id. -/
def holds (s : PageSection) (id : String) : Bool := s.nodes.any fun n => n.id == id

end PageSection

/-- The words of a text, cut at all but ASCII letters and digits, each with a capital. -/
def capitalWords (s : String) : String :=
  let spaced := s.toList.map fun c => if isAsciiAlnum c then c else ' '
  String.ofList ((wordsOf spaced).flatMap capitalize)

/-- The number after the last dash of an id, zero where there is none. -/
def idNumber (id : String) : Int :=
  let characters := id.toList
  if characters.contains '-' then
    (readInt? (String.ofList (characters.reverse.takeWhile (· != '-')).reverse)).getD 0
  else 0

end Componentry
