import Componentry.Stylesheet.Rule
import Componentry.Decimal
import Componentry.Fault

/-!
# Utility classes

Many declarations have a class of their own that stands for them: common values of some properties,
distances on a scale, and a few values by rule. An important value is marked on its class.
-/

set_option autoImplicit false

namespace Componentry.Stylesheet
open Componentry.Text

/-- The classes for distances. -/
def spacingScale : List (String × String) := [
  ("0", "0"), ("4px", "1"), ("0.25rem", "1"), ("8px", "2"), ("0.5rem", "2"), ("12px", "3"),
  ("0.75rem", "3"), ("16px", "4"), ("1rem", "4"), ("24px", "6"), ("1.5rem", "6"), ("32px", "8"),
  ("2rem", "8")]

/-- The classes for values of properties. -/
def valueClasses : List (String × List (String × String)) := [
  ("display", [("flex", "flex"), ("grid", "grid"), ("block", "block"), ("inline", "inline"),
    ("inline-block", "inline-block"), ("inline-flex", "inline-flex"), ("none", "hidden")]),
  ("flex-direction", [("row", "flex-row"), ("column", "flex-col"),
    ("row-reverse", "flex-row-reverse"), ("column-reverse", "flex-col-reverse")]),
  ("flex-wrap", [("wrap", "flex-wrap"), ("nowrap", "flex-nowrap")]),
  ("position", [("static", "static"), ("fixed", "fixed"), ("absolute", "absolute"),
    ("relative", "relative"), ("sticky", "sticky")]),
  ("overflow", [("hidden", "overflow-hidden"), ("scroll", "overflow-scroll"),
    ("auto", "overflow-auto"), ("visible", "overflow-visible")]),
  ("overflow-x", [("hidden", "overflow-x-hidden"), ("scroll", "overflow-x-scroll"),
    ("auto", "overflow-x-auto")]),
  ("overflow-y", [("hidden", "overflow-y-hidden"), ("scroll", "overflow-y-scroll"),
    ("auto", "overflow-y-auto")]),
  ("text-align", [("left", "text-left"), ("center", "text-center"), ("right", "text-right"),
    ("justify", "text-justify")]),
  ("color", [("black", "text-black"), ("white", "text-white"), ("red", "text-red-500"),
    ("blue", "text-blue-500"), ("green", "text-green-500")]),
  ("background-color", [("black", "bg-black"), ("white", "bg-white"), ("red", "bg-red-500"),
    ("blue", "bg-blue-500"), ("transparent", "bg-transparent")]),
  ("font-weight", [("normal", "font-normal"), ("bold", "font-bold"), ("400", "font-normal"),
    ("500", "font-medium"), ("600", "font-semibold"), ("700", "font-bold")]),
  ("border-radius", [("4px", "rounded"), ("8px", "rounded-lg"), ("12px", "rounded-xl"),
    ("16px", "rounded-2xl"), ("9999px", "rounded-full"), ("50%", "rounded-full")]),
  ("box-shadow", [("0 1px 2px 0 rgba(0, 0, 0, 0.05)", "shadow-sm"),
    ("0 2px 4px rgba(0,0,0,0.1)", "shadow-md"),
    ("0 4px 6px -1px rgba(0, 0, 0, 0.1)", "shadow-lg"),
    ("0 10px 15px -3px rgba(0, 0, 0, 0.1)", "shadow-xl"), ("none", "shadow-none")]),
  ("align-items", [("start", "items-start"), ("end", "items-end"), ("center", "items-center"),
    ("stretch", "items-stretch"), ("baseline", "items-baseline"), ("flex-start", "items-start"),
    ("flex-end", "items-end")]),
  ("justify-content", [("start", "justify-start"), ("end", "justify-end"),
    ("center", "justify-center"), ("flex-start", "justify-start"), ("flex-end", "justify-end"),
    ("space-between", "justify-between"), ("space-around", "justify-around"),
    ("space-evenly", "justify-evenly")]),
  ("width", [("100%", "w-full"), ("50%", "w-1/2"), ("25%", "w-1/4"), ("33%", "w-1/3"),
    ("66%", "w-2/3"), ("75%", "w-3/4"), ("auto", "w-auto")]),
  ("height", [("100%", "h-full"), ("100px", "h-25"), ("auto", "h-auto"), ("100vh", "h-screen")]),
  ("grid-template-columns", [("1fr 1fr", "grid-cols-2"), ("1fr 1fr 1fr", "grid-cols-3"),
    ("repeat(2, 1fr)", "grid-cols-2"), ("repeat(3, 1fr)", "grid-cols-3"),
    ("repeat(4, 1fr)", "grid-cols-4")]),
  ("cursor", [("pointer", "cursor-pointer"), ("default", "cursor-default")])]

/-- What the classes for distances of a property start with. -/
def spacingStarts : List (String × String) := [
  ("padding", "p"), ("padding-top", "pt"), ("padding-right", "pr"), ("padding-bottom", "pb"),
  ("padding-left", "pl"), ("margin", "m"), ("margin-top", "mt"), ("margin-right", "mr"),
  ("margin-bottom", "mb"), ("margin-left", "ml"), ("gap", "gap")]

/-- The properties that say how far an element is from an edge. -/
def edges : List String := ["top", "right", "bottom", "left"]

/-- Digits with at most one point among or before them. -/
def isPlainNumber (s : List Char) : Bool :=
  match s.dropWhile isDecimal with
  | [] => !s.isEmpty
  | '.' :: fraction => !fraction.isEmpty && fraction.all isDecimal
  | _ => false

/-- The class for a share of one, in percent, which has to be finite. -/
def opacityClass? (value : String) : Except Fault (Option String) :=
  match if isPlainNumber value.toList then Decimal.readFloat? value else none with
  | none => .ok none
  | some x =>
    match Decimal.wholeOf? (x * 100) with
    | some n => .ok (some ("opacity-" ++ intText n))
    | none => .error (.number .infinite)

/-- The class for a value that has one by rule. -/
def classByRule? (property value : String) : Except Fault (Option String) :=
  match property with
  | "margin" => .ok (if value == "auto" then some "mx-auto" else none)
  | "opacity" => opacityClass? value
  | "border" => .ok (if contains value "solid" then some "border" else none)
  | _ => .ok none

/-- The class for a value of a property. -/
def classOf? (property value : String) : Except Fault (Option String) :=
  match (valueClasses.lookup property).bind fun classes => classes.lookup value with
  | some c => .ok (some c)
  | none =>
    match spacingStarts.lookup property, spacingScale.lookup value with
    | some start, some step => .ok (some (start ++ "-" ++ step))
    | _, _ =>
      if edges.contains property && (value == "0" || value == "auto") then
        .ok (some (property ++ "-" ++ value))
      else classByRule? property value

/-- The class for a declaration. -/
def utilityClass? (property value : String) : Except Fault (Option String) :=
  let (plain, important) := splitImportant value
  (classOf? (lower property) plain).map fun class? =>
    class?.map fun c => if important then "!" ++ c else c

end Componentry.Stylesheet
