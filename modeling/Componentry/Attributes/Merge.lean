import Componentry.Attributes
import Componentry.Text.Slice

/-!
# Merging bags

Bags are merged from left to right: later plain attributes and style entries replace earlier ones
in their place, class names and events follow one another.
-/

set_option autoImplicit false

namespace Componentry.Attributes
open Componentry.Text

/-- A bag merged into what was merged before. -/
def mergeStep (merged a : Attributes) : Attributes :=
  { plain := merged.plain.putAll a.plain.entries
    style :=
      match a.style with
      | none => merged.style
      | some style =>
        if style.isEmpty then merged.style
        else some ((merged.style.getD Dict.empty).putAll style.entries)
    className :=
      match a.className with
      | none => merged.className
      | some name =>
        if name.isEmpty then merged.className
        else some (join " " (merged.classes ++ a.classes))
    events := merged.events ++ a.events
    rawMarkup := merged.rawMarkup || a.rawMarkup }

/-- The merge of bags. -/
def merge (bags : List Attributes) : Attributes := bags.foldl mergeStep {}

end Componentry.Attributes

/-! ## Bags in memory

A bag in memory refers to the dictionaries and the list that it is made of, which may be shared with
other bags and change in place. A merge makes a bag of its own, and changes that in place for one
bag after the other: plain attributes are put into its dictionary, a style takes the place of the
one before, and copies of the handlers are put behind its own.
-/

namespace Componentry
open Componentry.Text

/-- A bag in memory: where its dictionaries and its list of handlers are. -/
structure HeldBag where
  plain : Nat
  style : Option Nat := none
  className : Option String := none
  events : Nat
  rawMarkup : Bool := false
deriving Repr, DecidableEq

/-- What is in memory, each thing under its place in a list. A list of handlers holds the places of
these. -/
structure BagHeap where
  bags : List HeldBag := []
  plains : List (Dict AttributeValue) := []
  styles : List (Dict String) := []
  events : List (List Nat) := []
  handlers : List Handler := []

namespace BagHeap

/-- The entries of a dictionary of plain attributes. -/
def plainEntries (h : BagHeap) (b : HeldBag) : List (String × AttributeValue) :=
  ((h.plains[b.plain]?).getD Dict.empty).entries

/-- The style of a bag, if it refers to one. -/
def styleOf? (h : BagHeap) (b : HeldBag) : Option (Dict String) :=
  b.style.bind fun i => h.styles[i]?

/-- The handlers of a bag. -/
def handlersOf (h : BagHeap) (b : HeldBag) : List Handler :=
  ((h.events[b.events]?).getD []).filterMap fun i => h.handlers[i]?

/-- A new bag with nothing in it, and where it is. -/
def newBag (h : BagHeap) : Nat × BagHeap :=
  (h.bags.length, { h with
    bags := h.bags ++ [{ plain := h.plains.length, events := h.events.length }]
    plains := h.plains ++ [Dict.empty]
    events := h.events ++ [[]] })

/-- Changes a bag in place. -/
def changeBag (r : Nat) (f : HeldBag → HeldBag) (h : BagHeap) : BagHeap :=
  { h with bags := h.bags.modify r f }

/-- Puts the plain attributes of a bag into the dictionary of the merged one. -/
def takePlain (merged b : HeldBag) (h : BagHeap) : BagHeap :=
  { h with plains := h.plains.modify merged.plain fun d => d.putAll (h.plainEntries b) }

/-- Gives the merged bag a new style: its own with the entries of a bag. -/
def takeStyle (r : Nat) (merged b : HeldBag) (h : BagHeap) : BagHeap :=
  let style := (h.styleOf? b).getD Dict.empty
  if style.isEmpty then h
  else
    let fresh := ((h.styleOf? merged).getD Dict.empty).putAll style.entries
    { h with styles := h.styles ++ [fresh] }.changeBag r fun m =>
      { m with style := some h.styles.length }

/-- Gives the merged bag the class names of a bag behind its own. -/
def takeClass (r : Nat) (merged b : HeldBag) (h : BagHeap) : BagHeap :=
  let name := b.className.getD ""
  if name.isEmpty then h
  else h.changeBag r fun m =>
    { m with className := some (join " " (words (merged.className.getD "") ++ words name)) }

/-- Puts copies of the handlers of a bag behind those of the merged one. -/
def takeEvents (merged b : HeldBag) (h : BagHeap) : BagHeap :=
  let copies := h.handlersOf b
  { h with
    handlers := h.handlers ++ copies
    events := h.events.modify merged.events fun refs =>
      refs ++ List.range' h.handlers.length copies.length }

/-- Does something for the merged bag and another one, as these are now. -/
def withBags (r i : Nat) (f : HeldBag → HeldBag → BagHeap → BagHeap) (h : BagHeap) : BagHeap :=
  match h.bags[r]?, h.bags[i]? with
  | some merged, some b => f merged b h
  | _, _ => h

/-- Merges a bag into the merged one. -/
def mergeBag (r : Nat) (h : BagHeap) (i : Nat) : BagHeap :=
  (((h.withBags r i takePlain).withBags r i (takeStyle r)).withBags r i (takeClass r)).withBags r i
    takeEvents

/-- Merges bags into a new one, and says where that is. -/
def merge (refs : List Nat) (h : BagHeap) : Nat × BagHeap :=
  let (r, h) := h.newBag
  let h := refs.foldl (mergeBag r) h
  (r, h.changeBag r fun m =>
    { m with rawMarkup := refs.any fun i => (h.bags[i]?).any HeldBag.rawMarkup })

end BagHeap
end Componentry
