/-!
# Prefixes, occurrences and replacement

Searching a text for a literal text. A replacement goes from left to right and never looks inside
what it has just replaced; joining and cutting at one character undo each other.
-/

set_option autoImplicit false

namespace Componentry.Text

/-- What follows a literal start, if the characters start so. -/
def restAfter? : List Char → List Char → Option (List Char)
  | [], s => some s
  | _ :: _, [] => none
  | a :: literal, c :: s => if a == c then restAfter? literal s else none

/-- The rest of a text after a literal start, if it starts so. -/
def after? (start s : String) : Option String :=
  (restAfter? start.toList s.toList).map String.ofList

/-- A text starts with another. -/
def startsWith (s start : String) : Bool := start.toList.isPrefixOf s.toList

/-- A text ends with another. -/
def endsWith (s ending : String) : Bool := ending.toList.isSuffixOf s.toList

/-- A literal occurs somewhere in a text; the empty literal occurs in every text. -/
def occursIn (literal : List Char) : List Char → Bool
  | [] => literal.isEmpty
  | c :: rest => literal.isPrefixOf (c :: rest) || occursIn literal rest

/-- A text contains another. -/
def contains (s literal : String) : Bool := occursIn literal.toList s.toList

/-- Replaces the occurrences of a non-empty literal; the count says how many characters still
belong to the occurrence replaced last. -/
def replaceFrom (literal by' : List Char) : Nat → List Char → List Char
  | _, [] => []
  | skip + 1, _ :: rest => replaceFrom literal by' skip rest
  | 0, c :: rest =>
    if literal.isPrefixOf (c :: rest) then
      by' ++ replaceFrom literal by' (literal.length - 1) rest
    else c :: replaceFrom literal by' 0 rest

/-- Replaces every occurrence of a literal, an empty one being replaced nowhere. -/
def replace (s literal by' : String) : String :=
  if literal.toList.isEmpty then s
  else String.ofList (replaceFrom literal.toList by'.toList 0 s.toList)

/-- Replaces characters by texts one after the other, each of them in the whole text that the one
before has left. -/
def replaceEach (s : String) (l : List (Char × String)) : String :=
  l.foldl (fun s (c, by') => replace s (String.ofList [c]) by') s

/-- What comes before the first occurrence of a literal and what comes after it. -/
def cutAt (literal : List Char) : List Char → Option (List Char × List Char)
  | [] => if literal.isEmpty then some ([], []) else none
  | c :: rest =>
    match restAfter? literal (c :: rest) with
    | some tail => some ([], tail)
    | none => (cutAt literal rest).map fun (before, tail) => (c :: before, tail)

/-- Concatenates texts with a separator between them. -/
def join (separator : String) : List String → String
  | [] => ""
  | [s] => s
  | s :: t :: rest => s ++ separator ++ join separator (t :: rest)

/-- Concatenates texts. -/
def concat (parts : List String) : String := String.ofList (parts.flatMap String.toList)

/-- The first characters of a text. -/
def takeFirst (s : String) (n : Nat) : String := String.ofList (s.toList.take n)

/-- All but the last characters of a text. -/
def dropLast (s : String) (n : Nat) : String :=
  String.ofList (s.toList.take (s.toList.length - n))

/-- All but the first characters of a text. -/
def dropFirst (s : String) (n : Nat) : String := String.ofList (s.toList.drop n)

/-- The number of characters of a text. -/
def size (s : String) : Nat := s.toList.length

/-- The order of texts by the numbers of their characters. -/
def le (s t : String) : Bool := !(decide (t < s))

/-- Texts in that order, each once. -/
def sortedDistinct (l : List String) : List String := (l.eraseDups).mergeSort le

/-- A rest after a literal is what the literal has to be followed by to give the text. -/
theorem append_of_restAfter? :
    ∀ {literal s tail : List Char}, restAfter? literal s = some tail → literal ++ tail = s
  | [], s, tail, h => by
    cases h
    rfl
  | _ :: _, [], _, h => by cases h
  | a :: literal, c :: s, tail, h => by
    rw [restAfter?] at h
    split at h
    · next he =>
      rw [beq_iff_eq] at he
      subst he
      rw [List.cons_append, append_of_restAfter? h]
    · cases h

/-- A cut gives back the text around the literal. -/
theorem append_of_cutAt {literal : List Char} :
    ∀ {s before tail : List Char}, cutAt literal s = some (before, tail) →
      before ++ literal ++ tail = s
  | [], before, tail, h => by
    rw [cutAt] at h
    split at h
    · next he => cases h; simpa using he
    · cases h
  | c :: rest, before, tail, h => by
    rw [cutAt] at h
    split at h
    · next t ht =>
      cases h
      simpa using append_of_restAfter? ht
    · obtain ⟨⟨b, t⟩, hb, he⟩ := Option.map_eq_some_iff.1 h
      cases he
      simp [← append_of_cutAt hb]

end Componentry.Text
