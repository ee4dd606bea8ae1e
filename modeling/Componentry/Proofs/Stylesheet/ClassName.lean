import Componentry.Proofs.Text.Ascii
import Componentry.Proofs.Text.Numeral
import Componentry.Proofs.Text.Pieces
import Componentry.Stylesheet.Conversion

/-!
# Class names

A class name is a front, the start of a digest and, from the second time on, a number. The digests
of one conversion have the same length, and a front that is made from the name of an element holds
no hyphen; so a class name tells the name that was numbered and the number, whatever digests it is
made from.
-/

set_option autoImplicit false

namespace Componentry
open Componentry.Text Componentry.Stylesheet

/-! ## Digests -/

namespace Digest

@[simp] theorem length_hexWord (w : UInt32) : (hexWord w).length = 8 := by simp [hexWord]

@[simp] theorem length_ofText (s : String) : (ofText s).toList.length = 40 := by
  simp [ofText, ofBytes]

/-- The start of a digest is as long as that of any other. -/
theorem length_start (s t : String) (n : Int) :
    (start s n).toList.length = (start t n).toList.length := by
  cases n <;> simp only [start, String.toList_ofList, List.length_take, length_ofText]

/-- A digit of a digest is no blank. -/
theorem isBlank_hexDigit {n : Nat} (h : n < 16) : isBlank (hexDigit n) = false := by
  have checked : ∀ m : Fin 16, isBlank (hexDigit m) = false := by decide
  exact checked ⟨n, h⟩

/-- The start of a digest has no blank. -/
theorem isBlank_of_mem_start {s : String} {n : Int} {c : Char} (h : c ∈ (start s n).toList) :
    isBlank c = false := by
  have mem : c ∈ (ofText s).toList := by
    cases n <;> simp only [start, String.toList_ofList] at h <;> exact List.mem_of_mem_take h
  rw [ofText, String.toList_ofList, ofBytes, List.mem_flatMap] at mem
  obtain ⟨w, -, digit⟩ := mem
  rw [hexWord, List.mem_map] at digit
  obtain ⟨i, -, rfl⟩ := digit
  exact isBlank_hexDigit (Nat.mod_lt _ (by decide))

end Digest

namespace StyleStrategy

/-! ## Fronts -/

/-- What stands before the digest in a class name. -/
def classFront (s : StyleStrategy) (o : StyleOptions) (tag : String) : String :=
  match s with
  | .scoped => if o.classStart == "" then "_" else o.classStart ++ "_"
  | .plain | .utility => (if o.classStart == "" then classStartOf tag else o.classStart) ++ "-"

/-- How many digits of a digest stand in a class name. -/
def digestLength (s : StyleStrategy) (o : StyleOptions) : Int :=
  match s with
  | .scoped => max o.digits 6
  | .plain | .utility => o.digits

/-- A class is its front and the start of the digest of its key. -/
theorem baseClass_eq (s : StyleStrategy) (o : StyleOptions) (style : ElementStyle) (key : String) :
    s.baseClass o style key =
      s.classFront o style.tag ++ Digest.start key (s.digestLength o) := by
  cases s <;> simp only [baseClass, classFront, digestLength]
  split <;> rfl

/-- A character of the start that is made from the name of an element. -/
theorem of_mem_classStartOf {tag : String} {c : Char} (h : c ∈ (classStartOf tag).toList) :
    isBlank c = false ∧ c ≠ '-' := by
  simp only [classStartOf] at h
  split at h
  · have checked : ∀ d ∈ "class".toList, isBlank d = false ∧ d ≠ '-' :=
      Lists.forall_mem_of_all (by decide)
    exact checked c h
  · rw [String.toList_ofList] at h
    have kept := (List.mem_filter.1 (List.mem_of_mem_take h)).2
    have ascii : c.toNat < 128 := by
      rw [Bool.or_eq_true, Bool.and_eq_true, decide_eq_true_eq, decide_eq_true_eq] at kept
      rcases kept with ⟨-, below⟩ | digit
      · have bound : c.toNat ≤ 'z'.toNat := below
        exact Nat.lt_of_le_of_lt bound (by decide)
      · exact toNat_lt_of_isDigit digit
    exact of_ascii (p := fun c => ((decide ('a' ≤ c) && decide (c ≤ 'z')) || c.isDigit) = true →
      isBlank c = false ∧ c ≠ '-') (by decide) ascii kept

/-- The front of a class name is the same for all elements, or ends at its first hyphen. -/
theorem classFront_cases (s : StyleStrategy) (o : StyleOptions) :
    (∀ tag tag', s.classFront o tag = s.classFront o tag') ∨
      ∀ tag, ∃ start, '-' ∉ start ∧ (s.classFront o tag).toList = start ++ ['-'] := by
  have made : o.classStart = "" → ∀ tag, '-' ∉ (classStartOf tag).toList ∧
      ((if o.classStart == "" then classStartOf tag else o.classStart) ++ "-").toList =
        (classStartOf tag).toList ++ ['-'] := by
    intro empty tag
    refine ⟨fun mem => (of_mem_classStartOf mem).2 rfl, ?_⟩
    simp [empty]
  by_cases empty : o.classStart = ""
  · cases s
    · exact .inl fun _ _ => rfl
    · exact .inr fun tag => ⟨_, made empty tag⟩
    · exact .inr fun tag => ⟨_, made empty tag⟩
  · left
    intro tag tag'
    cases s <;> simp [classFront, empty]

/-- The front of a class is not empty. -/
theorem classFront_ne_nil (s : StyleStrategy) (o : StyleOptions) (tag : String) :
    (s.classFront o tag).toList ≠ [] := by
  cases s <;> simp only [classFront]
  · split <;> simp
  · simp
  · simp

/-- The front of a class has no blank, where what it starts with has none. -/
theorem isBlank_of_mem_classFront {s : StyleStrategy} {o : StyleOptions}
    (solid : ∀ c ∈ o.classStart.toList, isBlank c = false) {tag : String} {c : Char}
    (h : c ∈ (s.classFront o tag).toList) : isBlank c = false := by
  have mark : ∀ t : String, (∀ d ∈ t.toList, isBlank d = false) → ∀ u : String,
      (∀ d ∈ u.toList, isBlank d = false) → ∀ d ∈ (t ++ u).toList, isBlank d = false := by
    intro t ht u hu d hd
    rw [String.toList_append, List.mem_append] at hd
    exact hd.elim (ht d) (hu d)
  have start : ∀ d ∈ (if o.classStart == "" then classStartOf tag else o.classStart).toList,
      isBlank d = false := by
    split
    · exact fun d hd => (of_mem_classStartOf hd).1
    · exact solid
  cases s <;> simp only [classFront] at h
  · split at h
    · have checked : ∀ d ∈ "_".toList, isBlank d = false := Lists.forall_mem_of_all (by decide)
      exact checked c h
    · exact mark _ solid "_" (Lists.forall_mem_of_all (by decide)) c h
  · exact mark _ start "-" (Lists.forall_mem_of_all (by decide)) c h
  · exact mark _ start "-" (Lists.forall_mem_of_all (by decide)) c h

/-! ## Numbers -/

/-- A class name that is given for so many a time. -/
def numbered (s : StyleStrategy) (base : String) (count : Nat) : String :=
  if count == 1 then base else base ++ s.numberSeparator ++ natText count

/-- What stands behind the name that is numbered. -/
def numbering (s : StyleStrategy) (count : Nat) : List Char :=
  if count == 1 then [] else s.numberSeparator.toList ++ (natText count).toList

/-- A numbered class is the class and what numbers it. -/
theorem toList_numbered (s : StyleStrategy) (base : String) (count : Nat) :
    (s.numbered base count).toList = base.toList ++ s.numbering count := by
  unfold numbered numbering
  split
  · rw [List.append_nil]
  · rw [String.toList_append, String.toList_append, List.append_assoc]

/-- There is something between a class and its number. -/
theorem numberSeparator_ne_nil (s : StyleStrategy) : s.numberSeparator.toList ≠ [] := by
  cases s <;> decide

/-- What numbers a class tells the number. -/
theorem numbering_inj {s : StyleStrategy} {m n : Nat} (h : s.numbering m = s.numbering n) :
    m = n := by
  unfold numbering at h
  split at h <;> split at h
  · next hm hn => rw [beq_iff_eq.1 hm, beq_iff_eq.1 hn]
  · exact absurd (List.append_eq_nil_iff.1 h.symm).1 s.numberSeparator_ne_nil
  · exact absurd (List.append_eq_nil_iff.1 h).1 s.numberSeparator_ne_nil
  · exact natText_inj.1 (String.toList_inj.1 (List.append_cancel_left h))

/-- Names of one length and their numbers are told apart. -/
theorem numbered_inj_of_length {s : StyleStrategy} {a b : String} {m n : Nat}
    (size : a.toList.length = b.toList.length) (h : s.numbered a m = s.numbered b n) :
    a = b ∧ m = n := by
  have chars := congrArg String.toList h
  rw [toList_numbered, toList_numbered] at chars
  obtain ⟨front, behind⟩ := List.append_inj chars size
  exact ⟨String.toList_inj.1 front, numbering_inj behind⟩

/-- A class name tells what was numbered and the number. -/
theorem numbered_baseClass_inj {s : StyleStrategy} {o : StyleOptions} {a b : ElementStyle}
    {k l : String} {m n : Nat}
    (h : s.numbered (s.baseClass o a k) m = s.numbered (s.baseClass o b l) n) :
    s.baseClass o a k = s.baseClass o b l ∧ m = n := by
  have fronts : s.classFront o a.tag = s.classFront o b.tag := by
    rcases s.classFront_cases o with same | hyphen
    · exact same a.tag b.tag
    · obtain ⟨p, hp, front⟩ := hyphen a.tag
      obtain ⟨q, hq, front'⟩ := hyphen b.tag
      have chars := congrArg String.toList h
      simp only [toList_numbered, baseClass_eq, String.toList_append, front, front',
        List.append_assoc, List.cons_append] at chars
      have cut := congrArg (cutAt ['-']) chars
      rw [cutAt_append_cons _ hp, cutAt_append_cons _ hq, Option.some.injEq,
        Prod.mk.injEq] at cut
      rw [← String.toList_inj, front, front', cut.1]
  refine numbered_inj_of_length ?_ h
  rw [baseClass_eq, baseClass_eq, fronts, String.toList_append, String.toList_append,
    List.length_append, List.length_append, Digest.length_start k l]

/-- No class name is empty. -/
theorem numbered_baseClass_ne_empty (s : StyleStrategy) (o : StyleOptions) (a : ElementStyle)
    (k : String) (n : Nat) : s.numbered (s.baseClass o a k) n ≠ "" := by
  have chars := toList_numbered s (s.baseClass o a k) n
  rw [baseClass_eq, String.toList_append] at chars
  intro empty
  rw [← baseClass_eq, empty] at chars
  exact classFront_ne_nil s o a.tag
    (List.append_eq_nil_iff.1 (List.append_eq_nil_iff.1 chars.symm).1).1

/-- A class name is a word. -/
theorem isWord_numbered {s : StyleStrategy} {o : StyleOptions}
    (solid : ∀ c ∈ o.classStart.toList, isBlank c = false) (a : ElementStyle) (k : String)
    (n : Nat) : IsWord (s.numbered (s.baseClass o a k) n) := by
  have chars := toList_numbered s (s.baseClass o a k) n
  rw [baseClass_eq, String.toList_append] at chars
  constructor
  · exact numbered_baseClass_ne_empty s o a k n
  · intro c hc
    rw [baseClass_eq, chars, List.mem_append, List.mem_append] at hc
    rcases hc with (front | digest) | behind
    · exact isBlank_of_mem_classFront solid front
    · exact Digest.isBlank_of_mem_start digest
    · unfold numbering at behind
      split at behind
      · cases behind
      · rcases List.mem_append.1 behind with separator | digit
        · have checked : ∀ d ∈ s.numberSeparator.toList, isBlank d = false := by
            cases s <;> exact Lists.forall_mem_of_all (by decide)
          exact checked c separator
        · have digit := isDigit_of_mem_natText digit
          exact of_ascii (p := fun c => c.isDigit = true → isBlank c = false) (by decide)
            (toNat_lt_of_isDigit digit) digit

end StyleStrategy
end Componentry
