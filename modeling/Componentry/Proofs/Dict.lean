import Componentry.Dict
import Componentry.Sum
import Mathlib.Data.List.Nodup
import Mathlib.Data.List.Perm.Basic

/-!
# Laws of dictionaries

A key answers with what stands beside it in the one entry it has, so dictionaries that answer alike
have the same entries up to their order. Entries without a repeated key make up their dictionary as
they stand.
-/

set_option autoImplicit false

namespace Componentry.Dict
variable {α : Type}

/-- A key that no two entries share is looked up in its entry. -/
theorem lookup_eq_some_iff_mem {k : String} {v : α} {l : List (String × α)}
    (nodup : (l.map Prod.fst).Nodup) : l.lookup k = some v ↔ (k, v) ∈ l := by
  induction l with
  | nil => simp
  | cons e rest ih =>
    obtain ⟨k', v'⟩ := e
    rw [List.map_cons, List.nodup_cons] at nodup
    by_cases same : k = k'
    · subst same
      have once : (k, v) ∉ rest := fun mem => nodup.1 (List.mem_map.2 ⟨(k, v), mem, rfl⟩)
      simp only [List.lookup_cons_self, Option.some.injEq, List.mem_cons, Prod.mk.injEq, true_and,
        once, or_false]
      exact eq_comm
    · have other : (k == k') = false := by simpa using same
      rw [List.lookup_cons, other, List.mem_cons, Prod.mk.injEq]
      simp only [same, false_and, false_or]
      exact ih nodup.2

/-- What a dictionary holds under a key is what stands there among its entries. -/
theorem get?_eq_some_iff_mem {d : Dict α} {k : String} {v : α} :
    d.get? k = some v ↔ (k, v) ∈ d.entries :=
  lookup_eq_some_iff_mem d.distinct

/-- Dictionaries that answer alike have the same entries, in some order. -/
theorem perm_entries_iff {d e : Dict α} :
    d.entries.Perm e.entries ↔ ∀ k, d.get? k = e.get? k := by
  constructor
  · intro perm k
    ext v
    rw [get?_eq_some_iff_mem, get?_eq_some_iff_mem, perm.mem_iff]
  · intro alike
    rw [List.perm_ext_iff_of_nodup (List.Nodup.of_map Prod.fst d.distinct)
      (List.Nodup.of_map Prod.fst e.distinct)]
    intro ⟨k, v⟩
    rw [← get?_eq_some_iff_mem, ← get?_eq_some_iff_mem, alike k]

/-- A dictionary says the same as itself. -/
theorem beq_self [BEq α] [LawfulBEq α] (d : Dict α) : (d == d) = true := by
  show sameEntries d d = true
  rw [sameEntries, beq_self_eq_true, Bool.true_and, List.all_eq_true]
  intro e he
  exact beq_iff_eq.2 (get?_eq_some_iff_mem.2 he)

/-- A key that was taken out holds nothing, and the others hold what they held. -/
theorem get?_erase (d : Dict α) (k k' : String) :
    (d.erase k).get? k' = if k' = k then none else d.get? k' := by
  ext v
  rw [get?_eq_some_iff_mem, erase, List.mem_filter]
  by_cases same : k' = k
  · simp [same]
  · simp [same, get?_eq_some_iff_mem]

/-- A key that is not there yet is set at the end. -/
theorem putEntry_of_not_mem {k : String} {v : α} {l : List (String × α)}
    (fresh : k ∉ l.map Prod.fst) : putEntry k v l = l ++ [(k, v)] := by
  induction l with
  | nil => rfl
  | cons e rest ih =>
    obtain ⟨k', v'⟩ := e
    rw [List.map_cons, List.mem_cons, not_or] at fresh
    rw [putEntry, if_neg (Ne.symm fresh.1), ih fresh.2, List.cons_append]

/-- A key that was there gets its value in its place. -/
theorem putEntry_of_mem {k : String} {v : α} {l : List (String × α)}
    (nodup : (l.map Prod.fst).Nodup) (known : k ∈ l.map Prod.fst) :
    putEntry k v l = l.map fun e => if e.1 = k then (k, v) else e := by
  induction l with
  | nil => cases known
  | cons e rest ih =>
    obtain ⟨k', v'⟩ := e
    rw [List.map_cons, List.nodup_cons] at nodup
    rw [putEntry, List.map_cons]
    by_cases same : k' = k
    · subst same
      have others : rest.map (fun e => if e.1 = k' then (k', v) else e) = rest := by
        refine (List.map_congr_left fun e he => if_neg ?_).trans (List.map_id rest)
        exact fun same => nodup.1 (List.mem_map.2 ⟨e, he, same⟩)
      rw [if_pos rfl, if_pos rfl, others]
    · have known : k ∈ rest.map Prod.fst := (List.mem_cons.1 known).resolve_left (Ne.symm same)
      rw [if_neg same, if_neg same, ih nodup.2 known]

/-- An entry that is put again changes nothing. -/
theorem putEntry_of_lookup {k : String} {v : α} : ∀ {l : List (String × α)},
    l.lookup k = some v → putEntry k v l = l
  | [], known => by cases known
  | (k', v') :: rest, known => by
    rw [putEntry]
    split
    next same =>
      subst same
      rw [List.lookup_cons_self] at known
      cases known
      rfl
    next other =>
      rw [List.lookup_cons, beq_false_of_ne (Ne.symm other)] at known
      rw [putEntry_of_lookup known]

/-- An entry after a key was set is an entry from before, or the new one. -/
theorem mem_of_mem_putEntry {k : String} {v : α} {e : String × α} {l : List (String × α)}
    (h : e ∈ putEntry k v l) : e ∈ l ∨ e = (k, v) := by
  induction l with
  | nil => exact .inr (List.mem_singleton.1 h)
  | cons f rest ih =>
    obtain ⟨k', v'⟩ := f
    rw [putEntry] at h
    split at h
    · rcases List.mem_cons.1 h with same | mem
      · exact .inr same
      · exact .inl (List.mem_cons_of_mem _ mem)
    · rcases List.mem_cons.1 h with rfl | mem
      · exact .inl List.mem_cons_self
      · exact (ih mem).imp_left (List.mem_cons_of_mem _)

/-- The entries of a dictionary made from a list come from the list. -/
theorem mem_of_mem_putAll {e : String × α} {l : List (String × α)} {d : Dict α}
    (h : e ∈ (d.putAll l).entries) : e ∈ d.entries ∨ e ∈ l := by
  induction l generalizing d with
  | nil => exact .inl h
  | cons f rest ih =>
    rcases ih (d := d.put f.1 f.2) h with old | mem
    · rcases mem_of_mem_putEntry old with mem | rfl
      · exact .inl mem
      · exact .inr List.mem_cons_self
    · exact .inr (List.mem_cons_of_mem f mem)

/-- The entries of a dictionary made from a list are entries of the list. -/
theorem mem_of_mem_ofList {e : String × α} {l : List (String × α)} (h : e ∈ (ofList l).entries) :
    e ∈ l :=
  (mem_of_mem_putAll h).resolve_left List.not_mem_nil

/-- The keys after many were set are those from before and those that were set. -/
theorem mem_keys_putAll {k : String} {l : List (String × α)} {d : Dict α} :
    k ∈ (d.putAll l).keys ↔ k ∈ d.keys ∨ k ∈ l.map Prod.fst := by
  induction l generalizing d with
  | nil => simp [putAll]
  | cons e rest ih =>
    have step : d.putAll (e :: rest) = (d.put e.1 e.2).putAll rest := rfl
    have put : k ∈ (d.put e.1 e.2).keys ↔ k ∈ d.keys ∨ k = e.1 := by
      rw [keys_put]
      split
      next known => exact ⟨.inl, fun h => h.elim id (· ▸ known)⟩
      next => rw [List.mem_append, List.mem_singleton]
    rw [step, ih, put, List.map_cons, List.mem_cons, or_assoc]

/-- The keys of a dictionary made from a list are those of the list. -/
theorem mem_keys_ofList {k : String} {l : List (String × α)} :
    k ∈ (ofList l).keys ↔ k ∈ l.map Prod.fst := by
  rw [ofList, mem_keys_putAll, keys_empty]
  simp

/-- Entries with new and distinct keys are set one after another at the end. -/
theorem entries_putAll {l : List (String × α)} {d : Dict α}
    (nodup : ((d.entries ++ l).map Prod.fst).Nodup) : (d.putAll l).entries = d.entries ++ l := by
  induction l generalizing d with
  | nil => exact (List.append_nil d.entries).symm
  | cons e rest ih =>
    have fresh : e.1 ∉ d.entries.map Prod.fst := by
      rw [List.map_append, List.map_cons, List.nodup_append] at nodup
      exact fun mem => nodup.2.2 e.1 mem e.1 List.mem_cons_self rfl
    have put : (d.put e.1 e.2).entries = d.entries ++ [e] := putEntry_of_not_mem fresh
    have step := ih (d := d.put e.1 e.2) (by rwa [put, List.append_assoc])
    rw [put, List.append_assoc] at step
    exact step

/-- Entries without a repeated key are those of their dictionary. -/
theorem entries_ofList {l : List (String × α)} (nodup : (l.map Prod.fst).Nodup) :
    (ofList l).entries = l :=
  entries_putAll (d := empty) nodup

/-- Where a key was set there is an entry. -/
theorem putEntry_ne_nil (k : String) (v : α) (l : List (String × α)) : putEntry k v l ≠ [] := by
  intro empty
  have keys := keys_putEntry k v l
  rw [empty] at keys
  split at keys
  · next mem =>
    rw [← keys] at mem
    cases mem
  · exact List.append_ne_nil_of_right_ne_nil _ (List.cons_ne_nil k []) keys.symm

/-- Giving keys their values leaves a dictionary empty only where there are none. -/
theorem putAll_eq_nil_iff {l : List (String × α)} {d : Dict α} :
    (d.putAll l).entries = [] ↔ d.entries = [] ∧ l = [] := by
  induction l generalizing d with
  | nil => simp [putAll]
  | cons e rest ih =>
    have step : d.putAll (e :: rest) = (d.put e.1 e.2).putAll rest := rfl
    have some_ : (d.put e.1 e.2).entries ≠ [] := putEntry_ne_nil e.1 e.2 d.entries
    simp [step, ih, some_]

/-- A dictionary made from a list is empty when the list is. -/
theorem isEmpty_ofList {l : List (String × α)} : (ofList l).isEmpty = l.isEmpty := by
  rw [Bool.eq_iff_iff, isEmpty, List.isEmpty_iff, List.isEmpty_iff, ofList, putAll_eq_nil_iff]
  exact and_iff_right rfl

/-! ## Values given again -/

/-- Of two values set under one key the later stays, in the place of the first. -/
theorem putEntry_putEntry_self (k : String) (v w : α) : ∀ l : List (String × α),
    putEntry k w (putEntry k v l) = putEntry k w l
  | [] => by simp [putEntry]
  | (k', v') :: rest => by
    by_cases same : k' = k
    · rw [putEntry, if_pos same, putEntry, if_pos rfl, putEntry, if_pos same]
    · rw [putEntry, if_neg same, putEntry, if_neg same, putEntry, if_neg same,
        putEntry_putEntry_self k v w rest]

/-- A key that is there may get its value before or after another one. -/
theorem putEntry_comm {k k' : String} (v v' : α) (other : k' ≠ k) : ∀ {l : List (String × α)},
    k ∈ l.map Prod.fst → putEntry k v (putEntry k' v' l) = putEntry k' v' (putEntry k v l)
  | (j, w) :: rest, known => by
    by_cases here : j = k
    · subst here
      rw [putEntry, if_neg (Ne.symm other), putEntry, if_pos rfl, putEntry, if_pos rfl, putEntry,
        if_neg (Ne.symm other)]
    · have known : k ∈ rest.map Prod.fst :=
        (List.mem_cons.1 known).resolve_left (Ne.symm here)
      by_cases here' : j = k'
      · subst here'
        rw [putEntry, if_pos rfl, putEntry, if_neg here, putEntry, if_neg here, putEntry,
          if_pos rfl]
      · rw [putEntry, if_neg here', putEntry, if_neg here, putEntry, if_neg here, putEntry,
          if_neg here', putEntry_comm v v' other known]

/-- To set two lists in a row is to set the one, then the other. -/
theorem putAll_append (d : Dict α) (l m : List (String × α)) :
    d.putAll (l ++ m) = (d.putAll l).putAll m :=
  List.foldl_append

/-- A key that is there may get its value before or after other ones. -/
theorem put_putAll {d : Dict α} {k : String} (v : α) (known : k ∈ d.keys) {l : List (String × α)}
    (others : k ∉ l.map Prod.fst) : (d.putAll l).put k v = (d.put k v).putAll l := by
  induction l generalizing d with
  | nil => rfl
  | cons e l ih =>
    rw [List.map_cons, List.mem_cons, not_or] at others
    have comm : (d.put e.1 e.2).put k v = (d.put k v).put e.1 e.2 :=
      ext_entries (putEntry_comm v e.2 (Ne.symm others.1) known)
    have still : k ∈ (d.put e.1 e.2).keys := by
      rw [keys_put]
      split
      · exact known
      · exact List.mem_append_left _ known
    have step := ih still others.2
    rw [comm] at step
    exact step

/-- Entries among which a key is given a value give it that value last. -/
theorem putAll_putEntry (d : Dict α) (k : String) (v : α) {l : List (String × α)}
    (nodup : (l.map Prod.fst).Nodup) : d.putAll (putEntry k v l) = (d.putAll l).put k v := by
  induction l generalizing d with
  | nil => rfl
  | cons e l ih =>
    obtain ⟨j, w⟩ := e
    rw [List.map_cons, List.nodup_cons] at nodup
    by_cases here : j = k
    · subst here
      have known : j ∈ (d.put j w).keys := by
        rw [keys_put]
        split
        · assumption
        · exact List.mem_append_right _ (List.mem_singleton_self j)
      have again : (d.put j w).put j v = d.put j v := ext_entries (putEntry_putEntry_self j w v _)
      have last := put_putAll v known nodup.1
      rw [again] at last
      rw [putEntry, if_pos rfl]
      exact last.symm
    · rw [putEntry, if_neg here]
      exact ih (d.put j w) nodup.2

/-- Entries may be gathered in a dictionary before their keys are given their values. -/
theorem putAll_putAll (d e : Dict α) (l : List (String × α)) :
    d.putAll (e.putAll l).entries = (d.putAll e.entries).putAll l := by
  induction l generalizing e with
  | nil => rfl
  | cons x l ih =>
    have step := ih (e.put x.1 x.2)
    have first : d.putAll (e.put x.1 x.2).entries = (d.putAll e.entries).put x.1 x.2 :=
      putAll_putEntry d x.1 x.2 e.distinct
    rw [first] at step
    exact step

/-- To set a list, or the dictionary made from it, is the same: only the last value of a key
counts. -/
theorem putAll_ofList (d : Dict α) (l : List (String × α)) :
    d.putAll (ofList l).entries = d.putAll l :=
  putAll_putAll d empty l

/-- The dictionary made from the entries of a dictionary is that dictionary. -/
theorem ofList_entries (d : Dict α) : ofList d.entries = d :=
  ext_entries (entries_ofList d.distinct)

/-- Entries may be gathered in two dictionaries before they are gathered in one. -/
theorem ofList_append_ofList (l m : List (String × α)) :
    ofList ((ofList l).entries ++ (ofList m).entries) = ofList (l ++ m) := by
  have first : empty.putAll (ofList l).entries = ofList l := ofList_entries (ofList l)
  rw [ofList, putAll_append, first, putAll_ofList, ofList, ofList, putAll_append]

/-! ## Keys changed one after the other -/

/-- A key comes to what was changed for it, one change after the other. -/
theorem get?_foldl_alter {β : Type} (key : β → String) (change : β → Option α → α) (l : List β)
    (d : Dict α) (k : String) :
    (l.foldl (fun d x => d.alter (key x) (change x)) d).get? k =
      (l.filter fun x => key x == k).foldl (fun v x => some (change x v)) (d.get? k) := by
  induction l generalizing d with
  | nil => rfl
  | cons x l ih =>
    rw [List.foldl_cons, ih, alter, get?_put]
    by_cases here : key x = k
    · simp only [List.filter_cons, here, beq_self_eq_true, if_true, List.foldl_cons]
    · simp only [List.filter_cons, beq_iff_eq, if_neg here, if_neg (Ne.symm here)]

/-- Counting adds up how often a key comes. -/
theorem getD_get?_foldl_count {β : Type} (key : β → String) (l : List β) (k : String) :
    ((l.foldl (fun d x => d.alter (key x) fun n => n.getD 0 + 1) (empty : Dict Nat)).get? k).getD 0
      = (l.map key).count k := by
  have counted (l : List β) (n : Option Nat) :
      (l.foldl (fun n _ => some (n.getD 0 + 1)) n).getD 0 = n.getD 0 + l.length := by
    induction l generalizing n with
    | nil => rfl
    | cons x l ih =>
      rw [List.foldl_cons, ih, Option.getD_some, List.length_cons]
      omega
  rw [get?_foldl_alter key (fun _ n => n.getD 0 + 1), counted, get?_empty, Option.getD_none,
    Nat.zero_add, ← List.countP_eq_length_filter, List.count, List.countP_map]
  rfl

/-- A new value counts in the sum instead of the one that the key had. -/
theorem sumOf_putEntry (k : String) (v : Nat) : ∀ l : List (String × Nat),
    sumOf ((putEntry k v l).map Prod.snd) + (l.lookup k).getD 0 = sumOf (l.map Prod.snd) + v
  | [] => by rw [putEntry, List.lookup_nil, Option.getD_none]; exact Nat.add_comm v 0
  | (k', v') :: rest => by
    by_cases same : k' = k
    · subst same
      rw [putEntry, if_pos rfl, List.lookup_cons_self, Option.getD_some, List.map_cons,
        List.map_cons, sumOf_cons, sumOf_cons]
      omega
    · have other : (k == k') = false := by simpa using Ne.symm same
      have step := sumOf_putEntry k v rest
      rw [putEntry, if_neg same, List.lookup_cons, other, List.map_cons, List.map_cons, sumOf_cons,
        sumOf_cons, Nat.add_assoc, step, Nat.add_assoc]

/-- Counting one thing after the other, the counts add up to how many there are. -/
theorem sumOf_values_foldl_count {β : Type} (key : β → String) (l : List β) (d : Dict Nat) :
    sumOf (l.foldl (fun d x => d.alter (key x) fun n => n.getD 0 + 1) d).values =
      sumOf d.values + l.length := by
  induction l generalizing d with
  | nil => rfl
  | cons x l ih =>
    have one : sumOf (d.alter (key x) fun n => n.getD 0 + 1).values + (d.get? (key x)).getD 0 =
        sumOf d.values + ((d.get? (key x)).getD 0 + 1) := sumOf_putEntry (key x) _ d.entries
    rw [List.foldl_cons, ih, List.length_cons]
    omega

end Componentry.Dict
