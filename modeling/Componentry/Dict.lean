/-!
# Insertion-ordered dictionaries

Entries stand in the order in which their keys first came; giving a key a new value keeps its
place. No key occurs twice, which the type itself records. The view is the list of entries.
-/

set_option autoImplicit false

namespace Componentry

/-- A dictionary from text to values that keeps the order of its keys. -/
structure Dict (α : Type) where
  entries : List (String × α)
  distinct : (entries.map Prod.fst).Nodup

namespace Dict
variable {α β : Type}

/-- The entries after a key is given a value. -/
def putEntry (k : String) (v : α) : List (String × α) → List (String × α)
  | [] => [(k, v)]
  | (k', v') :: rest => if k' = k then (k, v) :: rest else (k', v') :: putEntry k v rest

/-- Giving a value keeps the keys and adds a new one at the end. -/
theorem keys_putEntry (k : String) (v : α) :
    ∀ l : List (String × α), (putEntry k v l).map Prod.fst
      = if k ∈ l.map Prod.fst then l.map Prod.fst else l.map Prod.fst ++ [k]
  | [] => by simp [putEntry]
  | (k', v') :: rest => by
    by_cases hk : k' = k
    · subst hk
      simp [putEntry]
    · rw [putEntry, if_neg hk, List.map_cons, keys_putEntry k v rest]
      by_cases hm : k ∈ rest.map Prod.fst
      · rw [if_pos hm, if_pos (by exact List.mem_cons_of_mem _ hm), List.map_cons]
      · rw [if_neg hm, if_neg (by
          intro h
          rcases List.mem_cons.1 h with h | h
          · exact hk h.symm
          · exact hm h), List.map_cons, List.cons_append]

/-- Setting a key in entries with distinct keys leaves the keys distinct. -/
theorem nodup_putEntry (k : String) (v : α) {l : List (String × α)}
    (h : (l.map Prod.fst).Nodup) : ((putEntry k v l).map Prod.fst).Nodup := by
  rw [keys_putEntry]
  split
  · exact h
  · next hk =>
    rw [List.nodup_append]
    refine ⟨h, by simp, ?_⟩
    intro a ha b hb
    rw [List.mem_singleton] at hb
    subst hb
    intro e
    exact hk (e ▸ ha)

/-- The dictionary without entries. -/
def empty : Dict α := ⟨[], List.nodup_nil⟩

instance : Inhabited (Dict α) := ⟨empty⟩
instance : EmptyCollection (Dict α) := ⟨empty⟩

/-- Gives a key a value: in its old place, or at the end for a new key. -/
def put (d : Dict α) (k : String) (v : α) : Dict α :=
  ⟨putEntry k v d.entries, nodup_putEntry k v d.distinct⟩

/-- The value of a key. -/
def get? (d : Dict α) (k : String) : Option α := d.entries.lookup k

/-- A key has a value. -/
def has (d : Dict α) (k : String) : Bool := d.entries.any fun e => e.1 == k

/-- Forgets a key. -/
def erase (d : Dict α) (k : String) : Dict α :=
  ⟨d.entries.filter fun e => e.1 != k,
    d.distinct.sublist ((List.filter_sublist).map Prod.fst)⟩

/-- The keys in order. -/
def keys (d : Dict α) : List String := d.entries.map Prod.fst

/-- The values in order. -/
def values (d : Dict α) : List α := d.entries.map Prod.snd

/-- A dictionary without entries. -/
def isEmpty (d : Dict α) : Bool := d.entries.isEmpty

/-- The number of entries. -/
def size (d : Dict α) : Nat := d.entries.length

/-- Gives the keys of a list their values, one after the other. -/
def putAll (d : Dict α) (l : List (String × α)) : Dict α :=
  l.foldl (fun d e => d.put e.1 e.2) d

/-- The dictionary of a list of entries, the last value of a key counting. -/
def ofList (l : List (String × α)) : Dict α := empty.putAll l

/-- Applies a function to every key and value, giving the new values. -/
def mapEntries (f : String → α → β) (d : Dict α) : Dict β :=
  ⟨d.entries.map fun e => (e.1, f e.1 e.2), by
    rw [List.map_map]
    exact d.distinct⟩

/-- Applies a function to every value. -/
def mapValues (f : α → β) (d : Dict α) : Dict β := d.mapEntries fun _ v => f v

/-- Changes the value of a key, a new key starting from nothing. -/
def alter (d : Dict α) (k : String) (f : Option α → α) : Dict α := d.put k (f (d.get? k))

/-- The same keys with the same values, in whatever order. -/
def sameEntries [BEq α] (d e : Dict α) : Bool :=
  d.size == e.size && d.entries.all fun (k, v) => e.get? k == some v

instance [BEq α] : BEq (Dict α) := ⟨sameEntries⟩

/-- Two dictionaries with the same entries are the same: the proof they carry adds nothing. -/
theorem ext_entries {d e : Dict α} (h : d.entries = e.entries) : d = e := by
  cases d
  cases e
  cases h
  rfl

@[simp] theorem keys_empty : (empty : Dict α).keys = [] := rfl

/-- Setting a key that is there leaves the keys as they are, a new one comes last. -/
@[simp] theorem keys_put (d : Dict α) (k : String) (v : α) :
    (d.put k v).keys = if k ∈ d.keys then d.keys else d.keys ++ [k] :=
  keys_putEntry k v d.entries

/-- No key stands twice in a dictionary. -/
theorem nodup_keys (d : Dict α) : d.keys.Nodup := d.distinct

/-- What a list of entries holds after a key was set: the new value there, the old ones
elsewhere. -/
theorem lookup_putEntry (k k' : String) (v : α) :
    ∀ l : List (String × α), (putEntry k v l).lookup k' = if k' = k then some v else l.lookup k'
  | [] => by
    by_cases h : k' = k
    · subst h
      simp [putEntry]
    · have hb : (k' == k) = false := by simpa using h
      simp [putEntry, List.lookup_cons, hb, h]
  | (k₁, v₁) :: rest => by
    by_cases h₁ : k₁ = k
    · subst h₁
      by_cases h : k' = k₁
      · subst h
        simp [putEntry]
      · have hb : (k' == k₁) = false := by simpa using h
        simp [putEntry, List.lookup_cons, hb, h]
    · rw [putEntry, if_neg h₁]
      by_cases h : k' = k₁
      · subst h
        simp [h₁]
      · have hb : (k' == k₁) = false := by simpa using h
        rw [List.lookup_cons, hb, List.lookup_cons, hb]
        exact lookup_putEntry k k' v rest

/-- A key answers with the value given to it last. -/
@[simp] theorem get?_put (d : Dict α) (k k' : String) (v : α) :
    (d.put k v).get? k' = if k' = k then some v else d.get? k' :=
  lookup_putEntry k k' v d.entries

@[simp] theorem get?_empty (k : String) : (empty : Dict α).get? k = none := rfl

end Dict
end Componentry
