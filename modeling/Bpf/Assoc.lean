/-!
# Association lists

An `Assoc κ α` holds values under keys.  `get?` looks a key up, and `insert` and `erase` change what
is under one key and nothing else.
-/

namespace Bpf

/-- Values under keys, the latest first. -/
structure Assoc (κ α : Type) where
  entries : List (κ × α)

namespace Assoc

variable {κ α : Type} [DecidableEq κ]

/-- The list that holds nothing. -/
def empty : Assoc κ α := ⟨[]⟩

/-- The value under a key. -/
def get? (m : Assoc κ α) (k : κ) : Option α :=
  (m.entries.find? (fun e => e.1 = k)).map Prod.snd

/-- There is a value under the key. -/
def contains (m : Assoc κ α) (k : κ) : Bool := (m.get? k).isSome

/-- The list without the key. -/
def erase (m : Assoc κ α) (k : κ) : Assoc κ α := ⟨m.entries.filter (fun e => e.1 ≠ k)⟩

/-- The list with the value under the key, in place of what was there. -/
def insert (m : Assoc κ α) (k : κ) (a : α) : Assoc κ α := ⟨(k, a) :: (m.erase k).entries⟩

/-- A key with a value is in one of the entries. -/
theorem mem_keys_of_get? {m : Assoc κ α} {k : κ} {a : α} (h : m.get? k = some a) :
  k ∈ m.entries.map Prod.fst
  := by
  obtain ⟨e, hfind, -⟩ := Option.map_eq_some_iff.1 h
  have hkey : e.1 = k := by simpa using List.find?_some hfind
  rw [← hkey]
  exact List.mem_map_of_mem (List.mem_of_find?_eq_some hfind)

/-- A removal empties what is under its key and changes nothing else. -/
theorem get?_erase (m : Assoc κ α) (k j : κ) :
  (m.erase k).get? j = if j = k then none else m.get? j
  := by
  simp only [get?, erase, List.find?_filter]
  by_cases h : j = k
  · subst h
    simp
  · simp only [h, if_false]
    congr 2
    funext e
    by_cases he : e.1 = j <;> simp [he, h]

/-- There is nothing to remove under a key without a value. -/
theorem erase_of_get?_eq_none {m : Assoc κ α} {k : κ} (h : m.get? k = none) :
  m.erase k = m
  := by
  rw [get?, Option.map_eq_none_iff, List.find?_eq_none] at h
  rw [erase, List.filter_eq_self.2]
  intro e he
  simpa using h e he

/-- An insertion changes what is under its key and nothing else. -/
theorem get?_insert (m : Assoc κ α) (k j : κ) (a : α) :
  (m.insert k a).get? j = if j = k then some a else m.get? j
  := by
  by_cases h : j = k
  · simp [get?, insert, h]
  · have hk : ¬ k = j := fun e => h e.symm
    have := get?_erase m k j
    simp only [get?, h, if_false] at this
    simp [get?, insert, hk, h, this]

end Assoc

end Bpf
