/-!
# Tables

A `Table α` holds values under 32-bit numbers, by ascending number.  `get?` looks a number up,
`insert` and `erase` change what is under one number and nothing else, and `firstFrom` is the
smallest number in the table from a given one on.
-/

namespace Bpf

/-- Values under 32-bit numbers. -/
structure Table (α : Type) where
  /-- The numbers with their values. -/
  entries : List (UInt32 × α)
  /-- The numbers ascend. -/
  ascending : entries.Pairwise (fun a b => a.1 < b.1)

namespace Table

variable {α : Type}

/-- The table that holds nothing. -/
def empty : Table α := ⟨[], .nil⟩

/-- The value under a number. -/
def get? (t : Table α) (k : UInt32) : Option α :=
  (t.entries.find? (fun e => e.1 == k)).map Prod.snd

/-- There is a value under the number. -/
def contains (t : Table α) (k : UInt32) : Bool := (t.get? k).isSome

/-- The numbers in the table. -/
def keys (t : Table α) : List UInt32 := t.entries.map Prod.fst

/-- The values in the table, by ascending number. -/
def values (t : Table α) : List α := t.entries.map Prod.snd

/-! ### Insertion -/

/-- The entries with the value put under the number, in its place. -/
def put (k : UInt32) (a : α) : List (UInt32 × α) → List (UInt32 × α)
  | [] => [(k, a)]
  | e :: rest =>
    if e.1 < k then e :: put k a rest
    else if e.1 = k then (k, a) :: rest
    else (k, a) :: e :: rest

/-- Only the new number joins those of the entries. -/
theorem mem_put {k : UInt32} {a : α} {e : UInt32 × α} {es : List (UInt32 × α)}
    (h : e ∈ put k a es) :
  e = (k, a) ∨ e ∈ es
  := by
  induction es with
  | nil => simpa [put] using h
  | cons x rest ih =>
    unfold put at h
    split at h
    · rcases List.mem_cons.1 h with rfl | h
      · simp
      · rcases ih h with h | h <;> simp [h]
    · split at h <;> rcases List.mem_cons.1 h with h | h <;> simp_all

theorem pairwise_put {k : UInt32} {a : α} {es : List (UInt32 × α)}
    (h : es.Pairwise (fun a b => a.1 < b.1)) :
  (put k a es).Pairwise (fun a b => a.1 < b.1)
  := by
  induction es with
  | nil => simp [put]
  | cons x rest ih =>
    obtain ⟨hx, hrest⟩ := List.pairwise_cons.1 h
    unfold put
    split
    next hlt =>
      refine List.pairwise_cons.2 ⟨?_, ih hrest⟩
      intro e he
      rcases mem_put he with rfl | he
      · exact hlt
      · exact hx e he
    next hlt =>
      split
      next heq =>
        refine List.pairwise_cons.2 ⟨?_, hrest⟩
        intro e he
        exact heq ▸ hx e he
      next hne =>
        have hk : k < x.1 := by
          rw [UInt32.lt_iff_toNat_lt] at *
          have : x.1.toNat ≠ k.toNat := fun h => hne (UInt32.toNat_inj.1 h)
          omega
        refine List.pairwise_cons.2 ⟨?_, h⟩
        intro e he
        rcases List.mem_cons.1 he with rfl | he
        · exact hk
        · exact UInt32.lt_trans hk (hx e he)

/-- The table with the value under the number, in place of what was there. -/
def insert (t : Table α) (k : UInt32) (a : α) : Table α :=
  ⟨put k a t.entries, pairwise_put t.ascending⟩

theorem find?_put (k j : UInt32) (a : α) (es : List (UInt32 × α)) :
  (put k a es).find? (fun e => e.1 == j)
    = if j = k then some (k, a) else es.find? (fun e => e.1 == j)
  := by
  induction es with
  | nil =>
    by_cases h : j = k
    · simp [put, h]
    · have hk : ¬ k = j := fun e => h e.symm
      simp [put, h, hk]
  | cons x rest ih =>
    unfold put
    split
    next hlt =>
      have hx : x.1 ≠ k := UInt32.ne_of_lt hlt
      by_cases hj : x.1 = j
      · have hjk : j ≠ k := hj ▸ hx
        simp [hj, hjk]
      · simp [hj, ih]
    next =>
      split
      next heq =>
        by_cases hj : j = k
        · simp [hj]
        · have hk : ¬ k = j := fun h => hj h.symm
          simp [heq, hk, hj]
      next hne =>
        by_cases hj : j = k
        · simp [hj]
        · have hk : ¬ k = j := fun h => hj h.symm
          simp [hk, hj]

/-- An insertion changes what is under its number and nothing else. -/
theorem get?_insert (t : Table α) (k j : UInt32) (a : α) :
  (t.insert k a).get? j = if j = k then some a else t.get? j
  := by
  simp only [get?, insert, find?_put]
  split <;> simp

/-! ### Removal -/

/-- The table without the number. -/
def erase (t : Table α) (k : UInt32) : Table α :=
  ⟨t.entries.filter (fun e => e.1 != k), t.ascending.filter _⟩

/-- A removal empties what is under its number and changes nothing else. -/
theorem get?_erase (t : Table α) (k j : UInt32) :
  (t.erase k).get? j = if j = k then none else t.get? j
  := by
  simp only [get?, erase, List.find?_filter]
  by_cases h : j = k
  · subst h
    simp
  · simp only [h, if_false]
    congr 2
    funext e
    by_cases he : e.1 = j <;> simp [he, h]

/-- The table with the value under the number changed, if there is one. -/
def modify (t : Table α) (k : UInt32) (f : α → α) : Table α :=
  match t.get? k with
  | some a => t.insert k (f a)
  | none => t

/-- A change of a value leaves all others as they are. -/
theorem get?_modify (t : Table α) (k j : UInt32) (f : α → α) :
  (t.modify k f).get? j = if j = k then (t.get? k).map f else t.get? j
  := by
  unfold modify
  split
  next a h => simp [get?_insert, h]
  next h =>
    split
    next hj => simp [hj, h]
    next => rfl

/-! ### Order -/

/-- The smallest number in the table that is not below the given one. -/
def firstFrom (t : Table α) (start : UInt32) : Option UInt32 :=
  t.keys.find? (fun k => decide (start ≤ k))

theorem get?_eq_none_iff (t : Table α) (k : UInt32) :
  t.get? k = none ↔ k ∉ t.keys
  := by
  simp only [get?, keys, Option.map_eq_none_iff, List.find?_eq_none, List.mem_map, beq_iff_eq,
    not_exists, not_and]

/-- Without a first number there is none from the start on. -/
theorem get?_eq_none_of_firstFrom_eq_none {t : Table α} {start k : UInt32}
    (h : t.firstFrom start = none) (hk : start ≤ k) :
  t.get? k = none
  := by
  apply (t.get?_eq_none_iff k).2
  intro hmem
  have := List.find?_eq_none.1 h k hmem
  simp [hk] at this

/-- The first number is in the table, and there is none between the start and it. -/
theorem firstFrom_eq_some {t : Table α} {start first : UInt32}
    (h : t.firstFrom start = some first) :
  start ≤ first ∧ first ∈ t.keys ∧ ∀ k, start ≤ k → k < first → t.get? k = none
  := by
  obtain ⟨hstart, before, behind, hkeys, hbefore⟩ := List.find?_eq_some_iff_append.1 h
  refine ⟨by simpa using hstart, by simp [hkeys], ?_⟩
  intro k hk hlt
  apply (t.get?_eq_none_iff k).2
  intro hmem
  have hsorted : t.keys.Pairwise (· < ·) := List.pairwise_map.2 t.ascending
  rw [hkeys] at hmem hsorted
  rcases List.mem_append.1 hmem with hmem | hmem
  · have := hbefore k hmem
    simp [hk] at this
  · rcases List.mem_cons.1 hmem with rfl | hmem
    · exact UInt32.lt_irrefl _ hlt
    · have hbehind := (List.pairwise_append.1 hsorted).2.1
      exact UInt32.lt_asymm hlt ((List.pairwise_cons.1 hbehind).1 k hmem)

end Table

end Bpf
