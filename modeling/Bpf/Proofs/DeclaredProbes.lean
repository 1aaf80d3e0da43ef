import Bpf.Proofs.CountedProbes
import Mathlib.Data.List.Induction

/-!
# Declared probes

When a matrix is declared, a check is made for each entry that does not bring one of its own, and for
no other.  Whatever is asked of the matrix then, the checks that are run are those of the last entries
under the keys whose results are asked for, each of them once; a key that is not declared has no probe,
and nothing is run for it.  A report has a row for each entry, with the probe that counts for its key.
-/

namespace Bpf

variable {σ κ : Type}

/-! ### Last places -/

/-- The key stands in this place and in no later one. -/
def IsLast (keys : List κ) (key : κ) (i : Nat) : Prop :=
  keys[i]? = some key ∧ ∀ j, i < j → keys[j]? ≠ some key

namespace IsLast

variable {keys : List κ} {key k : κ} {i : Nat}

theorem lt_length (h : IsLast keys key i) :
  i < keys.length
  := (List.getElem?_eq_some_iff.1 h.1).1

theorem mem (h : IsLast keys key i) :
  key ∈ keys
  := List.mem_of_getElem? h.1

/-- Two keys do not stand in one place. -/
theorem unique (h : IsLast keys key i) (h' : IsLast keys k i) :
  key = k
  := Option.some.inj (h.1.symm.trans h'.1)

/-- A key at the end hides the places before it, and other keys stay where they are. -/
theorem concat_iff :
  IsLast (keys ++ [k]) key i ↔ (k = key ∧ i = keys.length) ∨ (k ≠ key ∧ IsLast keys key i)
  := by
  have hplace (j : Nat) :
      (keys ++ [k])[j]? = some key ↔ keys[j]? = some key ∨ (j = keys.length ∧ k = key) := by
    grind
  simp only [IsLast, Ne, hplace]
  by_cases hk : k = key
  · constructor
    · rintro ⟨hi | ⟨hi, -⟩, hlater⟩
      · exact absurd (.inr ⟨rfl, hk⟩) (hlater keys.length (List.getElem?_eq_some_iff.1 hi).1)
      · exact .inl ⟨hk, hi⟩
    · rintro (⟨-, hi⟩ | ⟨hne, -⟩)
      · constructor
        · exact .inr ⟨hi, hk⟩
        · rintro j hij (hj | ⟨hj, -⟩)
          · have hlt := (List.getElem?_eq_some_iff.1 hj).1
            omega
          · omega
      · exact absurd hk hne
  · simp [hk]

theorem exists_of_mem (h : key ∈ keys) :
  ∃ i, IsLast keys key i
  := by
  induction keys using List.reverseRecOn with
  | nil => cases h
  | append_singleton keys k ih =>
      by_cases hk : k = key
      · exact ⟨keys.length, concat_iff.2 (.inl ⟨hk, rfl⟩)⟩
      · obtain hmem | hmem := List.mem_append.1 h
        · obtain ⟨i, hi⟩ := ih hmem
          exact ⟨i, concat_iff.2 (.inr ⟨hk, hi⟩)⟩
        · exact absurd (List.mem_singleton.1 hmem).symm hk

end IsLast

namespace Matrix

/-! ### Rows that count -/

/-- The keys in the order of declaration. -/
def keys (m : Matrix κ σ) : List κ := m.rows.map Prod.fst

section Rows

variable [DecidableEq κ] (m : Matrix κ σ) (key : κ)

/-- The row that counts for a key, and its place. -/
def lastRow? : Option ((κ × Probe σ) × Nat) :=
  m.rows.zipIdx.reverse.find? fun row => row.1.1 = key

/-- The place of the row that counts for a key. -/
def place? : Option Nat := (m.lastRow? key).map Prod.snd

theorem probe?_eq_map_lastRow? :
  m.probe? key = (m.lastRow? key).map fun row => row.1.2
  := by
  have hrows : m.rows.reverse = m.rows.zipIdx.reverse.map Prod.fst := by
    rw [List.map_reverse, List.zipIdx_map_fst]
  rw [probe?, hrows, List.find?_map, Option.map_map]
  rfl

variable {m key}

theorem lastRow?_eq_some_iff {k : κ} {p : Probe σ} {i : Nat} :
  m.lastRow? key = some ((k, p), i)
    ↔ k = key ∧ m.rows[i]? = some (k, p) ∧ IsLast m.keys key i
  := by
  obtain ⟨rows, describe⟩ := m
  unfold lastRow? keys
  dsimp only
  induction rows using List.reverseRecOn with
  | nil => simp
  | append_singleton rows row ih =>
      have hend : (rows ++ [row])[rows.length]? = some row := List.getElem?_concat_length
      have hzip : (rows ++ [row]).zipIdx.reverse = (row, rows.length) :: rows.zipIdx.reverse := by
        simp [List.zipIdx_append]
      rw [hzip, List.map_append, List.map_singleton, IsLast.concat_iff, List.length_map]
      by_cases hkey : row.1 = key
      · rw [List.find?_cons_of_pos (by simpa using hkey)]
        constructor
        · intro h
          cases h
          exact ⟨hkey, hend, .inl ⟨hkey, rfl⟩⟩
        · rintro ⟨-, hrow, ⟨-, rfl⟩ | ⟨hne, -⟩⟩
          · rw [Option.some.inj (hend.symm.trans hrow)]
          · exact absurd hkey hne
      · rw [List.find?_cons_of_neg (by simpa using hkey), ih]
        have hfront (hi : IsLast (rows.map Prod.fst) key i) : (rows ++ [row])[i]? = rows[i]? :=
          List.getElem?_append_left (by simpa using hi.lt_length)
        constructor
        · rintro ⟨hk, hrow, hi⟩
          exact ⟨hk, (hfront hi).trans hrow, .inr ⟨hkey, hi⟩⟩
        · rintro ⟨hk, hrow, ⟨heq, -⟩ | ⟨-, hi⟩⟩
          · exact absurd heq hkey
          · exact ⟨hk, (hfront hi).symm.trans hrow, hi⟩

theorem probe?_eq_none_iff :
  m.probe? key = none ↔ key ∉ m.keys
  := by
  rw [probe?, Option.map_eq_none_iff, List.find?_eq_none, keys]
  simp only [List.mem_reverse, decide_eq_true_eq, List.mem_map, not_exists, not_and]

theorem lastRow?_eq_none_iff :
  m.lastRow? key = none ↔ key ∉ m.keys
  := by
  rw [← probe?_eq_none_iff, probe?_eq_map_lastRow?, Option.map_eq_none_iff]

theorem exists_lastRow? (hkey : key ∈ m.keys) :
  ∃ p i, m.lastRow? key = some ((key, p), i)
  := by
  obtain ⟨⟨⟨k, p⟩, i⟩, hrow⟩ := Option.ne_none_iff_exists'.1 (mt lastRow?_eq_none_iff.1 (not_not.2 hkey))
  obtain ⟨rfl, -⟩ := lastRow?_eq_some_iff.1 hrow
  exact ⟨p, i, hrow⟩

theorem exists_probe? (hkey : key ∈ m.keys) :
  ∃ p, m.probe? key = some p
  := Option.ne_none_iff_exists'.1 (mt probe?_eq_none_iff.1 (not_not.2 hkey))

theorem place?_eq_some_iff {i : Nat} :
  m.place? key = some i ↔ IsLast m.keys key i
  := by
  constructor
  · intro h
    obtain ⟨⟨⟨k, p⟩, j⟩, hrow, rfl⟩ := Option.map_eq_some_iff.1 h
    exact (lastRow?_eq_some_iff.1 hrow).2.2
  · intro h
    obtain ⟨⟨k, p⟩, hrow, rfl⟩ : ∃ row, m.rows[i]? = some row ∧ row.1 = key := by
      rw [← Option.map_eq_some_iff, ← List.getElem?_map]
      exact h.1
    rw [place?, lastRow?_eq_some_iff.2 ⟨rfl, hrow, h⟩]
    rfl

end Rows

/-! ### Declarations -/

section Declare

variable (describe : κ → String) (entries : List (MatrixEntry κ σ))
  (default : κ → StateM σ (Action σ Unit))

/-- The way of making checks that puts its calls on the list. -/
def counting (key : κ) : StateM (σ × List (ProbeCall κ Nat)) (Action σ Unit) := do
  modify (tally (.make key))
  onPart (Part.first σ (List (ProbeCall κ Nat))) (default key)

/-- The probe of the entry in a place.  Without a check of its own it gets the one that is made for it
after those of the entries before. -/
def declaredProbe (s : σ) (i : Nat) (entry : MatrixEntry κ σ) : Probe σ where
  name := entry.name
  version := entry.version
  check := entry.check.getD
    ((default entry.key).run ((declare describe (entries.take i) default).run s).2).1

theorem run_declare_cons {τ : Type} (default : κ → StateM τ (Action σ Unit))
    (entry : MatrixEntry κ σ) (s : τ) :
  (declare describe (entry :: entries) default).run s
    = let first := (row default entry).run s
      let rest := (declare describe entries default).run first.2
      (⟨first.1 :: rest.1.rows, describe⟩, rest.2)
  := by
  rw [declare, List.mapM_cons]
  rfl

/-- The rows are the probes of the entries, in their order. -/
theorem getElem?_rows_declare (s : σ) (i : Nat) :
  ((declare describe entries default).run s).1.rows[i]?
    = entries[i]?.map fun entry => (entry.key, declaredProbe describe entries default s i entry)
  := by
  induction entries generalizing s i with
  | nil => rfl
  | cons entry entries ih =>
      rw [run_declare_cons]
      cases i with
      | zero =>
          rw [List.getElem?_cons_zero, List.getElem?_cons_zero, row, Option.map_some, declaredProbe]
          cases entry.check with
          | some check => rfl
          | none => rfl
      | succ i =>
          have hturn (entry' : MatrixEntry κ σ) :
              declaredProbe describe (entry :: entries) default s (i + 1) entry'
                = declaredProbe describe entries default ((row default entry).run s).2 i entry' := by
            rw [declaredProbe, List.take_succ_cons, run_declare_cons]
            rfl
          rw [List.getElem?_cons_succ, List.getElem?_cons_succ, ih]
          simp only [hturn]

theorem keys_declare (s : σ) :
  ((declare describe entries default).run s).1.keys = entries.map MatrixEntry.key
  := by
  apply List.ext_getElem?
  intro i
  rw [keys, List.getElem?_map, List.getElem?_map, getElem?_rows_declare, Option.map_map]
  rfl

/-- The keys for which checks are made. -/
def unchecked (entries : List (MatrixEntry κ σ)) : List κ :=
  (entries.filter fun entry => entry.check.isNone).map MatrixEntry.key

theorem unchecked_cons (entry : MatrixEntry κ σ) :
  unchecked (entry :: entries) = unchecked [entry] ++ unchecked entries
  := by
  rw [unchecked, unchecked, unchecked, ← List.map_append, ← List.filter_append]
  rfl

theorem run_row_counting (entry : MatrixEntry κ σ) (s : σ) (calls : List (ProbeCall κ Nat)) :
  (row (counting default) entry).run (s, calls)
    = let made := (row default entry).run s
      (made.1, (made.2, calls ++ (unchecked [entry]).map .make))
  := by
  obtain ⟨key, name, version, check⟩ := entry
  cases check with
  | some check =>
      show (_, (_, _)) = (_, (_, calls ++ []))
      rw [List.append_nil]
      rfl
  | none => rfl

/-- A call is put on the list for each entry without a check of its own, and no other. -/
theorem run_declare_counting (s : σ) (calls : List (ProbeCall κ Nat)) :
  (declare describe entries (counting default)).run (s, calls)
    = let declared := (declare describe entries default).run s
      (declared.1, (declared.2, calls ++ (unchecked entries).map .make))
  := by
  induction entries generalizing s calls with
  | nil =>
      show _ = (_, (_, calls ++ []))
      rw [List.append_nil]
      rfl
  | cons entry entries ih =>
      rw [run_declare_cons, run_declare_cons, run_row_counting, unchecked_cons entries entry,
        List.map_append, ← List.append_assoc]
      dsimp only
      rw [ih]

end Declare

/-! ### Counting -/

/-- The matrix whose probes put the runs of their checks on the list, under their places. -/
def tallied (m : Matrix κ σ) : Matrix κ (σ × List (ProbeCall κ Nat)) where
  rows := m.rows.zipIdx.map fun row => (row.1.1, row.1.2.tallied (.check row.2))
  describe := m.describe

theorem keys_tallied (m : Matrix κ σ) :
  m.tallied.keys = m.keys
  := by
  have hrows : m.rows.zipIdx.map Prod.fst = m.rows := List.zipIdx_map_fst 0 m.rows
  rw [keys, keys, tallied, List.map_map]
  conv => rhs; rw [← hrows, List.map_map]
  rfl

/-! ### Operations -/

/-- What can be asked of a matrix. -/
inductive Operation (κ : Type) where
  | result (key : κ)
  | probe (key : κ)
  | iter
deriving DecidableEq

/-- What is answered. -/
inductive Reply (κ : Type) where
  | verdict (verdict : Verdict)
  /-- What can be seen of a probe, if there is one. -/
  | probe (row : Option FeatureRow)
  | rows (rows : List (κ × FeatureRow))

section Operations

variable [DecidableEq κ] (m : Matrix κ σ)

/-- The keys in the order of declaration, each with what can be seen of its probe. -/
def iter (v : Verdicts κ) : List (κ × FeatureRow) :=
  m.probes.map fun entry => (entry.1, FeatureRow.ofProbe entry.2 (v.get? entry.1))

/-- Carries out an operation. -/
def perform : Operation κ → StateM (Verdicts κ × σ) (Reply κ)
  | .result key => return .verdict (← m.result key)
  | .probe key => do
    let v := (← get).1
    return .probe ((m.probe? key).map fun p => FeatureRow.ofProbe p (v.get? key))
  | .iter => return .rows (m.iter (← get).1)

/-- Carries out operations one after another. -/
def performAll : List (Operation κ) → StateM (Verdicts κ × σ) (List (Reply κ))
  | [] => return []
  | operation :: operations => do
    let reply ← m.perform operation
    let replies ← performAll operations
    return reply :: replies

theorem run_performAll_cons (operation : Operation κ) (operations : List (Operation κ))
    (x : Verdicts κ × σ) :
  (m.performAll (operation :: operations)).run x
    = let first := (m.perform operation).run x
      let rest := (m.performAll operations).run first.2
      (first.1 :: rest.1, rest.2)
  := rfl

theorem run_perform_probe (key : κ) (x : Verdicts κ × σ) :
  (m.perform (.probe key)).run x
    = (.probe ((m.probe? key).map fun p => FeatureRow.ofProbe p (x.1.get? key)), x)
  := rfl

/-! ### What an operation adds -/

/-- The key whose check is run. -/
def unasked (v : Verdicts κ) : Operation κ → List κ
  | .result key => if key ∈ m.keys then v.missing key else []
  | .probe _ | .iter => []

/-- The place of the row whose check is run. -/
def newChecks (v : Verdicts κ) (operation : Operation κ) : List Nat :=
  (m.unasked v operation).filterMap m.place?

section Step

variable {m} {v : Verdicts κ} (operation : Operation κ)

theorem mem_unasked_iff {operation : Operation κ} {k : κ} :
  k ∈ m.unasked v operation ↔ operation = .result k ∧ k ∈ m.keys ∧ k ∉ v.keys
  := by
  cases operation with
  | result key =>
      rw [unasked, Operation.result.injEq]
      split
      next hkey =>
        rw [Assoc.mem_missing_iff]
        constructor
        · rintro ⟨rfl, hk⟩
          exact ⟨rfl, hkey, hk⟩
        · rintro ⟨rfl, -, hk⟩
          exact ⟨rfl, hk⟩
      next hkey =>
        constructor
        · exact fun hk => absurd hk List.not_mem_nil
        · rintro ⟨rfl, hk, -⟩
          exact absurd hk hkey
  | _ => simp [unasked]

theorem nodup_unasked :
  (m.unasked v operation).Nodup
  := by
  cases operation with
  | result key =>
      rw [unasked]
      split
      · exact Assoc.nodup_missing v key
      · exact List.nodup_nil
  | _ => exact List.nodup_nil

/-- A key that is not declared has no probe, and nothing is done for it. -/
theorem run_result_of_not_mem {key : κ} (hkey : key ∉ m.keys) (x : Verdicts κ × σ) :
  (m.result key).run x = (.error (.noProbe (m.describe key)), x)
  := by
  rw [run_result, probe?_eq_none_iff.2 hkey]

theorem run_result_of_probe {key : κ} {p : Probe σ} (hp : m.probe? key = some p)
    (x : Verdicts κ × σ) :
  (m.result key).run x = (Verdicts.ask key p).run x
  := by
  rw [run_result, hp]

theorem keys_perform (s : σ) :
  ((m.perform operation).run (v, s)).2.1.keys = m.unasked v operation ++ v.keys
  := by
  cases operation with
  | result key =>
      show ((m.result key).run (v, s)).2.1.keys = _
      rw [unasked]
      split
      next hkey =>
        obtain ⟨p, hp⟩ := exists_probe? hkey
        rw [run_result_of_probe hp, Verdicts.keys_ask]
      next hkey =>
        rw [run_result_of_not_mem hkey]
        rfl
  | probe key => rfl
  | iter => rfl

/-- Verdicts are kept. -/
theorem get?_perform_of_some {k : κ} {verdict : Verdict} (h : v.get? k = some verdict) (s : σ) :
  ((m.perform operation).run (v, s)).2.1.get? k = some verdict
  := by
  cases operation with
  | result key => exact get?_result_of_some m key h s
  | probe key => exact h
  | iter => exact h

end Step

/-! ### What counting adds -/

theorem probe?_tallied (key : κ) :
  m.tallied.probe? key = (m.lastRow? key).map fun row => row.1.2.tallied (.check row.2)
  := by
  rw [probe?, tallied, ← List.map_reverse, List.find?_map, Option.map_map]
  rfl

/-- Counting does not change what can be seen of a probe. -/
theorem ofProbe_probe?_tallied (key : κ) (verdict : Option Verdict) :
  (m.tallied.probe? key).map (FeatureRow.ofProbe · verdict)
    = (m.probe? key).map (FeatureRow.ofProbe · verdict)
  := by
  rw [probe?_tallied, probe?_eq_map_lastRow?, Option.map_map, Option.map_map]
  rfl

theorem iter_eq_filterMap (v : Verdicts κ) :
  m.iter v = m.keys.filterMap fun key =>
    ((m.probe? key).map (FeatureRow.ofProbe · (v.get? key))).map (Prod.mk key)
  := by
  simp only [iter, probes, keys, List.map_filterMap, List.filterMap_map, Function.comp_def,
    Option.map_map]

theorem iter_tallied (v : Verdicts κ) :
  m.tallied.iter v = m.iter v
  := by
  simp only [iter_eq_filterMap, keys_tallied, ofProbe_probe?_tallied]

section Counting

variable (v : Verdicts κ) (s : σ) (calls : List (ProbeCall κ Nat))

theorem run_result_tallied (key : κ) :
  (m.tallied.result key).run (v, (s, calls))
    = let asked := (m.result key).run (v, s)
      (asked.1, (asked.2.1, (asked.2.2, calls ++ (m.newChecks v (.result key)).map .check)))
  := by
  rw [newChecks, unasked]
  split
  next hkey =>
    obtain ⟨p, i, hrow⟩ := exists_lastRow? hkey
    have hp : m.probe? key = some p := by rw [probe?_eq_map_lastRow?, hrow]; rfl
    have hp' : m.tallied.probe? key = some (p.tallied (.check i)) := by
      rw [probe?_tallied, hrow]
      rfl
    have hplace : m.place? key = some i := congrArg (Option.map Prod.snd) hrow
    have hcalls : ((v.missing key).filterMap m.place?).map ProbeCall.check
        = (v.missing key).map fun _ => (ProbeCall.check i : ProbeCall κ Nat) := by
      rw [Assoc.missing]
      split
      · rw [List.filterMap_cons_some hplace]
        rfl
      · rfl
    rw [run_result_of_probe hp, run_result_of_probe hp', hcalls]
    exact Verdicts.run_ask_tallied key p v s (fun _ => ProbeCall.check i) calls
  next hkey =>
    have hkey' : key ∉ m.tallied.keys := by
      rw [keys_tallied]
      exact hkey
    rw [run_result_of_not_mem hkey, run_result_of_not_mem hkey', List.filterMap_nil, List.map_nil,
      List.append_nil]
    rfl

/-- Counting leaves the replies as they are and puts the runs of checks on the list. -/
theorem run_perform_tallied (operation : Operation κ) :
  (m.tallied.perform operation).run (v, (s, calls))
    = let next := (m.perform operation).run (v, s)
      (next.1, (next.2.1, (next.2.2, calls ++ (m.newChecks v operation).map .check)))
  := by
  cases operation with
  | result key =>
      have hrun := run_result_tallied m v s calls key
      exact congrArg (fun asked => (Reply.verdict asked.1, asked.2)) hrun
  | probe key =>
      have hprobe := ofProbe_probe?_tallied m key (v.get? key)
      show (Reply.probe _, v, s, calls) = (Reply.probe _, v, s, calls ++ [])
      rw [hprobe, List.append_nil]
  | iter =>
      show (Reply.rows (m.tallied.iter v), v, s, calls) = (Reply.rows (m.iter v), v, s, calls ++ [])
      rw [iter_tallied, List.append_nil]

end Counting

/-! ### Accounts -/

/-- The verdicts are those of the declared keys whose results were asked for, and the checks are those
that it took. -/
structure Accounted (v : Verdicts κ) (operations : List (Operation κ)) (checks : List Nat) : Prop where
  checks : checks.Perm (v.keys.filterMap m.place?)
  nodup_keys : v.keys.Nodup
  mem_keys (key : κ) : key ∈ v.keys ↔ .result key ∈ operations ∧ key ∈ m.keys

namespace Accounted

theorem empty :
  m.Accounted .empty [] []
  := by
  constructor
  · exact List.Perm.refl []
  · exact List.nodup_nil
  · exact fun _ => iff_of_false List.not_mem_nil fun h => List.not_mem_nil h.1

variable {m} {v : Verdicts κ} {operations : List (Operation κ)} {checks : List Nat}

/-- What one operation adds is accounted for. -/
theorem perform (h : m.Accounted v operations checks) (operation : Operation κ) (s : σ) :
  m.Accounted ((m.perform operation).run (v, s)).2.1 (operations ++ [operation])
    (checks ++ m.newChecks v operation)
  := by
  have hkeys := keys_perform (m := m) (v := v) operation s
  constructor
  · rw [hkeys, List.filterMap_append]
    exact (h.checks.append_right _).trans List.perm_append_comm
  · rw [hkeys]
    apply List.Nodup.append (nodup_unasked operation) h.nodup_keys
    exact fun key hnew hold => (mem_unasked_iff.1 hnew).2.2 hold
  · intro key
    rw [hkeys, List.mem_append, mem_unasked_iff, h.mem_keys, List.mem_append, List.mem_singleton,
      eq_comm]
    tauto

/-- No check is run twice. -/
theorem nodup (h : m.Accounted v operations checks) :
  checks.Nodup
  := by
  apply h.checks.nodup_iff.2
  apply h.nodup_keys.filterMap
  intro key key' i hi hi'
  exact (place?_eq_some_iff.1 hi).unique (place?_eq_some_iff.1 hi')

theorem mem_checks_iff (h : m.Accounted v operations checks) (i : Nat) :
  i ∈ checks ↔ ∃ key, .result key ∈ operations ∧ IsLast m.keys key i
  := by
  rw [h.checks.mem_iff, List.mem_filterMap]
  constructor
  · rintro ⟨key, hkey, hi⟩
    exact ⟨key, ((h.mem_keys key).1 hkey).1, place?_eq_some_iff.1 hi⟩
  · rintro ⟨key, hkey, hi⟩
    exact ⟨key, (h.mem_keys key).2 ⟨hkey, hi.mem⟩, place?_eq_some_iff.2 hi⟩

end Accounted

/-- Counting leaves all replies as they are, and the checks are accounted for. -/
theorem run_performAll_tallied (operations : List (Operation κ)) {v : Verdicts κ}
    {past : List (Operation κ)} {checks : List Nat} (h : m.Accounted v past checks) (s : σ)
    (calls : List (ProbeCall κ Nat)) :
  let next := (m.performAll operations).run (v, s)
  ∃ checks', (m.tallied.performAll operations).run (v, (s, calls ++ checks.map .check))
      = (next.1, (next.2.1, (next.2.2, calls ++ checks'.map .check)))
    ∧ m.Accounted next.2.1 (past ++ operations) checks'
  := by
  induction operations generalizing v past checks s with
  | nil =>
      use checks
      constructor
      · rfl
      · rw [List.append_nil]
        exact h
  | cons operation operations ih =>
      obtain ⟨checks', hrun, hchecks⟩ := ih (h.perform operation s) ((m.perform operation).run (v, s)).2.2
      use checks'
      constructor
      · rw [run_performAll_cons, run_performAll_cons, run_perform_tallied, List.append_assoc,
          ← List.map_append]
        dsimp only
        rw [hrun]
      · rw [← List.append_cons] at hchecks
        exact hchecks

/-! ### Answers -/

theorem get?_performAll_of_some (operations : List (Operation κ)) {v : Verdicts κ} {k : κ}
    {verdict : Verdict} (h : v.get? k = some verdict) (s : σ) :
  ((m.performAll operations).run (v, s)).2.1.get? k = some verdict
  := by
  induction operations generalizing v s with
  | nil => exact h
  | cons operation operations ih =>
      rw [run_performAll_cons]
      exact ih (get?_perform_of_some operation h s) _

/-- An answer is given again, and nothing is done for it. -/
theorem run_result_again (key : κ) (operations : List (Operation κ)) (x : Verdicts κ × σ) :
  let asked := (m.result key).run x
  let last := (m.performAll operations).run asked.2
  (m.result key).run last.2 = (asked.1, last.2)
  := by
  intro asked last
  have hanswer := answer?_result m x.1 key x.2
  apply run_result_of_answer?
  apply answer?_mono _ hanswer
  exact fun h => get?_performAll_of_some m operations h asked.2.2

theorem Accounted.get?_verdicts {m : Matrix κ σ} {v : Verdicts κ} {operations : List (Operation κ)}
    {checks : List Nat} (h : m.Accounted v operations checks) {key : κ} (hkey : key ∈ m.keys) (s : σ) :
  v.get? key
    = if .result key ∈ operations then some ((m.result key).run (v, s)).1 else none
  := by
  have hmem := h.mem_keys key
  rw [and_iff_left hkey] at hmem
  split
  next hasked =>
    rw [← hmem, ← Assoc.get?_ne_none_iff_mem_keys, Option.ne_none_iff_exists'] at hasked
    obtain ⟨verdict, hverdict⟩ := hasked
    obtain ⟨p, hp⟩ := exists_probe? hkey
    rw [run_result_of_probe hp, Verdicts.run_ask_of_some key p s hverdict, hverdict]
  next hasked =>
    rw [← hmem] at hasked
    exact Assoc.get?_eq_none_iff_not_mem_keys.2 hasked

/-- There is a row for each declared key. -/
theorem keys_iter (v : Verdicts κ) :
  (m.iter v).map Prod.fst = m.keys
  := by
  rw [iter_eq_filterMap, List.map_filterMap]
  conv => rhs; rw [← List.filterMap_some (l := m.keys)]
  apply List.filterMap_congr
  intro key hkey
  obtain ⟨p, hp⟩ := exists_probe? hkey
  rw [hp]
  rfl

theorem mem_iter_iff {v : Verdicts κ} {key : κ} {row : FeatureRow} :
  (key, row) ∈ m.iter v
    ↔ key ∈ m.keys ∧ ∃ p, m.probe? key = some p ∧ row = FeatureRow.ofProbe p (v.get? key)
  := by
  rw [iter_eq_filterMap, List.mem_filterMap]
  constructor
  · rintro ⟨k, hk, hrow⟩
    rw [Option.map_map, Option.map_eq_some_iff] at hrow
    obtain ⟨p, hp, hrow⟩ := hrow
    cases hrow
    exact ⟨hk, p, hp, rfl⟩
  · rintro ⟨hk, p, hp, rfl⟩
    use key, hk
    rw [hp]
    rfl

/-! ### What is asked of a declared matrix -/

section Declared

variable (describe : κ → String) (entries : List (MatrixEntry κ σ))
  (default : κ → StateM σ (Action σ Unit)) (s : σ)

/-- The row of the last entry under a key is the one that counts. -/
theorem lastRow?_declare {key : κ} {i : Nat} {entry : MatrixEntry κ σ} (hentry : entries[i]? = some entry)
    (hlast : IsLast (entries.map MatrixEntry.key) key i) :
  ((declare describe entries default).run s).1.lastRow? key
    = some ((key, declaredProbe describe entries default s i entry), i)
  := by
  have hkey : entry.key = key := by
    have hplace := hlast.1
    rw [List.getElem?_map, hentry] at hplace
    exact Option.some.inj hplace
  apply lastRow?_eq_some_iff.2
  rw [getElem?_rows_declare, hentry, keys_declare, Option.map_some, hkey]
  exact ⟨rfl, rfl, hlast⟩

theorem probe?_declare {key : κ} {i : Nat} {entry : MatrixEntry κ σ} (hentry : entries[i]? = some entry)
    (hlast : IsLast (entries.map MatrixEntry.key) key i) :
  ((declare describe entries default).run s).1.tallied.probe? key
    = some ((declaredProbe describe entries default s i entry).tallied (.check i))
  := by
  rw [probe?_tallied, lastRow?_declare describe entries default s hentry hlast]
  rfl

/-- A row shows the probe of the last entry under its key. -/
theorem mem_iter_declare {v : Verdicts κ} {key : κ} {row : FeatureRow}
    (h : (key, row) ∈ ((declare describe entries default).run s).1.tallied.iter v) :
  ∃ i entry, entries[i]? = some entry ∧ IsLast (entries.map MatrixEntry.key) key i
    ∧ row = FeatureRow.ofProbe (declaredProbe describe entries default s i entry) (v.get? key)
  := by
  obtain ⟨hkey, p, hp, rfl⟩ := (mem_iter_iff _).1 h
  rw [keys_tallied, keys_declare] at hkey
  obtain ⟨i, hlast⟩ := IsLast.exists_of_mem hkey
  obtain ⟨entry, hentry, -⟩ := Option.map_eq_some_iff.1 (List.getElem?_map.symm.trans hlast.1)
  rw [probe?_declare describe entries default s hentry hlast] at hp
  use i, entry, hentry, hlast
  rw [← Option.some.inj hp, FeatureRow.ofProbe_tallied]

/-- Counting does not change what is declared and answered, and all calls are accounted for. -/
theorem exists_run_declared (operations : List (Operation κ)) :
  let plain := (declare describe entries default).run s
  let uncounted := (plain.1.performAll operations).run (.empty, plain.2)
  let makes := (unchecked entries).map ProbeCall.make
  ∃ checks, (declare describe entries (counting default)).run (s, []) = (plain.1, (plain.2, makes))
    ∧ (plain.1.tallied.performAll operations).run (.empty, (plain.2, makes))
      = (uncounted.1, (uncounted.2.1, (uncounted.2.2, makes ++ checks.map .check)))
    ∧ plain.1.Accounted uncounted.2.1 operations checks
  := by
  intro plain uncounted makes
  obtain ⟨checks, hrun, hchecks⟩ :=
    run_performAll_tallied plain.1 operations (.empty _) plain.2 makes
  rw [List.map_nil, List.append_nil] at hrun
  exact ⟨checks, run_declare_counting describe entries default s [], hrun, hchecks⟩

/-- When a matrix has been declared, a check has been made for each entry without one of its own, and
none is made later.  Whatever was asked of the matrix before, the checks that were run are those of the
last entries under the keys whose results were asked for, each of them once; those of entries with a
later one under their key are not among them.  A key that is not declared has no probe, and nothing is
done for it.  The first time a result is asked for, it is what the probe of the last entry brings; it
is the same from then on, and nothing is done for it.  There is a row for each entry in the order of
declaration, which shows the probe of the last entry under the key with the result if it was asked for.
None of this is due to the counting, without which the replies and the state are the same. -/
theorem probed_as_declared (before after : List (Operation κ)) (key : κ) :
  let keys := entries.map MatrixEntry.key
  let probe := declaredProbe describe entries default s
  let declared := (declare describe entries (counting default)).run (s, [])
  let m := declared.1.tallied
  let first := (m.performAll before).run (.empty, declared.2)
  let answer := (m.result key).run first.2
  let last := (m.performAll after).run answer.2
  let verdict? (k : κ) := if .result k ∈ before then some ((m.result k).run first.2).1 else none
  let plain := (declare describe entries default).run s
  let uncounted := (plain.1.performAll before).run (.empty, plain.2)
  declared.2.2 = (unchecked entries).map .make
    ∧ (∃ checks : List Nat, first.2.2.2 = declared.2.2 ++ checks.map .check
      ∧ checks.Nodup
      ∧ ∀ i, i ∈ checks ↔ ∃ k, .result k ∈ before ∧ IsLast keys k i)
    ∧ (key ∉ keys → answer = (.error (.noProbe (describe key)), first.2)
      ∧ (m.perform (.probe key)).run first.2 = (.probe none, first.2))
    ∧ (∀ i entry, entries[i]? = some entry → IsLast keys key i →
      let run := (probe i entry).run.run first.2.2.1
      (.result key ∉ before →
        answer.1 = run.1 ∧ answer.2.2 = (run.2, first.2.2.2 ++ [.check i]))
      ∧ (m.perform (.probe key)).run first.2
          = (.probe (some (FeatureRow.ofProbe (probe i entry) (verdict? key))), first.2))
    ∧ (m.result key).run last.2 = (answer.1, last.2)
    ∧ (∃ rows, (m.perform .iter).run first.2 = (.rows rows, first.2)
      ∧ rows.map Prod.fst = keys
      ∧ ∀ k row, (k, row) ∈ rows → ∃ i entry, entries[i]? = some entry ∧ IsLast keys k i
        ∧ row = FeatureRow.ofProbe (probe i entry) (verdict? k))
    ∧ uncounted.1 = first.1
    ∧ uncounted.2 = (first.2.1, first.2.2.1)
  := by
  intro keys probe declared m first answer last verdict? plain uncounted
  obtain ⟨checks, hdeclared, hrun, hchecks⟩ := exists_run_declared describe entries default s before
  change declared = (plain.1, (plain.2, _)) at hdeclared
  have hm : m = plain.1.tallied := congrArg (fun declared => declared.1.tallied) hdeclared
  have hfirst : first = (uncounted.1, (uncounted.2.1, (uncounted.2.2,
      (unchecked entries).map .make ++ checks.map .check))) := by
    show (m.performAll before).run (.empty, declared.2) = _
    rw [hm, hdeclared]
    exact hrun
  have hkeys : plain.1.keys = keys := keys_declare describe entries default s
  have hkeys' : m.keys = keys := by rw [hm, keys_tallied, hkeys]
  have hverdict {k : κ} (hk : k ∈ keys) : first.2.1.get? k = verdict? k := by
    have hanswer := run_result_tallied plain.1 uncounted.2.1 uncounted.2.2
      ((unchecked entries).map .make ++ checks.map .check) k
    show _ = if _ then some ((m.result k).run first.2).1 else _
    rw [hm, hfirst, hanswer]
    exact hchecks.get?_verdicts (hkeys ▸ hk) uncounted.2.2
  constructor
  · rw [hdeclared]
  constructor
  · use checks
    constructor
    · rw [hfirst, hdeclared]
    constructor
    · exact hchecks.nodup
    · rw [← hkeys]
      exact hchecks.mem_checks_iff
  constructor
  · intro hkey
    rw [← hkeys'] at hkey
    have hdescribe : m.describe = describe := congrArg Matrix.describe hm
    constructor
    · rw [← hdescribe]
      exact run_result_of_not_mem hkey first.2
    · rw [run_perform_probe, probe?_eq_none_iff.2 hkey, Option.map_none]
  constructor
  · intro i entry hentry hlast run
    have hprobe : m.probe? key = some ((probe i entry).tallied (.check i)) := by
      rw [hm]
      exact probe?_declare describe entries default s hentry hlast
    have hgiven := hverdict hlast.mem
    constructor
    · intro hasked
      have hnone : first.2.1.get? key = none := hgiven.trans (if_neg hasked)
      have hask : answer = _ := (run_result_of_probe hprobe first.2).trans
        (Verdicts.run_ask_of_none key _ first.2.2 hnone)
      rw [hask]
      exact ⟨rfl, rfl⟩
    · rw [run_perform_probe, hprobe, hgiven, Option.map_some, FeatureRow.ofProbe_tallied]
  constructor
  · exact run_result_again m key after first.2
  constructor
  · use m.iter first.2.1
    constructor
    · rfl
    constructor
    · rw [keys_iter, hkeys']
    · intro k row hrow
      have hk : k ∈ keys := by
        rw [← hkeys', ← keys_iter]
        exact List.mem_map_of_mem hrow
      rw [← hverdict hk]
      rw [hm] at hrow
      exact mem_iter_declare describe entries default s hrow
  constructor
  · rw [hfirst]
  · rw [hfirst]

end Declared

/-- The second entry under a key hides the first one, whose check would have failed. -/
theorem probed_as_declared_hidden :
  let entries : List (MatrixEntry Nat Nat) :=
    [⟨1, "hidden", none, some (throw (.notSupported none))⟩, ⟨2, "other", none, none⟩,
      ⟨1, "last", none, none⟩]
  let default (_ : Nat) : StateM Nat (Action Nat Unit) := do
    modify (· + 1)
    return pure ()
  let declared := (declare toString entries (counting default)).run (0, [])
  let m := declared.1.tallied
  let first := (m.performAll [.result 2, .iter]).run (.empty, declared.2)
  entries[2]? = some ⟨1, "last", none, none⟩
    ∧ IsLast (entries.map MatrixEntry.key) 1 2
    ∧ Operation.result 1 ∉ [Operation.result 2, Operation.iter]
    ∧ 3 ∉ entries.map MatrixEntry.key
    ∧ first.2.2 = (2, [.make 2, .make 1, .check 1])
    ∧ ((m.result 1).run first.2).1 = .ok ()
    ∧ (m.result 3).run first.2 = (.error (.noProbe "3"), first.2)
  := by
  intro entries default declared m first
  have hlast : IsLast (entries.map MatrixEntry.key) 1 2 := by
    constructor
    · rfl
    · intro j hj
      have hend : (entries.map MatrixEntry.key)[j]? = none := List.getElem?_eq_none hj
      rw [hend]
      exact (Option.some_ne_none 1).symm
  have hentry : entries[2]? = some ⟨1, "last", none, none⟩ := rfl
  have hasked : Operation.result 1 ∉ [Operation.result 2, Operation.iter] := by decide
  have hkey : 3 ∉ entries.map MatrixEntry.key := by
    show 3 ∉ [1, 2, 1]
    decide
  obtain ⟨-, -, -, hcounts, -⟩ :=
    probed_as_declared toString entries default 0 [.result 2, .iter] [] 1
  obtain ⟨-, -, hmissing, -⟩ :=
    probed_as_declared toString entries default 0 [.result 2, .iter] [] 3
  constructor
  · exact hentry
  constructor
  · exact hlast
  constructor
  · exact hasked
  constructor
  · exact hkey
  constructor
  · rfl
  constructor
  · exact ((hcounts 2 _ hentry hlast).1 hasked).1
  · exact (hmissing hkey).1

end Operations

end Matrix

end Bpf
