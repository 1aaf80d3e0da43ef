import Bpf.Feature.Cache
import Bpf.Proofs.CountedProbes
import Mathlib.Data.List.Dedup

/-!
# Probes on demand

Whatever is asked of a cache, its factory has been called once for each key that was asked for, and
the check of a key has been run once if its verdict was asked for.  The size of the cache and its
outcomes are what was asked for, and a verdict is kept.  Keys do not meet in a cache: if the factory and
the checks for a key depend only on a part of the state that is left alone by those for other keys, then
what is answered about a key depends only on what was asked about it before.
-/

namespace Bpf

variable {σ κ : Type}

namespace Cache

/-! ### Operations -/

/-- What can be asked of a cache. -/
inductive Operation (κ : Type) where
  | result (key : κ)
  | probe (key : κ)
  | outcomes
  | size
deriving DecidableEq

/-- The key that is asked for. -/
def Operation.key? {κ : Type} : Operation κ → Option κ
  | .result key => some key
  | .probe key => some key
  | .outcomes => none
  | .size => none

/-- What is answered. -/
inductive Reply (κ : Type) where
  | verdict (verdict : Verdict)
  /-- What can be seen of a probe. -/
  | row (row : FeatureRow)
  | outcomes (outcomes : List (κ × Outcome))
  | size (size : Nat)

variable (factory : κ → StateM σ (Probe σ))

section Operations

variable [DecidableEq κ]

/-- Carries out an operation. -/
def perform : Operation κ → StateM (Cache κ σ × σ) (Reply κ)
  | .result key => return .verdict (← result factory key)
  | .probe key => do
    let p ← probe factory key
    return .row (FeatureRow.ofProbe p ((← get).1.verdicts.get? key))
  | .outcomes => return .outcomes (← get).1.outcomes
  | .size => return .size (← get).1.size

/-- Carries out operations one after another. -/
def performAll : List (Operation κ) → StateM (Cache κ σ × σ) (List (Reply κ))
  | [] => return []
  | operation :: operations => do
    let reply ← perform factory operation
    let replies ← performAll operations
    return reply :: replies

theorem run_performAll_cons (operation : Operation κ) (operations : List (Operation κ))
    (x : Cache κ σ × σ) :
  (performAll factory (operation :: operations)).run x
    = let first := (perform factory operation).run x
      let rest := (performAll factory operations).run first.2
      (first.1 :: rest.1, rest.2)
  := rfl

/-! ### Probes and verdicts -/

section Probe

variable {factory} {c : Cache κ σ} {key : κ} {p : Probe σ}

theorem run_probe_of_some (h : c.made.get? key = some p) (s : σ) :
  (probe factory key).run (c, s) = (p, (c, s))
  := by
  simp only [probe, StateT.run_bind, StateT.run_get, pure_bind]
  rw [h]
  rfl

theorem run_probe_of_none (h : c.made.get? key = none) (s : σ) :
  (probe factory key).run (c, s)
    = let made := (factory key).run s
      (made.1, (⟨c.made.insert key made.1, c.verdicts⟩, made.2))
  := by
  simp only [probe, StateT.run_bind, StateT.run_get, pure_bind]
  rw [h]
  rfl

/-- A query makes the probe and then asks for the verdict. -/
theorem run_result_eq (x : Cache κ σ × σ) :
  (result factory key).run x
    = let made := (probe factory key).run x
      let asked := (Verdicts.ask key made.1).run (made.2.1.verdicts, made.2.2)
      (asked.1, (⟨made.2.1.made, asked.2.1⟩, asked.2.2))
  := rfl

/-- A verdict that there is is given, and nothing is done for it. -/
theorem run_result_of_some {verdict : Verdict} (hmade : c.made.get? key = some p)
    (hverdict : c.verdicts.get? key = some verdict) (s : σ) :
  (result factory key).run (c, s) = (verdict, (c, s))
  := by
  rw [run_result_eq, run_probe_of_some hmade]
  dsimp only
  rw [Verdicts.run_ask_of_some key p s hverdict]

end Probe

section Kept

variable (key : κ) (x : Cache κ σ × σ)

theorem verdicts_probe :
  ((probe factory key).run x).2.1.verdicts = x.1.verdicts
  := by
  obtain ⟨c, s⟩ := x
  cases h : c.made.get? key with
  | some p => rw [run_probe_of_some h]
  | none => rw [run_probe_of_none h]

theorem keys_made_probe :
  ((probe factory key).run x).2.1.made.keys = x.1.made.missing key ++ x.1.made.keys
  := by
  obtain ⟨c, s⟩ := x
  unfold Assoc.missing
  split
  next h =>
    rw [run_probe_of_none h]
    exact Assoc.keys_insert_of_get?_eq_none h _
  next h =>
    obtain ⟨p, hp⟩ := Option.ne_none_iff_exists'.1 h
    rw [run_probe_of_some hp]
    rfl

/-- The probe is kept under its key. -/
theorem get?_made_probe :
  ((probe factory key).run x).2.1.made.get? key = some ((probe factory key).run x).1
  := by
  obtain ⟨c, s⟩ := x
  cases h : c.made.get? key with
  | some p =>
      rw [run_probe_of_some h]
      exact h
  | none =>
      rw [run_probe_of_none h]
      exact (Assoc.get?_insert _ _ _ _).trans (if_pos rfl)

theorem get?_made_probe_of_ne {k : κ} (h : k ≠ key) :
  ((probe factory key).run x).2.1.made.get? k = x.1.made.get? k
  := by
  obtain ⟨c, s⟩ := x
  cases hkey : c.made.get? key with
  | some p => rw [run_probe_of_some hkey]
  | none =>
      rw [run_probe_of_none hkey]
      exact (Assoc.get?_insert _ _ _ _).trans (if_neg h)

/-- A verdict that there is is the answer. -/
theorem answer_result_of_some {x : Cache κ σ × σ} {key : κ} {verdict : Verdict}
    (h : x.1.verdicts.get? key = some verdict) :
  ((result factory key).run x).1 = verdict
  := by
  rw [run_result_eq]
  dsimp only
  rw [verdicts_probe, Verdicts.run_ask_of_some key _ _ h]

/-- After a query there is a probe and a verdict, which is what was answered. -/
theorem get?_result :
  (∃ p, ((result factory key).run x).2.1.made.get? key = some p)
    ∧ ((result factory key).run x).2.1.verdicts.get? key = some ((result factory key).run x).1
  := by
  rw [run_result_eq]
  constructor
  · exact ⟨_, get?_made_probe factory key x⟩
  · apply Verdicts.get?_ask

end Kept

/-! ### What an operation adds -/

section Step

variable (operation : Operation κ)

/-- The key for which an operation calls the factory. -/
def unmade (c : Cache κ σ) (operation : Operation κ) : List κ :=
  operation.key?.elim [] c.made.missing

/-- The key for which an operation runs the check. -/
def unasked (c : Cache κ σ) : Operation κ → List κ
  | .result key => c.verdicts.missing key
  | .probe _ | .outcomes | .size => []

theorem mem_unmade_iff {c : Cache κ σ} {operation : Operation κ} {k : κ} :
  k ∈ c.unmade operation ↔ operation.key? = some k ∧ k ∉ c.made.keys
  := by
  unfold unmade
  cases operation.key? with
  | none => simp
  | some key =>
      rw [Option.elim_some, Assoc.mem_missing_iff, Option.some_inj, eq_comm]

theorem mem_unasked_iff {c : Cache κ σ} {operation : Operation κ} {k : κ} :
  k ∈ c.unasked operation ↔ operation = .result k ∧ k ∉ c.verdicts.keys
  := by
  cases operation with
  | result key =>
      rw [unasked, Assoc.mem_missing_iff, Operation.result.injEq, eq_comm]
  | _ => simp [unasked]

theorem nodup_unmade (c : Cache κ σ) (operation : Operation κ) :
  (c.unmade operation).Nodup
  := by
  unfold unmade
  cases operation.key? with
  | none => exact List.nodup_nil
  | some key => exact Assoc.nodup_missing c.made key

theorem nodup_unasked (c : Cache κ σ) (operation : Operation κ) :
  (c.unasked operation).Nodup
  := by
  cases operation with
  | result key => exact Assoc.nodup_missing c.verdicts key
  | _ => exact List.nodup_nil

theorem keys_made_perform (x : Cache κ σ × σ) :
  ((perform factory operation).run x).2.1.made.keys = x.1.unmade operation ++ x.1.made.keys
  := by
  cases operation with
  | result key => exact keys_made_probe factory key x
  | probe key => exact keys_made_probe factory key x
  | outcomes => rfl
  | size => rfl

theorem keys_verdicts_perform (x : Cache κ σ × σ) :
  ((perform factory operation).run x).2.1.verdicts.keys
    = x.1.unasked operation ++ x.1.verdicts.keys
  := by
  cases operation with
  | result key =>
      show ((result factory key).run x).2.1.verdicts.keys = _
      rw [run_result_eq]
      dsimp only
      rw [Verdicts.keys_ask, verdicts_probe]
      rfl
  | probe key => exact congrArg Assoc.keys (verdicts_probe factory key x)
  | outcomes => rfl
  | size => rfl

/-- Probes are kept. -/
theorem get?_made_perform_of_some {x : Cache κ σ × σ} {k : κ} {p : Probe σ}
    (h : x.1.made.get? k = some p) :
  ((perform factory operation).run x).2.1.made.get? k = some p
  := by
  have hprobe (key : κ) : ((probe factory key).run x).2.1.made.get? k = some p := by
    by_cases hk : k = key
    · subst hk
      rw [← Prod.eta x, run_probe_of_some h]
      exact h
    · rw [get?_made_probe_of_ne factory key x hk, h]
  cases operation with
  | result key => exact hprobe key
  | probe key => exact hprobe key
  | outcomes => exact h
  | size => exact h

/-- Verdicts are kept. -/
theorem get?_verdicts_perform_of_some {x : Cache κ σ × σ} {k : κ} {verdict : Verdict}
    (h : x.1.verdicts.get? k = some verdict) :
  ((perform factory operation).run x).2.1.verdicts.get? k = some verdict
  := by
  cases operation with
  | result key =>
      show ((result factory key).run x).2.1.verdicts.get? k = _
      rw [run_result_eq]
      apply Verdicts.get?_ask_of_some
      rw [verdicts_probe, h]
  | probe key =>
      show ((probe factory key).run x).2.1.verdicts.get? k = _
      rw [verdicts_probe, h]
  | outcomes => exact h
  | size => exact h

end Step

/-- What has been asked for is kept through any number of operations. -/
theorem get?_performAll_of_some (operations : List (Operation κ)) {x : Cache κ σ × σ} {k : κ}
    {p : Probe σ} {verdict : Verdict} (hmade : x.1.made.get? k = some p)
    (hverdict : x.1.verdicts.get? k = some verdict) :
  ((performAll factory operations).run x).2.1.made.get? k = some p
    ∧ ((performAll factory operations).run x).2.1.verdicts.get? k = some verdict
  := by
  induction operations generalizing x with
  | nil => exact ⟨hmade, hverdict⟩
  | cons operation operations ih =>
      rw [run_performAll_cons]
      apply ih
      · exact get?_made_perform_of_some factory operation hmade
      · exact get?_verdicts_perform_of_some factory operation hverdict

/-- An answer is given again, and nothing is done for it. -/
theorem run_result_again (key : κ) (operations : List (Operation κ)) (x : Cache κ σ × σ) :
  let asked := (result factory key).run x
  let last := (performAll factory operations).run asked.2
  (result factory key).run last.2 = (asked.1, last.2)
  := by
  intro asked last
  obtain ⟨⟨p, hmade⟩, hverdict⟩ := get?_result factory key x
  obtain ⟨hmade, hverdict⟩ := get?_performAll_of_some factory operations hmade hverdict
  exact run_result_of_some hmade hverdict last.2.2

end Operations

/-! ### Counting -/

/-- The factory that puts its calls on the list, and the runs of the checks that it makes. -/
def counting (key : κ) :
    StateM (σ × List (ProbeCall κ κ)) (Probe (σ × List (ProbeCall κ κ))) := do
  modify (tally (.make key))
  let p ← onPart (Part.first σ (List (ProbeCall κ κ))) (factory key)
  return p.tallied (.check key)

theorem run_counting (key : κ) (s : σ) (calls : List (ProbeCall κ κ)) :
  (counting factory key).run (s, calls)
    = (((factory key).run s).1.tallied (.check key), (((factory key).run s).2, calls ++ [.make key]))
  := rfl

/-- The cache with the probes that the counting factory makes. -/
def tallied (c : Cache κ σ) : Cache κ (σ × List (ProbeCall κ κ)) where
  made := ⟨c.made.entries.map fun entry => (entry.1, entry.2.tallied (.check entry.1))⟩
  verdicts := c.verdicts

theorem size_tallied (c : Cache κ σ) :
  c.tallied.size = c.size
  := List.length_map _

section Counting

variable [DecidableEq κ]

theorem get?_made_tallied (c : Cache κ σ) (key : κ) :
  c.tallied.made.get? key = (c.made.get? key).map (Probe.tallied (.check key))
  := by
  rw [Assoc.get?, Assoc.get?, tallied, List.find?_map, Option.map_map, Option.map_map]
  apply Option.map_congr
  intro entry hentry
  have hkey : entry.1 = key := by simpa using List.find?_some hentry
  rw [← hkey]
  rfl

theorem outcomes_tallied (c : Cache κ σ) :
  c.tallied.outcomes = c.outcomes
  := by
  simp [outcomes, tallied, Function.comp_def]

/-- The calls that an operation leads to. -/
def newCalls (c : Cache κ σ) (operation : Operation κ) : List (ProbeCall κ κ) :=
  (c.unmade operation).map .make ++ (c.unasked operation).map .check

variable (c : Cache κ σ) (s : σ) (calls : List (ProbeCall κ κ))

theorem run_probe_counting (key : κ) :
  (probe (counting factory) key).run (c.tallied, (s, calls))
    = let made := (probe factory key).run (c, s)
      (made.1.tallied (.check key),
        (made.2.1.tallied, (made.2.2, calls ++ (c.made.missing key).map .make)))
  := by
  have hget := get?_made_tallied c key
  unfold Assoc.missing
  split
  next h =>
    rw [h] at hget
    rw [run_probe_of_none hget, run_probe_of_none h, run_counting]
    dsimp only
    rw [Assoc.insert, Assoc.insert, Assoc.erase_of_get?_eq_none hget, Assoc.erase_of_get?_eq_none h]
    rfl
  next h =>
    obtain ⟨p, hp⟩ := Option.ne_none_iff_exists'.1 h
    rw [hp] at hget
    rw [run_probe_of_some hget, run_probe_of_some hp, List.map_nil, List.append_nil]

theorem run_result_counting (key : κ) :
  (result (counting factory) key).run (c.tallied, (s, calls))
    = let asked := (result factory key).run (c, s)
      (asked.1, (asked.2.1.tallied, (asked.2.2, calls ++ c.newCalls (.result key))))
  := by
  have hverdicts := verdicts_probe factory key (c, s)
  rw [run_result_eq, run_result_eq, run_probe_counting]
  rcases hrun : (probe factory key).run (c, s) with ⟨p, made, s'⟩
  rw [hrun] at hverdicts
  change made.verdicts = c.verdicts at hverdicts
  have htallied : made.tallied.verdicts = c.verdicts := hverdicts
  dsimp only
  rw [htallied, hverdicts, Verdicts.run_ask_tallied key p c.verdicts s' ProbeCall.check,
    List.append_assoc]
  rfl

/-- Counting leaves the replies as they are and puts the calls on the list. -/
theorem run_perform_counting (operation : Operation κ) :
  (perform (counting factory) operation).run (c.tallied, (s, calls))
    = let next := (perform factory operation).run (c, s)
      (next.1, (next.2.1.tallied, (next.2.2, calls ++ c.newCalls operation)))
  := by
  cases operation with
  | result key =>
      have hrun := run_result_counting factory c s calls key
      exact congrArg (fun asked => (Reply.verdict asked.1, asked.2)) hrun
  | probe key =>
      have hrun := run_probe_counting factory c s calls key
      have hcalls : c.newCalls (.probe key) = (c.made.missing key).map .make := List.append_nil _
      rw [hcalls]
      exact congrArg (fun made =>
        (Reply.row (FeatureRow.ofProbe made.1 (made.2.1.verdicts.get? key)), made.2)) hrun
  | outcomes =>
      show (Reply.outcomes c.tallied.outcomes, c.tallied, s, calls)
        = (Reply.outcomes c.outcomes, c.tallied, s, calls ++ [])
      rw [outcomes_tallied, List.append_nil]
  | size =>
      show (Reply.size c.tallied.size, c.tallied, s, calls)
        = (Reply.size c.size, c.tallied, s, calls ++ [])
      rw [size_tallied, List.append_nil]

end Counting

/-! ### Accounts -/

/-- The cache holds what the operations have asked for, and the calls are those that it took. -/
structure Accounted (c : Cache κ σ) (operations : List (Operation κ))
    (calls : List (ProbeCall κ κ)) : Prop where
  calls : calls.Perm (c.made.keys.map .make ++ c.verdicts.keys.map .check)
  nodup_made : c.made.keys.Nodup
  nodup_verdicts : c.verdicts.keys.Nodup
  mem_made (key : κ) : key ∈ c.made.keys ↔ key ∈ operations.filterMap Operation.key?
  mem_verdicts (key : κ) : key ∈ c.verdicts.keys ↔ .result key ∈ operations

namespace Accounted

theorem empty :
  Accounted (Cache.empty : Cache κ σ) [] []
  := by
  constructor
  · exact List.Perm.refl []
  · exact List.nodup_nil
  · exact List.nodup_nil
  · exact fun _ => Iff.rfl
  · exact fun _ => Iff.rfl.trans (iff_of_false List.not_mem_nil List.not_mem_nil)

variable {c : Cache κ σ} {operations : List (Operation κ)} {calls : List (ProbeCall κ κ)}

/-- No call is made twice. -/
theorem nodup (h : Accounted c operations calls) :
  calls.Nodup
  := by
  apply h.calls.nodup_iff.2
  apply List.Nodup.append
  · exact h.nodup_made.map fun _ _ => ProbeCall.make.inj
  · exact h.nodup_verdicts.map fun _ _ => ProbeCall.check.inj
  · intro call hmake hcheck
    obtain ⟨_, -, rfl⟩ := List.mem_map.1 hmake
    obtain ⟨_, -, hcall⟩ := List.mem_map.1 hcheck
    cases hcall

theorem make_mem_iff (h : Accounted c operations calls) (key : κ) :
  .make key ∈ calls ↔ key ∈ operations.filterMap Operation.key?
  := by
  rw [h.calls.mem_iff, ← h.mem_made]
  simp

theorem check_mem_iff (h : Accounted c operations calls) (key : κ) :
  .check key ∈ calls ↔ .result key ∈ operations
  := by
  rw [h.calls.mem_iff, ← h.mem_verdicts]
  simp

variable [DecidableEq κ]

/-- What one operation adds is accounted for. -/
theorem perform (h : Accounted c operations calls) (operation : Operation κ) (s : σ) :
  Accounted ((perform factory operation).run (c, s)).2.1 (operations ++ [operation])
    (calls ++ c.newCalls operation)
  := by
  have hmade := keys_made_perform factory operation (c, s)
  have hverdicts := keys_verdicts_perform factory operation (c, s)
  constructor
  · rw [hmade, hverdicts, newCalls, List.map_append, List.map_append, List.append_assoc]
    apply List.perm_append_comm.trans
    rw [List.append_assoc]
    apply List.Perm.append_left
    apply (h.calls.append_left _).trans
    apply List.perm_append_comm_assoc
  · rw [hmade]
    apply List.Nodup.append (nodup_unmade c operation) h.nodup_made
    exact fun key hnew hold => (mem_unmade_iff.1 hnew).2 hold
  · rw [hverdicts]
    apply List.Nodup.append (nodup_unasked c operation) h.nodup_verdicts
    exact fun key hnew hold => (mem_unasked_iff.1 hnew).2 hold
  · intro key
    have hlast : key ∈ [operation].filterMap Operation.key? ↔ operation.key? = some key := by simp
    rw [hmade, List.mem_append, mem_unmade_iff, h.mem_made, List.filterMap_append, List.mem_append,
      hlast]
    tauto
  · intro key
    rw [hverdicts, List.mem_append, mem_unasked_iff, h.mem_verdicts, List.mem_append,
      List.mem_singleton, eq_comm]
    tauto

theorem size_eq (h : Accounted c operations calls) :
  c.size = (operations.filterMap Operation.key?).dedup.length
  := by
  have hkeys : c.made.keys.Perm (operations.filterMap Operation.key?).dedup := by
    apply (List.perm_ext_iff_of_nodup h.nodup_made (List.nodup_dedup _)).2
    intro key
    rw [List.mem_dedup, h.mem_made]
  rw [← hkeys.length_eq, Assoc.keys, List.length_map]
  rfl

/-- There are verdicts for the keys whose results have been asked for. -/
theorem get?_verdicts (h : Accounted c operations calls) (s : σ) (key : κ) :
  c.verdicts.get? key
    = if .result key ∈ operations then some ((result factory key).run (c, s)).1 else none
  := by
  have hmem := h.mem_verdicts key
  split
  next hasked =>
    rw [← hmem, ← Assoc.get?_ne_none_iff_mem_keys, Option.ne_none_iff_exists'] at hasked
    obtain ⟨verdict, hverdict⟩ := hasked
    rw [hverdict, answer_result_of_some factory hverdict]
  next hasked =>
    rw [← hmem] at hasked
    exact Assoc.get?_eq_none_iff_not_mem_keys.2 hasked

/-- The outcomes are those of the keys that have been asked for, each of them once. -/
theorem outcomes_eq (h : Accounted c operations calls) :
  (c.outcomes.map Prod.fst).Nodup
    ∧ ∀ key outcome, (key, outcome) ∈ c.outcomes
      ↔ key ∈ operations.filterMap Operation.key?
        ∧ outcome = Outcome.ofVerdict (c.verdicts.get? key)
  := by
  have houtcomes : c.outcomes
      = c.made.keys.map fun key => (key, Outcome.ofVerdict (c.verdicts.get? key)) := by
    rw [Assoc.keys, List.map_map]
    rfl
  rw [houtcomes]
  constructor
  · rw [List.map_map]
    exact (List.map_id c.made.keys).symm ▸ h.nodup_made
  · intro key outcome
    rw [← h.mem_made, List.mem_map]
    constructor
    · rintro ⟨_, hkey, hentry⟩
      cases hentry
      exact ⟨hkey, rfl⟩
    · rintro ⟨hkey, rfl⟩
      exact ⟨key, hkey, rfl⟩

end Accounted

/-- Counting leaves all replies as they are, and every call is accounted for. -/
theorem run_performAll_counting [DecidableEq κ] (operations : List (Operation κ)) {c : Cache κ σ}
    {past : List (Operation κ)} {calls : List (ProbeCall κ κ)} (h : Accounted c past calls) (s : σ) :
  let next := (performAll factory operations).run (c, s)
  ∃ calls', (performAll (counting factory) operations).run (c.tallied, (s, calls))
      = (next.1, (next.2.1.tallied, (next.2.2, calls')))
    ∧ Accounted next.2.1 (past ++ operations) calls'
  := by
  induction operations generalizing c past calls s with
  | nil =>
      use calls
      constructor
      · rfl
      · rw [List.append_nil]
        exact h
  | cons operation operations ih =>
      obtain ⟨calls', hrun, hcalls⟩ := ih (h.perform factory operation s) _
      use calls'
      constructor
      · rw [run_performAll_cons, run_performAll_cons, run_perform_counting]
        dsimp only
        rw [hrun]
      · rw [← List.append_cons] at hcalls
        exact hcalls

/-! ### Keys of their own -/

section Own

variable [DecidableEq κ]

/-- Every probe is one that the factory makes for its key, and every verdict is that of such a probe. -/
structure Own (factory : κ → StateM σ (Probe σ)) (c : Cache κ σ) : Prop where
  made {key : κ} {p : Probe σ} : c.made.get? key = some p → ∃ t, p = ((factory key).run t).1
  verdicts {key : κ} {verdict : Verdict} : c.verdicts.get? key = some verdict →
    ∃ t t', verdict = (((factory key).run t).1.run.run t').1

namespace Own

variable {factory : κ → StateM σ (Probe σ)} {x : Cache κ σ × σ}

theorem probe (h : Own factory x.1) (key : κ) :
  (∃ t, ((probe factory key).run x).1 = ((factory key).run t).1)
    ∧ Own factory ((Cache.probe factory key).run x).2.1
  := by
  obtain ⟨c, s⟩ := x
  cases hkey : c.made.get? key with
  | some p =>
      rw [run_probe_of_some hkey]
      exact ⟨h.made hkey, h⟩
  | none =>
      rw [run_probe_of_none hkey]
      constructor
      · exact ⟨s, rfl⟩
      constructor
      · intro k p hp
        rw [Assoc.get?_insert] at hp
        split at hp
        next hk =>
          cases hp
          exact ⟨s, by rw [hk]⟩
        next => exact h.made hp
      · exact h.verdicts

theorem result (h : Own factory x.1) (key : κ) :
  (∃ t t', ((result factory key).run x).1 = (((factory key).run t).1.run.run t').1)
    ∧ Own factory ((Cache.result factory key).run x).2.1
  := by
  obtain ⟨⟨t, hprobe⟩, hown⟩ := h.probe key
  rw [run_result_eq]
  rcases hrun : (Cache.probe factory key).run x with ⟨p, c, s⟩
  rw [hrun] at hprobe hown
  dsimp only at hprobe hown ⊢
  cases hverdict : c.verdicts.get? key with
  | some verdict =>
      rw [Verdicts.run_ask_of_some key p s hverdict]
      exact ⟨hown.verdicts hverdict, hown⟩
  | none =>
      rw [Verdicts.run_ask_of_none key p s hverdict, hprobe]
      constructor
      · exact ⟨t, s, rfl⟩
      constructor
      · exact hown.made
      · intro k verdict hk
        rw [Assoc.get?_insert] at hk
        split at hk
        next heq =>
          cases hk
          exact ⟨t, s, by rw [heq]⟩
        next => exact hown.verdicts hk

theorem perform (h : Own factory x.1) (operation : Operation κ) :
  Own factory ((perform factory operation).run x).2.1
  := by
  cases operation with
  | result key => exact (h.result key).2
  | probe key => exact (h.probe key).2
  | outcomes => exact h
  | size => exact h

theorem performAll (operations : List (Operation κ)) (h : Own factory x.1) :
  Own factory ((performAll factory operations).run x).2.1
  := by
  induction operations generalizing x with
  | nil => exact h
  | cons operation operations ih =>
      rw [run_performAll_cons]
      exact ih (h.perform operation)

end Own

theorem own_empty (factory : κ → StateM σ (Probe σ)) :
  Own factory (empty : Cache κ σ)
  := by
  constructor
  · exact fun h => nomatch h
  · exact fun h => nomatch h

end Own

/-! ### Keys apart -/

section Apart

variable {ν α : Type}

/-- A step that depends only on the part of the state that belongs to a key, and leaves the parts that
belong to the other keys as they are. -/
structure KeepsTo (view : κ → σ → ν) (key : κ) (step : StateM σ α) : Prop where
  answer {s t : σ} : view key s = view key t → (step.run s).1 = (step.run t).1
  own {s t : σ} : view key s = view key t → view key (step.run s).2 = view key (step.run t).2
  others (s : σ) {k : κ} : k ≠ key → view k (step.run s).2 = view k s

/-- The factory and the probes that it makes keep to the part of the state that belongs to their
key. -/
structure Apart (view : κ → σ → ν) (factory : κ → StateM σ (Probe σ)) : Prop where
  make (key : κ) : KeepsTo view key (factory key)
  run (key : κ) (s : σ) : KeepsTo view key ((factory key).run s).1.run

variable [DecidableEq κ]

/-- How far a key has come in a cache.  Whatever was done for it was done as if it had been asked for
in the state `s` and nothing else had. -/
inductive Stage (view : κ → σ → ν) (factory : κ → StateM σ (Probe σ)) (s : σ) (x : Cache κ σ × σ)
    (key : κ) : Prop where
  | unmade (hmade : x.1.made.get? key = none) (hverdict : x.1.verdicts.get? key = none)
    (hview : view key x.2 = view key s)
  | made (hmade : x.1.made.get? key = some ((factory key).run s).1)
    (hverdict : x.1.verdicts.get? key = none)
    (hview : view key x.2 = view key ((factory key).run s).2)
  | asked (hmade : x.1.made.get? key = some ((factory key).run s).1)
    (hverdict : x.1.verdicts.get? key = some ((result factory key).run (empty, s)).1)

variable {view : κ → σ → ν} {factory : κ → StateM σ (Probe σ)} {s : σ} {x y : Cache κ σ × σ}
  {key : κ}

/-- What is asked first is answered by the probe that is made first. -/
theorem answer_result_empty :
  ((result factory key).run (empty, s)).1
    = (((factory key).run s).1.run.run ((factory key).run s).2).1
  := rfl

namespace Stage

/-- A key stays where it is if nothing of it is changed. -/
theorem of_eq (h : Stage view factory s x key) (hmade : y.1.made.get? key = x.1.made.get? key)
    (hverdict : y.1.verdicts.get? key = x.1.verdicts.get? key)
    (hview : view key y.2 = view key x.2) :
  Stage view factory s y key
  := by
  cases h with
  | unmade hmade' hverdict' hview' =>
      exact .unmade (hmade.trans hmade') (hverdict.trans hverdict') (hview.trans hview')
  | made hmade' hverdict' hview' =>
      exact .made (hmade.trans hmade') (hverdict.trans hverdict') (hview.trans hview')
  | asked hmade' hverdict' => exact .asked (hmade.trans hmade') (hverdict.trans hverdict')

theorem probe (hview : Apart view factory) (h : ∀ k, Stage view factory s x k) (key : κ) :
  ((probe factory key).run x).1 = ((factory key).run s).1
    ∧ ∀ k, Stage view factory s ((Cache.probe factory key).run x).2 k
  := by
  obtain ⟨c, t⟩ := x
  cases h key with
  | unmade hmade hverdict hkey =>
      have hanswer := (hview.make key).answer hkey
      rw [run_probe_of_none hmade]
      constructor
      · exact hanswer
      · intro k
        by_cases hk : k = key
        · subst hk
          apply made
          · exact (Assoc.get?_insert _ _ _ _).trans ((if_pos rfl).trans (congrArg some hanswer))
          · exact hverdict
          · exact (hview.make k).own hkey
        · apply (h k).of_eq
          · exact (Assoc.get?_insert _ _ _ _).trans (if_neg hk)
          · rfl
          · exact (hview.make key).others t hk
  | made hmade | asked hmade =>
      rw [run_probe_of_some hmade]
      exact ⟨rfl, h⟩

theorem result (hview : Apart view factory) (h : ∀ k, Stage view factory s x k) (key : κ) :
  ((result factory key).run x).1 = ((Cache.result factory key).run (empty, s)).1
    ∧ ∀ k, Stage view factory s ((Cache.result factory key).run x).2 k
  := by
  obtain ⟨hprobe, hstage⟩ := probe hview h key
  have hmade := get?_made_probe factory key x
  rw [run_result_eq]
  rcases hrun : (Cache.probe factory key).run x with ⟨p, c, t⟩
  rw [hrun] at hprobe hstage hmade
  dsimp only at hprobe hstage hmade ⊢
  cases hstage key with
  | unmade hmade' => 
      rw [hmade] at hmade'
      cases hmade'
  | made _ hverdict hkey =>
      have hrun := hview.run key s
      rw [← hprobe] at hrun
      have hanswer := hrun.answer hkey
      rw [Verdicts.run_ask_of_none key p t hverdict]
      constructor
      · rw [answer_result_empty, ← hprobe]
        exact hanswer
      · intro k
        by_cases hk : k = key
        · subst hk
          apply asked
          · exact hmade.trans (congrArg some hprobe)
          · rw [answer_result_empty, ← hprobe, ← hanswer]
            exact (Assoc.get?_insert _ _ _ _).trans (if_pos rfl)
        · apply (hstage k).of_eq
          · rfl
          · exact (Assoc.get?_insert _ _ _ _).trans (if_neg hk)
          · exact hrun.others t hk
  | asked _ hverdict =>
      rw [Verdicts.run_ask_of_some key p t hverdict]
      exact ⟨rfl, hstage⟩

/-- One operation takes keys from one stage to another. -/
theorem perform (hview : Apart view factory) (h : ∀ k, Stage view factory s x k)
    (operation : Operation κ) (k : κ) :
  Stage view factory s ((perform factory operation).run x).2 k
  := by
  cases operation with
  | result key => exact (result hview h key).2 k
  | probe key => exact (probe hview h key).2 k
  | outcomes => exact h k
  | size => exact h k

/-- Any number of operations. -/
theorem performAll (hview : Apart view factory) (operations : List (Operation κ))
    (h : ∀ k, Stage view factory s x k) (k : κ) :
  Stage view factory s ((performAll factory operations).run x).2 k
  := by
  induction operations generalizing x with
  | nil => exact h k
  | cons operation operations ih =>
      apply ih
      exact perform hview h operation

end Stage

end Apart

/-! ### What is asked of a cache -/

variable [DecidableEq κ]

/-- Whatever was asked of a new cache before, the factory was called once for each key that was asked
for, and the check of each key whose result was asked for was run once; nothing else was called.  The
size is the number of keys that were asked for, and the outcomes are theirs, each of them once: what
the result is now if it was asked for, and that the check was not run otherwise.  Neither the size nor
the outcomes call anything, and nor does a result that was asked for before, which is what it was the
first time.  A result is always that of a probe made for its own key.  None of this is due to the
counting, without which the replies and the state are the same.  Unless the factory or the checks carry
something from one key to another through the state, a key has the result and the probe that it would
have if it were the only one. -/
theorem probed_on_demand (factory : κ → StateM σ (Probe σ)) (s : σ) (before after : List (Operation κ))
    (key : κ) :
  let counted := counting factory
  let first := (performAll counted before).run (empty, (s, []))
  let calls := first.2.2.2
  let keys := before.filterMap Operation.key?
  let verdict? (k : κ) :=
    if .result k ∈ before then some ((result counted k).run first.2).1 else none
  let answer := (result counted key).run first.2
  let last := (performAll counted after).run answer.2
  let uncounted := (performAll factory before).run (empty, s)
  calls.Nodup
    ∧ (∀ k, .make k ∈ calls ↔ k ∈ keys)
    ∧ (∀ k, .check k ∈ calls ↔ .result k ∈ before)
    ∧ (perform counted .size).run first.2 = (.size keys.dedup.length, first.2)
    ∧ (∃ outcomes, (perform counted .outcomes).run first.2 = (.outcomes outcomes, first.2)
      ∧ (outcomes.map Prod.fst).Nodup
      ∧ ∀ k outcome, (k, outcome) ∈ outcomes
        ↔ k ∈ keys ∧ outcome = Outcome.ofVerdict (verdict? k))
    ∧ (result counted key).run last.2 = (answer.1, last.2)
    ∧ (∃ t t', answer.1 = (((factory key).run t).1.run.run t').1)
    ∧ uncounted.1 = first.1
    ∧ uncounted.2.2 = first.2.2.1
    ∧ ∀ {ν : Type} (view : κ → σ → ν), Apart view factory →
      answer.1 = ((result factory key).run (empty, s)).1
        ∧ ((perform counted (.probe key)).run first.2).1
          = .row (FeatureRow.ofProbe ((factory key).run s).1 (verdict? key))
  := by
  intro counted first calls keys verdict? answer last uncounted
  obtain ⟨calls', hfirst, haccount⟩ := run_performAll_counting factory before .empty s
  change first = _ at hfirst
  have hcalls : Accounted uncounted.2.1 before calls := by
    show Accounted _ _ first.2.2.2
    rw [hfirst]
    exact haccount
  have hanswer (k : κ) : ((result counted k).run first.2).1
      = ((result factory k).run uncounted.2).1 := by
    rw [hfirst]
    exact congrArg Prod.fst (run_result_counting factory _ _ _ k)
  have hverdict (k : κ) : uncounted.2.1.verdicts.get? k = verdict? k := by
    show _ = if _ then _ else _
    rw [hanswer]
    exact hcalls.get?_verdicts factory uncounted.2.2 k
  constructor
  · exact hcalls.nodup
  constructor
  · exact hcalls.make_mem_iff
  constructor
  · exact hcalls.check_mem_iff
  constructor
  · show (Reply.size first.2.1.size, first.2) = _
    rw [← hcalls.size_eq, hfirst]
    exact congrArg (fun size => (Reply.size size, _)) (size_tallied _)
  constructor
  · obtain ⟨hnodup, hmem⟩ := hcalls.outcomes_eq
    use uncounted.2.1.outcomes
    constructor
    · show (Reply.outcomes first.2.1.outcomes, first.2) = _
      rw [hfirst, outcomes_tallied]
    constructor
    · exact hnodup
    · intro k outcome
      rw [hmem, hverdict]
  constructor
  · exact run_result_again counted key after first.2
  constructor
  · show ∃ t t', ((result counted key).run first.2).1 = _
    rw [hanswer]
    exact (((own_empty factory).performAll (x := (empty, s)) before).result key).1
  constructor
  · rw [hfirst]
  constructor
  · rw [hfirst]
  intro ν view hview
  have hstage := Stage.performAll hview before (x := (empty, s)) fun k => .unmade rfl rfl rfl
  constructor
  · show ((result counted key).run first.2).1 = _
    rw [hanswer]
    exact (Stage.result hview hstage key).1
  · rw [hfirst, run_perform_counting]
    show Reply.row (.ofProbe ((probe factory key).run uncounted.2).1
      (((probe factory key).run uncounted.2).2.1.verdicts.get? key)) = _
    rw [verdicts_probe, hverdict, (Stage.probe hview hstage key).1]

/-- A probe for a feature that goes away when it has been found once; the state tells which features
are gone. -/
def vanishing (key : Nat) : Probe (Nat → Bool) where
  name := "feature " ++ toString key
  version := none
  check := ExceptT.mk do
    let gone ← get
    set (Function.update gone key true)
    return if gone key then .error (.notSupported none) else .ok ()

theorem apart_vanishing :
  Apart (fun key gone => gone key) (fun key => (pure (vanishing key) : StateM (Nat → Bool) _))
  := by
  constructor
  · intro key
    constructor
    · exact fun _ => rfl
    · exact fun h => h
    · exact fun _ _ _ => rfl
  · intro key _
    constructor
    · intro s t h
      show Probe.judge _ _ (if s key then _ else _) = Probe.judge _ _ (if t key then _ else _)
      rw [h]
    · intro s t _
      exact (Function.update_self key true s).trans (Function.update_self key true t).symm
    · intro s k h
      exact Function.update_of_ne h true s

theorem probed_on_demand_vanishing :
  let counted := counting fun key => (pure (vanishing key) : StateM (Nat → Bool) _)
  let before : List (Operation Nat) := [.result 2, .probe 1, .result 2]
  let first := (performAll counted before).run (empty, (fun _ => false, []))
  Apart (fun key gone => gone key) (fun key => (pure (vanishing key) : StateM (Nat → Bool) _))
    ∧ first.2.2.2 = [.make 2, .check 2, .make 1]
    ∧ ((result counted 1).run first.2).1 = .ok ()
  := by
  intro counted before first
  constructor
  · exact apart_vanishing
  constructor
  · rfl
  · obtain ⟨-, -, -, -, -, -, -, -, -, happart⟩ := probed_on_demand
      (fun key => (pure (vanishing key) : StateM (Nat → Bool) _)) (fun _ => false) before [] 1
    exact (happart _ apart_vanishing).1

end Cache

end Bpf
