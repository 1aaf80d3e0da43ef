import Bpf.Proofs.Watching

/-!
# Counting the calls of probes

A state gets a list besides it, on which each call of a factory and each run of a check is put when it
happens.  A probe that is `tallied` does what it did before and puts its run on the list; so a verdict
that is asked for adds to the list if and only if there was none, and it is the verdict that there is
from then on.
-/

namespace Bpf

variable {σ κ γ : Type}

/-! ### Keys of association lists -/

namespace Assoc

variable {α : Type} [DecidableEq κ]

/-- The keys under which there are values, the latest first. -/
def keys (m : Assoc κ α) : List κ := m.entries.map Prod.fst

theorem get?_eq_none_iff_not_mem_keys {m : Assoc κ α} {k : κ} :
  m.get? k = none ↔ k ∉ m.keys
  := by
  simp only [get?, keys, Option.map_eq_none_iff, List.find?_eq_none, decide_eq_true_eq, List.mem_map,
    not_exists, not_and]

theorem get?_ne_none_iff_mem_keys {m : Assoc κ α} {k : κ} :
  m.get? k ≠ none ↔ k ∈ m.keys
  := by
  rw [Ne, get?_eq_none_iff_not_mem_keys, not_not]

/-- The key, if there is no value under it. -/
def missing (m : Assoc κ α) (k : κ) : List κ := if m.get? k = none then [k] else []

theorem mem_missing_iff {m : Assoc κ α} {k j : κ} :
  j ∈ m.missing k ↔ j = k ∧ j ∉ m.keys
  := by
  unfold missing
  split
  next h =>
    rw [get?_eq_none_iff_not_mem_keys] at h
    rw [List.mem_singleton]
    exact ⟨fun hj => ⟨hj, hj ▸ h⟩, And.left⟩
  next h =>
    have hk := get?_ne_none_iff_mem_keys.1 h
    constructor
    · exact fun hj => absurd hj List.not_mem_nil
    · rintro ⟨rfl, hj⟩
      exact absurd hk hj

theorem nodup_missing (m : Assoc κ α) (k : κ) :
  (m.missing k).Nodup
  := by
  unfold missing
  split
  · exact List.nodup_singleton k
  · exact List.nodup_nil

/-- A new key comes before the others. -/
theorem keys_insert_of_get?_eq_none {m : Assoc κ α} {k : κ} (h : m.get? k = none) (a : α) :
  (m.insert k a).keys = k :: m.keys
  := by
  rw [insert, erase_of_get?_eq_none h]
  rfl

end Assoc

/-! ### Calls -/

/-- A call of a factory for a key, or a run of a check. -/
inductive ProbeCall (κ ι : Type) where
  | make (key : κ)
  | check (index : ι)
deriving DecidableEq

/-- The state with one more call on the list besides it. -/
def tally (call : γ) (s : σ × List γ) : σ × List γ := (s.1, s.2 ++ [call])

/-- The probe that puts each run of its check on the list. -/
def Probe.tallied (call : γ) (p : Probe σ) : Probe (σ × List γ) :=
  Probe.noting (tally call) ⟨p.name, p.version, Action.onPart (Part.first σ (List γ)) p.check⟩

theorem Probe.run_tallied (call : γ) (p : Probe σ) (s : σ) (calls : List γ) :
  (p.tallied call).run.run (s, calls)
    = ((p.run.run s).1, ((p.run.run s).2, calls ++ [call]))
  := rfl

theorem FeatureRow.ofProbe_tallied (call : γ) (p : Probe σ) (verdict : Option Verdict) :
  ofProbe (p.tallied call) verdict = ofProbe p verdict
  := rfl

/-! ### Verdicts that are asked for -/

namespace Verdicts

variable [DecidableEq κ] (key : κ) (p : Probe σ) (v : Verdicts κ) (s : σ)

theorem run_ask_of_some {v : Verdicts κ} {verdict : Verdict} (h : v.get? key = some verdict) :
  (ask key p).run (v, s) = (verdict, (v, s))
  := by
  rw [run_ask, h]

theorem run_ask_of_none {v : Verdicts κ} (h : v.get? key = none) :
  (ask key p).run (v, s) = ((p.run.run s).1, (v.insert key (p.run.run s).1, (p.run.run s).2))
  := by
  rw [run_ask, h]

/-- The answer is the verdict from then on. -/
theorem get?_ask :
  ((ask key p).run (v, s)).2.1.get? key = some ((ask key p).run (v, s)).1
  := by
  cases h : v.get? key with
  | some verdict =>
      rw [run_ask_of_some key p s h]
      exact h
  | none =>
      rw [run_ask_of_none key p s h]
      exact (Assoc.get?_insert _ _ _ _).trans (if_pos rfl)

theorem get?_ask_of_ne {k : κ} (h : k ≠ key) :
  ((ask key p).run (v, s)).2.1.get? k = v.get? k
  := by
  cases hkey : v.get? key with
  | some verdict => rw [run_ask_of_some key p s hkey]
  | none =>
      rw [run_ask_of_none key p s hkey]
      exact (Assoc.get?_insert _ _ _ _).trans (if_neg h)

/-- Verdicts are kept. -/
theorem get?_ask_of_some {k : κ} {verdict : Verdict} (h : v.get? k = some verdict) :
  ((ask key p).run (v, s)).2.1.get? k = some verdict
  := by
  by_cases hk : k = key
  · subst hk
    rw [run_ask_of_some k p s h]
    exact h
  · rw [get?_ask_of_ne key p v s hk, h]

theorem keys_ask :
  ((ask key p).run (v, s)).2.1.keys = v.missing key ++ v.keys
  := by
  unfold Assoc.missing
  split
  next h =>
    rw [run_ask_of_none key p s h]
    exact Assoc.keys_insert_of_get?_eq_none h _
  next h =>
    obtain ⟨verdict, hverdict⟩ := Option.ne_none_iff_exists'.1 h
    rw [run_ask_of_some key p s hverdict]
    rfl

/-- The check that a query runs is the only call that it puts on the list. -/
theorem run_ask_tallied (call : κ → γ) (calls : List γ) :
  (ask key (p.tallied (call key))).run (v, (s, calls))
    = let asked := (ask key p).run (v, s)
      (asked.1, (asked.2.1, (asked.2.2, calls ++ (v.missing key).map call)))
  := by
  unfold Assoc.missing
  split
  next h =>
    rw [run_ask_of_none key p s h, run_ask_of_none key _ _ h, Probe.run_tallied]
    rfl
  next h =>
    obtain ⟨verdict, hverdict⟩ := Option.ne_none_iff_exists'.1 h
    rw [run_ask_of_some key p s hverdict, run_ask_of_some key _ _ hverdict, List.map_nil,
      List.append_nil]

end Verdicts

end Bpf
