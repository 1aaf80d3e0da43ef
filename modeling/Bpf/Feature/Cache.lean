import Bpf.Feature.Probe

/-!
# Probes on demand

A `Cache` holds probes for keys that cannot be declared beforehand.  The probe for a key is made by a
factory when it is first asked for, and never again; its verdict is kept as well.
-/

namespace Bpf

variable {κ σ : Type}

/-- The probes asked for so far, and the verdicts. -/
structure Cache (κ σ : Type) where
  made : Assoc κ (Probe σ)
  verdicts : Verdicts κ

namespace Cache

/-- The cache before anything is asked for. -/
def empty : Cache κ σ := ⟨⟨[]⟩, ⟨[]⟩⟩

/-- The verdicts, with the state below. -/
def verdictPart : Part (Cache κ σ × σ) (Verdicts κ × σ) where
  get whole := (whole.1.verdicts, whole.2)
  set whole part := ({ whole.1 with verdicts := part.1 }, part.2)

variable [DecidableEq κ]

/-- The probe for a key, from the factory if it has not been made yet. -/
def probe (factory : κ → StateM σ (Probe σ)) (key : κ) : StateM (Cache κ σ × σ) (Probe σ) := do
  match (← get).1.made.get? key with
  | some p => return p
  | none =>
    let p ← onPart (Part.second (Cache κ σ) σ) (factory key)
    modify fun s => ({ s.1 with made := s.1.made.insert key p }, s.2)
    return p

/-- The verdict for a key, from its probe if there is none yet. -/
def result (factory : κ → StateM σ (Probe σ)) (key : κ) : StateM (Cache κ σ × σ) Verdict := do
  let p ← probe factory key
  onPart verdictPart (Verdicts.ask key p)

/-- The cache with a probe for a key, unless it has one already. -/
def including (c : Cache κ σ) (key : κ) (p : Probe σ) : Cache κ σ :=
  match c.made.get? key with
  | some _ => c
  | none => { c with made := c.made.insert key p }

theorem verdicts_including (c : Cache κ σ) (key : κ) (p : Probe σ) :
  (c.including key p).verdicts = c.verdicts
  := by
  unfold including
  cases c.made.get? key with
  | some q => rfl
  | none => rfl

theorem mem_made_including {c : Cache κ σ} {key : κ} {p : Probe σ} {entry : κ × Probe σ} :
  entry ∈ (c.including key p).made.entries
    ↔ entry ∈ c.made.entries ∨ (c.made.get? key = none ∧ entry = (key, p))
  := by
  unfold including
  cases h : c.made.get? key with
  | some q => simp
  | none =>
      simp only [Assoc.insert, Assoc.erase_of_get?_eq_none h, List.mem_cons, true_and]
      apply or_comm

theorem get?_made_including {c : Cache κ σ} {key j : κ} {p : Probe σ} :
  (c.including key p).made.get? j
    = if j = key then some ((c.made.get? key).getD p) else c.made.get? j
  := by
  unfold including
  cases h : c.made.get? key with
  | some q =>
      by_cases hj : j = key
      · rw [if_pos hj, hj, h]
        rfl
      · rw [if_neg hj]
  | none => apply Assoc.get?_insert

/-- Where the factory does nothing but make probes, the first of them is asked. -/
theorem run_result (make : κ → Probe σ) (key : κ) (c : Cache κ σ) (s : σ) :
  (result (fun key => pure (make key)) key).run (c, s)
    = (onPart verdictPart (Verdicts.ask key ((c.made.get? key).getD (make key)))).run
        (c.including key (make key), s)
  := by
  simp only [result, probe, StateT.run_bind, StateT.run_get, pure_bind, including]
  cases c.made.get? key with
  | some p => rfl
  | none => rfl

/-- The number of keys asked for. -/
def size (c : Cache κ σ) : Nat := c.made.entries.length

/-- The keys asked for, each with what is known of it. -/
def outcomes (c : Cache κ σ) : List (κ × Outcome) :=
  c.made.entries.map fun entry => (entry.1, Outcome.ofVerdict (c.verdicts.get? entry.1))

end Cache

end Bpf
