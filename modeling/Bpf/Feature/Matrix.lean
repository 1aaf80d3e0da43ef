import Bpf.Feature.Probe

/-!
# Declared probes

A `Matrix` is a list of probes under keys, all of them declared beforehand; of several probes under
one key the last one counts.  The verdicts are kept apart from the declaration, in a `Verdicts`.
`Matrix.declare` makes the probe of every entry that does not bring one of its own, and
`Matrix.result` asks for a verdict.
-/

namespace Bpf

variable {κ σ : Type}

/-- A declaration of a probe, with a check of its own or without. -/
structure MatrixEntry (κ σ : Type) where
  key : κ
  name : String
  version : Option KernelVersion
  check : Option (Action σ Unit) := none

/-- The probe of an entry; one without a check gets the check that `default` makes. -/
def MatrixEntry.probe (default : κ → Action σ Unit) (entry : MatrixEntry κ σ) : Probe σ where
  name := entry.name
  version := entry.version
  check := entry.check.getD (default entry.key)

/-- Declared probes by key. -/
structure Matrix (κ σ : Type) where
  /-- The probes in the order of declaration. -/
  rows : List (κ × Probe σ)
  /-- How a key is called for which there is no probe. -/
  describe : κ → String

namespace Matrix

/-- The probe of an entry; one without a check gets the check that `default` makes. -/
def row {m : Type → Type} [Monad m] (default : κ → m (Action σ Unit)) (entry : MatrixEntry κ σ) :
    m (κ × Probe σ) := do
  match entry.check with
  | some check => return (entry.key, ⟨entry.name, entry.version, check⟩)
  | none =>
    let check ← default entry.key
    return (entry.key, ⟨entry.name, entry.version, check⟩)

/-- The matrix with the given entries. -/
def declare {m : Type → Type} [Monad m] (describe : κ → String) (entries : List (MatrixEntry κ σ))
    (default : κ → m (Action σ Unit)) : m (Matrix κ σ) := do
  let rows ← entries.mapM (row default)
  return ⟨rows, describe⟩

/-- The matrix with the given entries, where the checks made by `default` depend on nothing else. -/
def ofEntries (describe : κ → String) (entries : List (MatrixEntry κ σ))
    (default : κ → Action σ Unit) : Matrix κ σ :=
  Id.run (declare describe entries fun key => pure (default key))

theorem rows_ofEntries (describe : κ → String) (entries : List (MatrixEntry κ σ))
    (default : κ → Action σ Unit) :
  (ofEntries describe entries default).rows
    = entries.map fun entry => (entry.key, entry.probe default)
  := by
  have hrow (entry : MatrixEntry κ σ) :
      (row (m := Id) (fun key => pure (default key)) entry).run
        = (entry.key, entry.probe default) := by
    cases h : entry.check with
    | none => simp [row, h, MatrixEntry.probe]
    | some check => simp [row, h, MatrixEntry.probe]
  simp [ofEntries, declare, hrow]

variable [DecidableEq κ]

/-- The probe that counts for a key. -/
def probe? (m : Matrix κ σ) (key : κ) : Option (Probe σ) :=
  (m.rows.reverse.find? (fun row => row.1 = key)).map Prod.snd

theorem probe?_ofEntries (describe : κ → String) (entries : List (MatrixEntry κ σ))
    (default : κ → Action σ Unit) (key : κ) :
  (ofEntries describe entries default).probe? key
    = (entries.reverse.find? fun entry => entry.key = key).map (MatrixEntry.probe default)
  := by
  rw [probe?, rows_ofEntries, ← List.map_reverse, List.find?_map, Option.map_map]
  rfl

/-- The verdict for a key, from its probe if there is none yet. -/
def result (m : Matrix κ σ) (key : κ) : StateM (Verdicts κ × σ) Verdict := do
  match m.probe? key with
  | none => return .error (.noProbe (m.describe key))
  | some p => Verdicts.ask key p

theorem run_result (m : Matrix κ σ) (key : κ) (s : Verdicts κ × σ) :
  (m.result key).run s
    = match m.probe? key with
      | none => (.error (.noProbe (m.describe key)), s)
      | some p => (Verdicts.ask key p).run s
  := by
  rw [result]
  cases m.probe? key with
  | none => rfl
  | some p => rfl

/-- The answer is the verdict there is, or that of the probe, if there is a probe. -/
theorem answer_result (m : Matrix κ σ) (key : κ) (v : Verdicts κ) (s : σ) :
  ((m.result key).run (v, s)).1
    = match m.probe? key with
      | none => .error (.noProbe (m.describe key))
      | some p => (v.get? key).getD (p.run.run s).1
  := by
  rw [run_result]
  cases m.probe? key with
  | none => rfl
  | some p => apply Verdicts.answer_ask

/-- The keys in the order of declaration, each with the probe that counts for it. -/
def probes (m : Matrix κ σ) : List (κ × Probe σ) :=
  m.rows.filterMap fun row => (m.probe? row.1).map fun p => (row.1, p)

/-- The rows of a report, in the order of declaration. -/
def report (m : Matrix κ σ) (verdicts : Verdicts κ) : List FeatureRow :=
  m.probes.map fun entry => FeatureRow.ofProbe entry.2 (verdicts.get? entry.1)

end Matrix

end Bpf
