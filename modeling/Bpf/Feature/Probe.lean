import Bpf.Action
import Bpf.Assoc

/-!
# Probes

A `Probe` is a check for a feature under a name.  `Probe.judge` turns what the check answers into a
verdict: that something is not supported decides, a verdict about another feature is passed on, and
every other error leaves the question open.  `Verdicts.ask` runs the check only while there is no
verdict, so a verdict never changes, whatever the kernel says later.  An `Outcome` is what a report
shows of a probe.
-/

namespace Bpf

variable {σ : Type}

/-- A check for a feature, on a state of type `σ`. -/
structure Probe (σ : Type) where
  name : String
  /-- The first release known to have the feature. -/
  version : Option KernelVersion
  check : Action σ Unit

namespace Probe

/-- The verdict on a feature whose check has given an answer. -/
def judge (name : String) (version : Option KernelVersion) : Except Error Unit → Verdict
  | .ok () => .ok ()
  | .error (.notSupported reason) => .error (.notSupported name version reason)
  | .error (.feature e) => .error e
  | .error e => .error (.inconclusive name e)

section Judge

variable {name : String} {version : Option KernelVersion} {answer : Except Error Unit}

theorem judge_eq_ok_iff :
  judge name version answer = .ok () ↔ answer = .ok ()
  := by
  rcases answer with (_ | _ | _ | _ | _ | _ | _ | _ | _ | _) | _
  all_goals simp [judge]

/-- A verdict that something is not there is the own one of the feature, or it has been passed on. -/
theorem judge_eq_notSupported_iff {name' : String} {version' : Option KernelVersion}
    {reason : Option String} :
  judge name version answer = .error (.notSupported name' version' reason)
    ↔ (name' = name ∧ version' = version ∧ answer = .error (.notSupported reason))
      ∨ answer = .error (.feature (.notSupported name' version' reason))
  := by
  rcases answer with (_ | _ | _ | _ | _ | _ | _ | _ | _ | _) | _
  all_goals simp [judge, eq_comm]

/-- Every error that is no answer about a feature leaves the question open. -/
theorem judge_of_open {e : Error} (hreason : ∀ reason, e ≠ .notSupported reason)
    (hfeature : ∀ source, e ≠ .feature source) :
  judge name version (.error e) = .error (.inconclusive name e)
  := by
  cases e with
  | notSupported reason => exact absurd rfl (hreason reason)
  | feature source => exact absurd rfl (hfeature source)
  | _ => rfl

end Judge

/-- Runs the check. -/
def run (p : Probe σ) : StateM σ Verdict := do
  let answer ← p.check.run
  return judge p.name p.version answer

theorem run_run (p : Probe σ) (s : σ) :
  p.run.run s = (judge p.name p.version (p.check.run.run s).1, (p.check.run.run s).2)
  := rfl

end Probe

/-! ### Verdicts -/

/-- The verdicts so far, by key. -/
abbrev Verdicts (κ : Type) := Assoc κ Verdict

/-- The verdict under a key, from the probe if there is none yet. -/
def Verdicts.ask {κ : Type} [DecidableEq κ] (key : κ) (p : Probe σ) :
    StateM (Verdicts κ × σ) Verdict := do
  match (← get).1.get? key with
  | some verdict => return verdict
  | none =>
    let verdict ← onPart (Part.second (Verdicts κ) σ) p.run
    modify fun s => (s.1.insert key verdict, s.2)
    return verdict

theorem Verdicts.run_ask {κ : Type} [DecidableEq κ] (key : κ) (p : Probe σ) (v : Verdicts κ)
    (s : σ) :
  (ask key p).run (v, s)
    = match v.get? key with
      | some verdict => (verdict, (v, s))
      | none => ((p.run.run s).1, (v.insert key (p.run.run s).1, (p.run.run s).2))
  := by
  cases h : v.get? key with
  | some verdict =>
      simp only [ask, StateT.run_bind, StateT.run_get, pure_bind]
      rw [h]
      rfl
  | none =>
      simp only [ask, StateT.run_bind, StateT.run_get, pure_bind]
      rw [h]
      rfl

/-- The answer is the verdict there is, or that of the probe. -/
theorem Verdicts.answer_ask {κ : Type} [DecidableEq κ] (key : κ) (p : Probe σ) (v : Verdicts κ)
    (s : σ) :
  ((ask key p).run (v, s)).1 = (v.get? key).getD (p.run.run s).1
  := by
  rw [run_ask]
  cases v.get? key with
  | some verdict => rfl
  | none => rfl

/-! ### Outcomes -/

/-- What is known about a feature. -/
inductive Outcome where
  | notRun
  | supported
  | notSupported (reason : Option String)
  | inconclusive (message : String)
deriving DecidableEq

namespace Outcome

/-- What a verdict makes known, if there is one. -/
def ofVerdict : Option Verdict → Outcome
  | none => .notRun
  | some (.ok ()) => .supported
  | some (.error (.notSupported _ _ reason)) => .notSupported reason
  | some (.error e) => .inconclusive e.message

/-- The outcome in words. -/
def text : Outcome → String
  | .notRun => "not probed"
  | .supported => "supported"
  | .notSupported none => "not supported"
  | .notSupported (some reason) => s!"not supported ({reason})"
  | .inconclusive message => s!"unknown ({message})"

/-- The outcome as an object. -/
def toJson : Outcome → Json
  | .notRun => .object [("status", .string "not_run")]
  | .supported => .object [("status", .string "supported")]
  | .notSupported reason =>
    .object [("status", .string "not_supported"), ("reason", Json.optional Json.string reason)]
  | .inconclusive message =>
    .object [("status", .string "inconclusive"), ("error", .string message)]

end Outcome

/-! ### Reports -/

/-- One row of a report on features. -/
structure FeatureRow where
  name : String
  version : Option KernelVersion
  outcome : Outcome
deriving DecidableEq

namespace FeatureRow

/-- The row of a probe. -/
def ofProbe (p : Probe σ) (verdict : Option Verdict) : FeatureRow :=
  ⟨p.name, p.version, Outcome.ofVerdict verdict⟩

/-- The row as an object. -/
def toJson (row : FeatureRow) : Json :=
  .object
    [ ("name", .string row.name), ("version", Json.optional KernelVersion.toJson row.version),
      ("outcome", row.outcome.toJson) ]

end FeatureRow

end Bpf
