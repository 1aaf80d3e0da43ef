import Bpf.Pin

/-!
# Programs

`Program.load` loads the program that a `ProgramSpec` describes.  With a log, a verdict is only final
once the log has not been cut short: `loadGrowing` asks again with four times the room until the log
fits or the room is the largest there is.  A `Program` is a handle on a loaded program, and holds no
descriptor once it is closed.
-/

namespace Bpf

variable {σ : Type}

/-- What can be attached: the descriptor of a program, or none if the program is closed. -/
abbrev ProgramHandle := Option Descriptor

/-- All that it takes to load a program. -/
structure ProgramSpec where
  programType : ProgramType
  insns : List Insn
  name : String := ""
  attachType : Option AttachType := none
  /-- The kernel function that the program targets. -/
  attachTo : Option String := none
  license : String := "MIT"
  flags : UInt32 := 0

/-! ### Loading -/

/-- The error says that the log has been cut short, and there can be more room than `size`. -/
def wantsRoom (e : Error) (size : Nat) : Bool :=
  match e with
  | .verifier source _ =>
    source.errno = some Errno.enospc && decide (1 ≤ size) && decide (size < maxLogSize)
  | _ => false

theorem lt_maxLogSize_of_wantsRoom {e : Error} {size : Nat} (h : wantsRoom e size = true) :
  1 ≤ size ∧ size < maxLogSize
  := by
  unfold wantsRoom at h
  split at h
  · simp only [Bool.and_eq_true, decide_eq_true_eq] at h
    exact ⟨h.1.2, h.2⟩
  · cases h

/-- The room after `size`. -/
def grownSize (size : Nat) : Nat := min (4 * size) maxLogSize

/-- Loads a program, again and again while the log is cut short and there can be more room. -/
def loadGrowing (K : Kernel σ) (load : ProgramLoad) : Action σ Descriptor := do
  match ← Action.attempt (K.loadProgram load) with
  | .ok fd => pure fd
  | .error e =>
    if wantsRoom e load.logSize then
      loadGrowing K { load with logSize := grownSize load.logSize }
    else throw e
termination_by maxLogSize - load.logSize
decreasing_by
  rename_i h
  have := lt_maxLogSize_of_wantsRoom h
  simp only [grownSize]
  omega

/-- The id of the kernel function that a program targets, if it targets one. -/
def targetId (K : Kernel σ) : Option String → Action σ (Option UInt32)
  | none => pure none
  | some function => some <$> K.btfId function

/-! ### Handles -/

/-- A handle on a loaded program. -/
structure Program where
  /-- The descriptor, until the handle is closed. -/
  fd : Option Descriptor
  programType : ProgramType
deriving DecidableEq

namespace Program

/-- The request for a program, with a log of the verifier unless `logLevel` is zero. -/
def request (K : Kernel σ) (spec : ProgramSpec) (logLevel : UInt32) : Action σ ProgramLoad := do
  match NulFree.ofString? spec.license with
  | none => throw (.invalidInput "license contains a NUL byte")
  | some license =>
    let btfId ← targetId K spec.attachTo
    let room ← Action.ofStep (do return K.logSize (← get))
    return {
      programType := spec.programType
      attachType := spec.attachType
      btfId
      insns := spec.insns
      license
      name := spec.name
      flags := spec.flags
      logLevel
      logSize := if logLevel > 0 then room else 0 }

/-- Loads a program, with a log of the verifier unless `logLevel` is zero. -/
def load (K : Kernel σ) (spec : ProgramSpec) (logLevel : UInt32) : Action σ Program := do
  let fd ← loadGrowing K (← request K spec logLevel)
  return ⟨some fd, spec.programType⟩

/-- A program that has been loaded is open. -/
theorem exists_descriptor_of_load {K : Kernel σ} {spec : ProgramSpec} {logLevel : UInt32} {s s' : σ}
    {program : Program} (h : (load K spec logLevel).run.run s = (.ok program, s')) :
  ∃ fd, program = ⟨some fd, spec.programType⟩
  := by
  rw [load] at h
  rcases hrequest : (request K spec logLevel).run.run s with ⟨e | load, s₁⟩
  · rw [Action.run_bind_of_error hrequest] at h
    cases h
  · rw [Action.run_bind_of_ok hrequest] at h
    rcases hfd : (loadGrowing K load).run.run s₁ with ⟨e | fd, s₂⟩
    · rw [Action.run_bind_of_error hfd] at h
      cases h
    · rw [Action.run_bind_of_ok hfd] at h
      cases h
      exact ⟨fd, rfl⟩

/-- The handle that owns the descriptor of a program. -/
def ofDescriptor (K : Kernel σ) (fd : Descriptor) : Action σ Program := do
  let info ← K.programInfo fd
  return ⟨some fd, info.programType⟩

/-- The descriptor of an open handle. -/
def descriptor (p : Program) : Except Error Descriptor :=
  match p.fd with
  | some fd => .ok fd
  | none => .error (.invalidInput "program is closed")

/-- What the kernel reports about the program. -/
def info (K : Kernel σ) (p : Program) : Action σ ProgramInfo := do
  K.programInfo (← Action.ofExcept p.descriptor)

/-- The id that the kernel gave the program. -/
def id (K : Kernel σ) (p : Program) : Action σ UInt32 := return (← p.info K).id

/-- Pins the program. -/
def pin (K : Kernel σ) (p : Program) (path : Path) : Action σ Unit := do
  Pin.add K (← Action.ofExcept p.descriptor) path

/-- The handle without its descriptor. -/
def close (p : Program) : Program := { p with fd := none }

end Program

end Bpf
