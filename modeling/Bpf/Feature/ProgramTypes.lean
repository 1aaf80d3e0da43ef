import Bpf.Feature.Matrix
import Bpf.Program
import Bpf.Text.Lines

/-!
# Probes for program types

A program type is supported if the smallest program of that type loads.  Some types want an attach
type or a flag, some a kernel function as their target, and two of them are known by the way in which
the kernel refuses a program without a target.
-/

namespace Bpf

variable {σ : Type}

/-- One of the last five lines of a log has all the phrases in it. -/
def logTellsAll (log phrases : List String) : Bool :=
  (log.drop (log.length - 5)).any fun line => phrases.all (Text.contains line)

/-- A refusal with which the kernel says that it does not know what it was asked for. -/
def isRefusal (e : Error) : Bool := e.isErrno Errno.einval || e.isErrno Errno.e2big

theorem isRefusal_eq_true_iff {e : Error} :
  isRefusal e = true ↔ e.errno = some Errno.einval ∨ e.errno = some Errno.e2big
  := by
  simp [isRefusal, Error.isErrno]

/-- Loads a program for the sake of the answer. -/
def checkProgram (K : Kernel σ) (spec : ProgramSpec) : Action σ Unit := do
  match ← Action.attempt (Program.load K spec 0) with
  | .ok _ => pure ()
  | .error e => throw (if isRefusal e then .notSupported none else e)

/-- What the check of a program makes of the answer to the load. -/
theorem run_checkProgram (K : Kernel σ) (spec : ProgramSpec) (s : σ) :
  (checkProgram K spec).run.run s
    = (match ((Program.load K spec 0).run.run s).1 with
        | .ok _ => .ok ()
        | .error e => .error (if isRefusal e then .notSupported none else e),
      ((Program.load K spec 0).run.run s).2)
  := by
  rw [checkProgram, Action.run_attempt_bind]
  rcases (Program.load K spec 0).run.run s with ⟨e | program, s'⟩
  · rfl
  · rfl

/-- A program of the given type, with the attach type and the flags that some types require. -/
def minimalSpec (programType : ProgramType) (insns : List Insn) : ProgramSpec :=
  let spec : ProgramSpec := { programType, insns, license := "GPL" }
  match programType with
  | .cgroupSockAddr => { spec with attachType := some .cgroupInet4Connect }
  | .cgroupSockopt => { spec with attachType := some .cgroupGetsockopt }
  | .skLookup => { spec with attachType := some .skLookup }
  | .netfilter => { spec with attachType := some .netfilter }
  | .syscall => { spec with flags := Flag.sleepable }
  | _ => spec

namespace ProgramType

/-- The smallest program of a type. -/
def smallest (programType : ProgramType) : ProgramSpec := minimalSpec programType returnZero

/-- The check of a type that asks for a function of the kernel as the target. -/
def checkTarget (K : Kernel σ) (programType : ProgramType) (attachType : AttachType)
    (function : String) : Action σ Unit :=
  checkProgram K
    { programType.smallest with attachType := some attachType, attachTo := some function }

/-- The check for programs that implement kernel structures: that there is no target shows that the
type is known. -/
def checkStructOps (K : Kernel σ) : Action σ Unit := do
  match ← Action.attempt (checkProgram K structOps.smallest) with
  | .ok () => pure ()
  | .error e => if e.isErrno Errno.enotsupp then pure () else throw e

/-- The verifier got as far as asking for a target. -/
def asksForTarget (e : Error) : Bool :=
  match e with
  | .verifier source log =>
    source.errno = some Errno.einval && logTellsAll log ["must provide btf_id"]
  | _ => false

/-- The check for programs that replace functions of other programs. -/
def checkExtension (K : Kernel σ) : Action σ Unit := do
  match ← Action.attempt (Program.load K extension.smallest 1) with
  | .ok _ => pure ()
  | .error e =>
    if asksForTarget e then pure ()
    else throw (if isRefusal e then .notSupported none else e)

/-- The declared types, each with the first release that supports it, in the order of reports. -/
def declared : List (ProgramType × UInt16 × UInt16) :=
  [ (.socketFilter, 3, 19), (.kprobe, 4, 1), (.schedCls, 4, 1), (.schedAct, 4, 1),
    (.tracepoint, 4, 7), (.xdp, 4, 8), (.perfEvent, 4, 9), (.cgroupSkb, 4, 10),
    (.cgroupSock, 4, 10), (.lwtIn, 4, 10), (.lwtOut, 4, 10), (.lwtXmit, 4, 10),
    (.sockOps, 4, 13), (.skSkb, 4, 14), (.cgroupDevice, 4, 15), (.skMsg, 4, 17),
    (.rawTracepoint, 4, 17), (.cgroupSockAddr, 4, 17), (.lwtSeg6Local, 4, 18),
    (.lircMode2, 4, 18), (.skReuseport, 4, 19), (.flowDissector, 4, 20), (.cgroupSysctl, 5, 2),
    (.rawTracepointWritable, 5, 2), (.cgroupSockopt, 5, 3), (.tracing, 5, 5), (.structOps, 5, 6),
    (.extension, 5, 6), (.lsm, 5, 7), (.skLookup, 5, 9), (.syscall, 5, 14), (.netfilter, 6, 4) ]

/-- The check of a type for which it is not enough to load the smallest program. -/
def ownCheck (K : Kernel σ) : ProgramType → Option (Action σ Unit)
  | .tracing => some (checkTarget K .tracing .traceFentry "bpf_init")
  | .lsm => some (checkTarget K .lsm .lsmMac "file_mprotect")
  | .structOps => some (checkStructOps K)
  | .extension => some (checkExtension K)
  | _ => none

/-- The probes for the declared types. -/
def matrix (K : Kernel σ) : Matrix ProgramType σ :=
  Matrix.ofEntries Code.spelling
    (declared.map fun (t, major, minor) =>
      { key := t
        name := Code.text t ++ " program"
        version := some (.release major minor)
        check := ownCheck K t })
    fun t => checkProgram K t.smallest

/-- The check of a type. -/
def check (K : Kernel σ) (t : ProgramType) : Action σ Unit :=
  (ownCheck K t).getD (checkProgram K t.smallest)

/-- What kernels differ in is the check. -/
theorem probe?_matrix (K : Kernel σ) (t : ProgramType) :
  (matrix K).probe? t
    = (declared.reverse.find? fun entry => entry.1 = t).map fun entry =>
        { name := Code.text t ++ " program"
          version := some (.release entry.2.1 entry.2.2)
          check := check K t }
  := by
  rw [matrix, Matrix.probe?_ofEntries, ← List.map_reverse, List.find?_map, Option.map_map]
  apply Option.map_congr
  intro entry hentry
  have hkey : entry.1 = t := by simpa using List.find?_some hentry
  subst hkey
  rfl

end ProgramType

end Bpf
