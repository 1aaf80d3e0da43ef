import Bpf.Feature.ProgramTypes

/-!
# Probes for attachments

The ways in which a kernel lets programs be attached.  A check makes a request that cannot succeed,
and tells from the error number how far the kernel got with it.
-/

namespace Bpf

variable {σ : Type}

/-- A way to attach programs. -/
inductive AttachFeature where
  | progAttach
  /-- The replacement of one of several programs of a control group. -/
  | progAttachReplace
  | bpfLink
  | progQuery
  | tcx
  | netkit
  | kprobeMulti
  | uprobeMulti
deriving DecidableEq

namespace AttachFeature

/-- The features in the order of reports. -/
def all : List AttachFeature :=
  [.progAttach, .progAttachReplace, .bpfLink, .progQuery, .tcx, .netkit, .kprobeMulti, .uprobeMulti]

/-- The name of a feature in data. -/
def key : AttachFeature → String
  | .progAttach => "prog_attach"
  | .progAttachReplace => "prog_attach_replace"
  | .bpfLink => "bpf_link"
  | .progQuery => "prog_query"
  | .tcx => "tcx"
  | .netkit => "netkit"
  | .kprobeMulti => "kprobe_multi"
  | .uprobeMulti => "uprobe_multi"

/-- The name of a feature in text. -/
def text : AttachFeature → String
  | .progAttach => "BPF_PROG_ATTACH"
  | .progAttachReplace => "BPF_PROG_ATTACH atomic replacement of MULTI progs"
  | .bpfLink => "bpf_link"
  | .progQuery => "BPF_PROG_QUERY"
  | .tcx => "tcx"
  | .netkit => "netkit"
  | .kprobeMulti => "bpf_link_kprobe_multi"
  | .uprobeMulti => "bpf_link_uprobe_multi"

/-- The first release with the feature. -/
def version : AttachFeature → KernelVersion
  | .progAttach => .release 4 10
  | .progAttachReplace => .release 5 5
  | .bpfLink => .release 5 7
  | .progQuery => .release 4 15
  | .tcx => .release 6 6
  | .netkit => .release 6 7
  | .kprobeMulti => .release 5 18
  | .uprobeMulti => .release 6 6

/-- The number of a descriptor or an interface that nobody has. -/
def nowhere : UInt32 := 0xffffffff

/-- The descriptor that nobody has. -/
def nobody : Descriptor := { number := nowhere }

/-! ### Checks -/

/-- Loads a trivial program.  A kernel that refuses it cannot attach programs of that type either. -/
def loadTrivial (K : Kernel σ) (programType : ProgramType) (attachType : Option AttachType) :
    Action σ Descriptor := do
  let spec : ProgramSpec :=
    { programType, insns := [Insn.mov64Imm .result 0, Insn.exit], attachType }
  match ← Action.attempt (Program.load K spec 0) with
  | .ok program => Action.ofExcept program.descriptor
  | .error _ => throw (.notSupported none)

/-- What the answer to a request says that only a kernel without the feature refuses with one of
`refusals`, and one with the feature with `refused` at the latest. -/
def reached (refusals : List Errno) (refused : Option Errno) :
    Except Error Unit → Except Error Unit
  | .ok () => .ok ()
  | .error e =>
    if refusals.any e.isErrno then .error (.notSupported none)
    else if refused.any e.isErrno then .ok ()
    else .error e

/-- The check for attachments without links, which came together with programs for control groups. -/
def checkProgAttach (K : Kernel σ) : Action σ Unit := do
  let _ ← loadTrivial K .cgroupSkb none

/-- The check for replacements: the flag is accepted, the target is not. -/
def checkProgAttachReplace (K : Kernel σ) : Action σ Unit := do
  checkProgAttach K
  let program ← loadTrivial K .cgroupSkb (some .cgroupInetIngress)
  let answer ← Action.attempt <| K.attachProgram
    { target := nowhere
      program := program
      attachType := .cgroupInetIngress
      flags := Flag.replace
      replace := 0 }
  Action.ofExcept (reached [Errno.einval] (some Errno.ebadf) answer)

/-- Asks for a link for the sake of the answer. -/
def tryLink (K : Kernel σ) (request : LinkCreate) : Action σ (Except Error Unit) := do
  let answer ← Action.attempt (K.createLink request)
  return answer.map fun _ => ()

/-- The check for links: there is no such program. -/
def checkLink (K : Kernel σ) : Action σ Unit := do
  let answer ← tryLink K
    { program := nobody
      target := nowhere
      attachType := .cgroupInetIngress
      flags := 0
      extra := .none }
  Action.ofExcept (reached [Errno.einval] (some Errno.ebadf) answer)

/-- The check for queries: only a kernel that knows them looks for the target. -/
def checkQuery (K : Kernel σ) : Action σ Unit := do
  match ← Action.attempt (K.queryPrograms nowhere .cgroupInetIngress) with
  | .ok _ => throw (.fatal "syscall succeeded unexpectedly")
  | .error e => if e.isErrno Errno.ebadf then pure () else throw (.notSupported none)

/-- The check for a chain of programs: only a kernel that knows it looks for the interface. -/
def checkChain (K : Kernel σ) (attachType : AttachType) : Action σ Unit := do
  let program ← loadTrivial K .schedCls none
  let answer ← tryLink K
    { program := program
      target := nowhere
      attachType
      flags := 0
      extra := .ordered 0 0 }
  match answer with
  | .ok () => throw (.fatal s!"{Code.text attachType} link created on a nonexistent interface")
  | .error e => Action.ofExcept (reached [Errno.einval] (some Errno.enodev) (.error e))

/-- The function of the kernel that the check for kernel probes attaches to. -/
def probedSymbol : NulFree := ⟨"vprintk", by decide⟩

/-- The check for links with many kernel probes. -/
def checkKprobeMulti (K : Kernel σ) : Action σ Unit := do
  let program ← loadTrivial K .kprobe (some .traceKprobeMulti)
  let answer ← tryLink K
    { program := program
      target := 0
      attachType := .traceKprobeMulti
      flags := 0
      extra := .kprobeMulti 0 [probedSymbol] [] [] }
  Action.ofExcept (reached [Errno.einval, Errno.eopnotsupp] none answer)

/-- A path that is no binary. -/
def rootPath : NulFree := ⟨"/", by decide⟩

/-- The check for links with many probes of a binary: only a kernel that knows them looks at the
path. -/
def checkUprobeMulti (K : Kernel σ) : Action σ Unit := do
  let program ← loadTrivial K .kprobe (some .traceUprobeMulti)
  let answer ← tryLink K
    { program := program
      target := 0
      attachType := .traceUprobeMulti
      flags := 0
      extra := .uprobeMulti rootPath [0] [] [] 0 0 }
  Action.ofExcept (reached [Errno.einval] (some Errno.ebadf) answer)

/-- The check for a feature. -/
def check (K : Kernel σ) : AttachFeature → Action σ Unit
  | .progAttach => checkProgAttach K
  | .progAttachReplace => checkProgAttachReplace K
  | .bpfLink => checkLink K
  | .progQuery => checkQuery K
  | .tcx => checkChain K .tcxIngress
  | .netkit => checkChain K .netkitPrimary
  | .kprobeMulti => checkKprobeMulti K
  | .uprobeMulti => checkUprobeMulti K

/-- The probes for all the features. -/
def matrix (K : Kernel σ) : Matrix AttachFeature σ :=
  Matrix.ofEntries text
    (all.map fun feature =>
      { key := feature, name := feature.text, version := some feature.version })
    (check K)

theorem probe?_matrix (K : Kernel σ) (feature : AttachFeature) :
  (matrix K).probe? feature = some ⟨feature.text, some feature.version, check K feature⟩
  := by
  rw [matrix, Matrix.probe?_ofEntries]
  cases feature with
  | _ => rfl

end AttachFeature

end Bpf
