import Bpf.Feature.Attachments
import Bpf.Feature.HelperCalls
import Bpf.Feature.Instructions

/-!
# Hosts

A `Host` is the state of a kernel together with what has been found out about its features.  The
`Probes` of a kernel are declared beforehand, except that those for calls of helpers are made when
they are asked for.  Each feature is probed at most once: `Probes.ask` asks for a verdict, `report`
lists what is known without asking the kernel, and `probeAll` runs every declared probe before it
reports.
-/

namespace Bpf

variable {σ : Type}

/-- A feature of a kernel. -/
inductive Feature where
  | programType (programType : ProgramType)
  | insn (feature : InsnFeature)
  | attachment (feature : AttachFeature)
  | helperCall (call : HelperCall)
deriving DecidableEq

/-- The probes for the features of a kernel with states of type `σ`. -/
structure Probes (σ : Type) where
  programTypes : Matrix ProgramType σ
  insns : Matrix InsnFeature σ
  attachments : Matrix AttachFeature σ
  /-- The probe for a call of a helper, which may ask for verdicts on program types. -/
  helperCall : HelperCall → Probe (Verdicts ProgramType × σ)

/-- The probes for a kernel. -/
def Probes.ofKernel (K : Kernel σ) : Probes σ where
  programTypes := ProgramType.matrix K
  insns := InsnFeature.matrix K
  attachments := AttachFeature.matrix K
  helperCall call := HelperCall.probe (ProgramType.matrix K) (HelperCall.tryLoad K call) call

/-- What has been found out about the features of a kernel with states of type `σ`. -/
structure Features (σ : Type) where
  programTypes : Verdicts ProgramType
  insns : Verdicts InsnFeature
  attachments : Verdicts AttachFeature
  helperCalls : Cache HelperCall (Verdicts ProgramType × σ)

/-- The features of a kernel of which nothing has been asked. -/
def Features.unknown : Features σ := ⟨⟨[]⟩, ⟨[]⟩, ⟨[]⟩, Cache.empty⟩

/-- A kernel with what is known of its features. -/
structure Host (σ : Type) where
  features : Features σ
  kernel : σ

namespace Host

/-- A host on a kernel of which nothing has been asked. -/
def new (kernel : σ) : Host σ := ⟨.unknown, kernel⟩

/-! ### Parts -/

/-- The kernel. -/
def kernelPart : Part (Host σ) σ where
  get host := host.kernel
  set host kernel := { host with kernel }

/-- The verdicts on program types, with the kernel. -/
def programTypePart : Part (Host σ) (Verdicts ProgramType × σ) where
  get host := (host.features.programTypes, host.kernel)
  set host part := ⟨{ host.features with programTypes := part.1 }, part.2⟩

/-- The verdicts on instructions, with the kernel. -/
def insnPart : Part (Host σ) (Verdicts InsnFeature × σ) where
  get host := (host.features.insns, host.kernel)
  set host part := ⟨{ host.features with insns := part.1 }, part.2⟩

/-- The verdicts on attachments, with the kernel. -/
def attachmentPart : Part (Host σ) (Verdicts AttachFeature × σ) where
  get host := (host.features.attachments, host.kernel)
  set host part := ⟨{ host.features with attachments := part.1 }, part.2⟩

/-- The probes for calls of helpers, with the verdicts on program types and the kernel. -/
def helperCallPart :
    Part (Host σ) (Cache HelperCall (Verdicts ProgramType × σ) × Verdicts ProgramType × σ) where
  get host := (host.features.helperCalls, host.features.programTypes, host.kernel)
  set host part :=
    ⟨{ host.features with helperCalls := part.1, programTypes := part.2.1 }, part.2.2⟩

/-- An action on the kernel of a host. -/
def onKernel {α : Type} (action : Action σ α) : Action (Host σ) α :=
  Action.onPart kernelPart action

end Host

namespace Probes

open Host

/-! ### Queries -/

/-- Whether a kernel has a feature.  Calls from programs of some types have no probe. -/
def ask (P : Probes σ) : Feature → StateM (Host σ) Verdict
  | .programType programType => onPart programTypePart (P.programTypes.result programType)
  | .insn feature => onPart insnPart (P.insns.result feature)
  | .attachment feature => onPart attachmentPart (P.attachments.result feature)
  | .helperCall call =>
    if HelperCall.isExcluded call.programType then
      return .error (.noProbe
        s!"helper {call.helper.text} for {Code.text call.programType} programs")
    else onPart helperCallPart (Cache.result (fun call => pure (P.helperCall call)) call)

/-! ### Reports -/

/-- The rows of the helpers that have been asked for, by program type and helper. -/
def helperRows (c : Cache HelperCall (Verdicts ProgramType × σ)) : List FeatureRow :=
  (c.made.entries.mergeSort fun a b => a.1.isBefore b.1).map fun entry =>
    FeatureRow.ofProbe entry.2 (c.verdicts.get? entry.1)

/-- What is known of every declared feature, in the order of declaration, and of the helpers that
have been asked for. -/
def report (P : Probes σ) (features : Features σ) : List FeatureRow :=
  P.programTypes.report features.programTypes
    ++ P.insns.report features.insns
    ++ P.attachments.report features.attachments
    ++ helperRows features.helperCalls

/-- The features whose probes are declared beforehand. -/
def declared (P : Probes σ) : List Feature :=
  P.programTypes.probes.map (fun entry => .programType entry.1)
    ++ InsnFeature.all.map .insn
    ++ AttachFeature.all.map .attachment

/-- Runs every declared probe and reports. -/
def probeAll (P : Probes σ) : StateM (Host σ) (List FeatureRow) := do
  P.declared.forM fun feature => discard (P.ask feature)
  return P.report (← get).features

end Probes

namespace Host

/-- Whether programs of a type can be loaded. -/
def haveProgramType (K : Kernel σ) (programType : ProgramType) : StateM (Host σ) Verdict :=
  (Probes.ofKernel K).ask (.programType programType)

/-- Whether the verifier has a feature. -/
def haveInsnFeature (K : Kernel σ) (feature : InsnFeature) : StateM (Host σ) Verdict :=
  (Probes.ofKernel K).ask (.insn feature)

/-- Whether programs can be attached in some way. -/
def haveAttachFeature (K : Kernel σ) (feature : AttachFeature) : StateM (Host σ) Verdict :=
  (Probes.ofKernel K).ask (.attachment feature)

/-- Whether programs of a type may call a helper. -/
def haveHelper (K : Kernel σ) (programType : ProgramType) (helper : Helper) :
    StateM (Host σ) Verdict :=
  (Probes.ofKernel K).ask (.helperCall ⟨programType, helper⟩)

/-- What is known of the features of a kernel. -/
def report (K : Kernel σ) (features : Features σ) : List FeatureRow :=
  (Probes.ofKernel K).report features

/-- Runs every declared probe and reports. -/
def probeAll (K : Kernel σ) : StateM (Host σ) (List FeatureRow) := (Probes.ofKernel K).probeAll

end Host

end Bpf
