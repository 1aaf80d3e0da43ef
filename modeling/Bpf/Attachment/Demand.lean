import Bpf.Attachment.Basic
import Bpf.Feature.Attachments

/-!
# Demands

A `Demand` is what is to be asked of the kernel to attach a program.  `Attachment.demand` checks an
attachment and makes its demand, all without asking the kernel anything: a broken contract is an
error that names the operation and the problem.
-/

namespace Bpf

/-- What is asked of the kernel. -/
inductive Order where
  /-- A link with all that belongs to it. -/
  | link (target : UInt32) (attachType : AttachType) (flags : UInt32) (extra : LinkExtra)
  /-- A link in a chain, the place yet to be resolved. -/
  | chain (place : ChainPlace)
  /-- An attachment to a raw tracepoint, or to the target of the program. -/
  | tracepoint (name : Option NulFree)

/-- What it takes to attach a program. -/
structure Demand where
  program : Descriptor
  order : Order
  /-- The type of the link, if the attachment decides it. -/
  linkType : LinkType
  /-- The feature that explains a refusal. -/
  feature : Option AttachFeature
  /-- What there is none of if the kernel answers that there is no such thing. -/
  missing : Option String := none

namespace Attachment

/-! ### Checks -/

/-- The broken contract of an operation. -/
def broken {α : Type} (what problem : String) : Except Error α :=
  .error (.invalidInput s!"{what}: {problem}")

/-- The descriptor of the program. -/
def openProgram (what : String) (program : ProgramHandle) : Except Error Descriptor :=
  match program with
  | some fd => .ok fd
  | none => broken what "program is closed"

/-- Refuses an attach type that is not for this kind of attachment. -/
def checkType (what kind : String) (attachType : AttachType) (fits : Bool) : Except Error Unit :=
  if fits then .ok () else broken what s!"{Code.text attachType} is not a {kind} attach type"

/-- Refuses the index that no interface has. -/
def checkInterface (what : String) (interface : UInt32) : Except Error Unit :=
  if interface = 0 then broken what "interface index is zero" else .ok ()

/-- The flag for probes that fire on return. -/
def returnFlag (onReturn : Bool) : UInt32 := if onReturn then Flag.multiReturn else 0

/-- The number of functions to probe. -/
def probeCount (what : String) (probes : KprobeMulti) : Except Error Nat :=
  match probes.symbols.length, probes.addresses.length with
  | 0, 0 => broken what "no symbols or addresses"
  | n, 0 => .ok n
  | 0, n => .ok n
  | _, _ => broken what "symbols and addresses are mutually exclusive"

/-- Refuses a list that is not empty and does not go with the probes one by one. -/
def checkLength (what listed counted : String) (length count : Nat) : Except Error Unit :=
  if length = 0 || length = count then .ok ()
  else broken what s!"{length} {listed} for {count} {counted}"

/-- A text for the kernel. -/
def nulFree (what called : String) (text : String) : Except Error NulFree :=
  match NulFree.ofString? text with
  | some t => .ok t
  | none => broken what s!"{called} contains a NUL byte"

/-! ### Demands -/

/-- The demand of an attachment to a target that is not checked any further. -/
def rawDemand (program : ProgramHandle) (target : UInt32) (attachType : AttachType)
    (targetBtfId flags : UInt32) : Except Error Demand := do
  let program ← openProgram "attach raw link" program
  return {
    program
    order := .link target attachType flags
      (if targetBtfId = 0 then .none else .targetBtfId targetBtfId)
    linkType := attachType.linkType
    feature := some .bpfLink }

/-- The demand of an attachment to a chain. -/
def chainDemand (what : String) (feature : AttachFeature) (program : ProgramHandle)
    (place : ChainPlace) : Except Error Demand := do
  checkInterface what place.interface
  let program ← openProgram what program
  return {
    program
    order := .chain place
    linkType := place.attachType.linkType
    feature := some feature }

/-- The demand of an attachment to functions of the kernel. -/
def kprobeDemand (program : ProgramHandle) (probes : KprobeMulti) : Except Error Demand := do
  let what := "attach kprobe multi"
  let count ← probeCount what probes
  checkLength what "cookies" "probes" probes.cookies.length count
  let symbols ← probes.symbols.mapM (nulFree what "symbol")
  let program ← openProgram what program
  return {
    program
    order := .link 0 .traceKprobeMulti 0
      (.kprobeMulti (returnFlag probes.onReturn) symbols probes.addresses probes.cookies)
    linkType := .kprobeMulti
    feature := some .kprobeMulti
    missing := some s!"{what}: one or more symbols" }

/-- The demand of an attachment to places in a binary. -/
def uprobeDemand (program : ProgramHandle) (probes : UprobeMulti) : Except Error Demand := do
  let what := "attach uprobe multi"
  let count := probes.offsets.length
  if count = 0 then broken what "no offsets"
  checkLength what "reference counter offsets" "offsets" probes.refCtrOffsets.length count
  checkLength what "cookies" "offsets" probes.cookies.length count
  let path ← nulFree what "path" probes.path.text
  let program ← openProgram what program
  return {
    program
    order := .link 0 .traceUprobeMulti 0
      (.uprobeMulti path probes.offsets probes.refCtrOffsets probes.cookies probes.pid
        (returnFlag probes.onReturn))
    linkType := .uprobeMulti
    feature := some .uprobeMulti }

/-- The demand of an attachment to the target that the program was loaded for. -/
def tracingDemand (program : ProgramHandle) (attachType : AttachType) (cookie : UInt64) :
    Except Error Demand := do
  let what := "attach tracing"
  checkType what "tracing" attachType (attachType.linkType = .tracing)
  let program ← openProgram what program
  if cookie = 0 then
    return { program, order := .tracepoint none, linkType := .tracing, feature := none }
  return {
    program
    order := .link 0 attachType 0 (.tracing 0 cookie)
    linkType := .tracing
    feature := some .bpfLink }

/-- What is to be asked of the kernel to attach a program, unless a contract is broken. -/
def demand (program : ProgramHandle) : Attachment → Except Error Demand
  | .raw target attachType targetBtfId flags =>
    rawDemand program target attachType targetBtfId flags
  | .cgroup group attachType => do
    checkType "attach cgroup" "cgroup" attachType (attachType.linkType = .cgroup)
    rawDemand program group attachType 0 0
  | .netNs space attachType => do
    checkType "attach netns" "network namespace" attachType (attachType.linkType = .netNs)
    rawDemand program space attachType 0 0
  | .xdp interface flags => do
    checkInterface "attach xdp" interface
    rawDemand program interface .xdp 0 flags
  | .tcx place => do
    checkType "attach tcx" "tcx" place.attachType
      (place.attachType = .tcxIngress || place.attachType = .tcxEgress)
    chainDemand "attach tcx" .tcx program place
  | .netkit place => do
    checkType "attach netkit" "netkit" place.attachType
      (place.attachType = .netkitPrimary || place.attachType = .netkitPeer)
    chainDemand "attach netkit" .netkit program place
  | .kprobeMulti probes => kprobeDemand program probes
  | .uprobeMulti probes => uprobeDemand program probes
  | .netfilter family hook priority flags => do
    let program ← openProgram "attach netfilter" program
    return {
      program
      order := .link 0 .netfilter 0 (.netfilter family hook priority flags)
      linkType := .netfilter
      feature := some .bpfLink }
  | .perfEvent event cookie => do
    let program ← openProgram "attach perf event" program
    return {
      program
      order := .link event .perfEvent 0 (.perfEvent cookie)
      linkType := .perfEvent
      feature := some .bpfLink }
  | .rawTracepoint name => do
    let what := "attach raw tracepoint"
    if name.toList.isEmpty then broken what "empty tracepoint name"
    let name ← nulFree what "name" name
    let program ← openProgram what program
    return {
      program
      order := .tracepoint (some name)
      linkType := .rawTracepoint
      feature := none }
  | .tracing attachType cookie => tracingDemand program attachType cookie

end Attachment

end Bpf
