import Bpf.Attachment.Demand
import Bpf.Host

/-!
# Attaching programs

`attach` asks the kernel for what an attachment demands.  When the kernel refuses, the feature behind
the attachment is looked up, and unless it is there its verdict takes the place of the bare error
number.
-/

namespace Bpf

variable {σ : Type}

/-- A request to the kernel for a new link. -/
inductive LinkRequest where
  | create (request : LinkCreate)
  | tracepoint (name : Option NulFree) (program : Descriptor)

namespace Demand

/-- The request, with the anchor resolved if there is one. -/
def resolve (K : Kernel σ) (d : Demand) : Action σ LinkRequest := do
  match d.order with
  | .link target attachType flags extra =>
    return .create { program := d.program, target, attachType, flags, extra }
  | .chain place =>
    let (flags, relative) ← place.anchor.resolve K
    return .create
      { program := d.program
        target := place.interface
        attachType := place.attachType
        flags
        extra := .ordered relative place.expectedRevision }
  | .tracepoint name => return .tracepoint name d.program

/-- The error for a refused request: what is missing, or the verdict on the feature behind the
attachment, or the answer of the kernel if the feature is there. -/
def explain (K : Kernel σ) (d : Demand) (refusal : Error) : StateM (Host σ) Error := do
  match d.missing with
  | some what =>
    if refusal.isErrno Errno.esrch then return .notFound what
  | none => pure ()
  match d.feature with
  | none => return refusal
  | some feature =>
    match ← Host.haveAttachFeature K feature with
    | .ok () => return refusal
    | .error e => return .feature e

end Demand

/-- Sends a request for a link. -/
def LinkRequest.send (K : Kernel σ) : LinkRequest → Action σ Descriptor
  | .create request => K.createLink request
  | .tracepoint name program => K.openRawTracepoint name program

/-- The handle of a new link; the kernel is asked for the type if the attachment does not decide
it. -/
def Link.ofNew (K : Kernel σ) (fd : Descriptor) (linkType : LinkType) : Action σ Link :=
  if linkType = .unspec then Link.ofDescriptor K fd none
  else return ⟨linkType, some fd, none⟩

/-- Attaches a program. -/
def attach (K : Kernel σ) (program : ProgramHandle) (a : Attachment) : Action (Host σ) Link := do
  let d ← Action.ofExcept (a.demand program)
  let request ← Host.onKernel (d.resolve K)
  match ← Action.attempt (Host.onKernel (request.send K)) with
  | .ok fd => Host.onKernel (Link.ofNew K fd d.linkType)
  | .error refusal => throw (← Action.ofStep (d.explain K refusal))

end Bpf
