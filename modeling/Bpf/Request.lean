import Bpf.Kernel
import Bpf.Text.Hex

/-!
# Requests

A `Request` is one thing that is asked of a kernel, with all that is passed along.  `Kernel.guarded`
puts a guard before a kernel, which sees every request and may refuse it, and `Kernel.onPart` makes a
kernel work on a part of a larger state.
-/

namespace Bpf

variable {σ τ α : Type}

/-- What is asked of a kernel. -/
inductive Request where
  | loadProgram (load : ProgramLoad)
  | programInfo (program : Descriptor)
  | attachProgram (attach : ProgramAttach)
  | queryPrograms (target : UInt32) (attachType : AttachType)
  | openRawTracepoint (name : Option NulFree) (program : Descriptor)
  | createLink (create : LinkCreate)
  | updateLink (link program : Descriptor) (old : Option Descriptor)
  | detachLink (link : Descriptor)
  | linkInfo (link : Descriptor)
  | nextLinkId (start : UInt32)
  | openLink (id : UInt32)
  | pin (object : Descriptor) (path : Path)
  | openPin (path : Path) (flags : UInt32)
  | objectType (object : Descriptor)
  | removePin (path : Path)
  | btfId (name : String)
deriving DecidableEq

namespace Kernel

/-- Lets a guard look at a request, and goes on unless it is refused. -/
def unlessRefused (guard : Request → StateM σ (Option Error)) (request : Request) (next : Action σ α) :
    Action σ α := do
  match ← Action.ofStep (guard request) with
  | some refusal => throw refusal
  | none => next

/-- A refusal as a failed call to the operating system. -/
def asIoError (refusal : Error) : IoError := .os (refusal.errno.getD Errno.eio)

/-- The kernel with a guard before it. -/
def guarded (guard : Request → StateM σ (Option Error)) (K : Kernel σ) : Kernel σ where
  logSize := K.logSize
  loadProgram load := unlessRefused guard (.loadProgram load) (K.loadProgram load)
  programInfo fd := unlessRefused guard (.programInfo fd) (K.programInfo fd)
  attachProgram r := unlessRefused guard (.attachProgram r) (K.attachProgram r)
  queryPrograms target t := unlessRefused guard (.queryPrograms target t) (K.queryPrograms target t)
  openRawTracepoint name fd :=
    unlessRefused guard (.openRawTracepoint name fd) (K.openRawTracepoint name fd)
  createLink r := unlessRefused guard (.createLink r) (K.createLink r)
  updateLink link fd old := unlessRefused guard (.updateLink link fd old) (K.updateLink link fd old)
  detachLink link := unlessRefused guard (.detachLink link) (K.detachLink link)
  linkInfo link := unlessRefused guard (.linkInfo link) (K.linkInfo link)
  nextLinkId start := unlessRefused guard (.nextLinkId start) (K.nextLinkId start)
  openLink id := unlessRefused guard (.openLink id) (K.openLink id)
  pin fd path := unlessRefused guard (.pin fd path) (K.pin fd path)
  openPin path flags := unlessRefused guard (.openPin path flags) (K.openPin path flags)
  objectType fd := unlessRefused guard (.objectType fd) (K.objectType fd)
  removePin path := do
    match ← guard (.removePin path) with
    | some refusal => return .error (asIoError refusal)
    | none => K.removePin path
  btfId name := unlessRefused guard (.btfId name) (K.btfId name)

/-- The kernel on a part of a larger state. -/
def onPart (part : Part τ σ) (K : Kernel σ) : Kernel τ where
  logSize whole := K.logSize (part.get whole)
  loadProgram load := Action.onPart part (K.loadProgram load)
  programInfo fd := Action.onPart part (K.programInfo fd)
  attachProgram r := Action.onPart part (K.attachProgram r)
  queryPrograms target t := Action.onPart part (K.queryPrograms target t)
  openRawTracepoint name fd := Action.onPart part (K.openRawTracepoint name fd)
  createLink r := Action.onPart part (K.createLink r)
  updateLink link fd old := Action.onPart part (K.updateLink link fd old)
  detachLink link := Action.onPart part (K.detachLink link)
  linkInfo link := Action.onPart part (K.linkInfo link)
  nextLinkId start := Action.onPart part (K.nextLinkId start)
  openLink id := Action.onPart part (K.openLink id)
  pin fd path := Action.onPart part (K.pin fd path)
  openPin path flags := Action.onPart part (K.openPin path flags)
  objectType fd := Action.onPart part (K.objectType fd)
  removePin path := Bpf.onPart part (K.removePin path)
  btfId name := Action.onPart part (K.btfId name)

end Kernel

/-! ### Printing -/

/-- A program by the number of its descriptor, which means nothing to a reader unless nobody has
it. -/
def programJson (program : Descriptor) : Json :=
  if program.number = 0xffffffff then .nat program.number.toNat else .string "fd"

namespace LinkExtra

/-- A list of words. -/
def wordsJson (words : List UInt64) : Json := .array (words.map fun w => .nat w.toNat)

/-- What the kind of the part is called. -/
def kind : LinkExtra → String
  | .none => "none"
  | .targetBtfId _ => "target_btf_id"
  | .perfEvent _ => "perf_event"
  | .tracing .. => "tracing"
  | .kprobeMulti .. => "kprobe_multi"
  | .uprobeMulti .. => "uprobe_multi"
  | .netfilter .. => "netfilter"
  | .ordered .. => "ordered"

/-- The fields of the part by name. -/
def fields : LinkExtra → List (String × Json)
  | .none => []
  | .targetBtfId id => [("id", .nat id.toNat)]
  | .perfEvent cookie => [("cookie", .nat cookie.toNat)]
  | .tracing id cookie => [("target_btf_id", .nat id.toNat), ("cookie", .nat cookie.toNat)]
  | .kprobeMulti flags symbols addresses cookies =>
    [ ("flags", .nat flags.toNat), ("symbols", .array (symbols.map fun s => .string s.text)),
      ("addresses", wordsJson addresses), ("cookies", wordsJson cookies) ]
  | .uprobeMulti path offsets refCtrOffsets cookies pid flags =>
    [ ("path", .string path.text), ("offsets", wordsJson offsets),
      ("ref_ctr_offsets", wordsJson refCtrOffsets), ("cookies", wordsJson cookies),
      ("pid", .nat pid.toNat), ("flags", .nat flags.toNat) ]
  | .netfilter family hook priority flags =>
    [ ("pf", .nat family.toNat), ("hooknum", .nat hook.toNat), ("priority", .int priority.toInt),
      ("flags", .nat flags.toNat) ]
  | .ordered relative revision =>
    [("relative", .nat relative.toNat), ("expected_revision", .nat revision.toNat)]

end LinkExtra

/-- The first instructions of a program, as many as are shown. -/
def insnsJson (insns : List Insn) : Json := .string (Text.hex ((insns.take 8).flatMap Insn.bytes))

/-- The helper that a program calls first. -/
def firstHelper? (insns : List Insn) : Option UInt32 :=
  (insns.find? (·.code = Insn.callCode)).map fun i => i.imm.toUInt32

namespace Request

/-- What a request is called. -/
def name : Request → String
  | .loadProgram _ => "prog_load"
  | .programInfo _ => "prog_info"
  | .attachProgram _ => "prog_attach"
  | .queryPrograms .. => "prog_query"
  | .openRawTracepoint .. => "raw_tracepoint_open"
  | .createLink _ => "link_create"
  | .updateLink .. => "link_update"
  | .detachLink _ => "link_detach"
  | .linkInfo _ => "link_info"
  | .nextLinkId _ => "link_next_id"
  | .openLink _ => "link_fd_by_id"
  | .pin .. => "obj_pin"
  | .openPin .. => "obj_get"
  | .objectType _ => "obj_type"
  | .removePin _ => "remove_pin"
  | .btfId _ => "btf_id_by_name"

/-- What is passed along with a request, by name. -/
def fields : Request → List (String × Json)
  | .loadProgram load =>
    [ ("type", .string (Code.text load.programType)),
      ("attach_type",
        Json.optional (fun t : AttachType => .string (Code.text t)) load.attachType),
      ("btf_id", Json.optional (fun id : UInt32 => Json.nat id.toNat) load.btfId),
      ("insn_count", .nat load.insns.length), ("insns", insnsJson load.insns),
      ("helper", Json.optional (fun id : UInt32 => Json.nat id.toNat) (firstHelper? load.insns)),
      ("license", .string load.license.text), ("name", .string load.name),
      ("flags", .nat load.flags.toNat), ("log_level", .nat load.logLevel.toNat),
      ("log_size", .nat load.logSize) ]
  | .attachProgram r =>
    [ ("target", .nat r.target.toNat), ("program", programJson r.program),
      ("attach_type", .string (Code.text r.attachType)), ("flags", .nat r.flags.toNat),
      ("replace", .nat r.replace.toNat) ]
  | .queryPrograms target attachType =>
    [("target", .nat target.toNat), ("attach_type", .string (Code.text attachType))]
  | .openRawTracepoint name _ =>
    [("name", Json.optional (fun n : NulFree => .string n.text) name)]
  | .createLink r =>
    [ ("program", programJson r.program), ("target", .nat r.target.toNat),
      ("attach_type", .string (Code.text r.attachType)), ("flags", .nat r.flags.toNat),
      ("kind", .string r.extra.kind),
      ("extra", .object (("kind", .string r.extra.kind) :: r.extra.fields)) ]
  | .updateLink _ _ old => [("old", .bool old.isSome)]
  | .nextLinkId start => [("start", .nat start.toNat)]
  | .openLink id => [("id", .nat id.toNat)]
  | .pin _ path => [("path", .string path.text)]
  | .openPin path flags => [("path", .string path.text), ("flags", .nat flags.toNat)]
  | .removePin path => [("path", .string path.text)]
  | .btfId name => [("name", .string name)]
  | _ => []

/-- The request as an object. -/
def toJson (request : Request) : Json :=
  .object (("call", .string request.name) :: request.fields)

end Request

end Bpf
