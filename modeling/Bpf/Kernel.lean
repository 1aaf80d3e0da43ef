import Bpf.Action
import Bpf.AttachType
import Bpf.Insn
import Bpf.NulFree
import Bpf.ObjectType
import Bpf.Path
import Bpf.ProgramType

/-!
# Kernels

A `Kernel σ` answers the requests that the library makes, each answer a computation on a state of
type `σ`.  Nothing is assumed about the answers: they may depend on all that was asked before.
Programs, links, pins and feature probes are written against this interface.
-/

namespace Bpf

/-- An open descriptor. -/
structure Descriptor where
  number : UInt32
  /-- Tells apart the descriptors that have the same number one after another: the number of a
  descriptor comes back once it is closed. -/
  serial : Nat := 0
deriving DecidableEq

/-! ### Flags -/

namespace Flag

/-- Replace the program that is named as the old one. -/
def replace : UInt32 := 4
/-- Attach before the anchor. -/
def before : UInt32 := 8
/-- Attach after the anchor. -/
def after : UInt32 := 16
/-- The anchor is given by its id. -/
def id : UInt32 := 32
/-- The anchor is a link. -/
def link : UInt32 := 8192
/-- The program may call helpers that sleep. -/
def sleepable : UInt32 := 16
/-- Open for reading only. -/
def readOnly : UInt32 := 8
/-- Open for writing only. -/
def writeOnly : UInt32 := 16
/-- The probes of a link fire on return. -/
def multiReturn : UInt32 := 1

end Flag

/-! ### Room for the log of the verifier -/

/-- The bytes of log that there is room for unless something else is asked for. -/
def defaultLogSize : Nat := 65536

/-- The most bytes of log that every kernel accepts. -/
def maxLogSize : Nat := 16777215

/-! ### Requests and replies -/

/-- A request to load a program. -/
structure ProgramLoad where
  programType : ProgramType
  attachType : Option AttachType
  /-- The id of the kernel function that the program targets. -/
  btfId : Option UInt32
  insns : List Insn
  license : NulFree
  name : String
  flags : UInt32
  /-- A log of the verifier is asked for unless this is zero. -/
  logLevel : UInt32
  /-- The bytes of log that there is room for. -/
  logSize : Nat
deriving DecidableEq

/-- What the kernel reports about a program. -/
structure ProgramInfo where
  programType : ProgramType
  id : UInt32
  name : String
deriving DecidableEq

/-- The report as an object. -/
def ProgramInfo.toJson (info : ProgramInfo) : Json :=
  .object
    [ ("type", .string (Code.text info.programType)), ("id", .nat info.id.toNat),
      ("name", .string info.name) ]

/-- A request to attach a program without a link. -/
structure ProgramAttach where
  target : UInt32
  program : Descriptor
  attachType : AttachType
  flags : UInt32
  replace : UInt32
deriving DecidableEq

/-- The part of a request for a link that depends on the hook. -/
inductive LinkExtra where
  | none
  | targetBtfId (id : UInt32)
  | perfEvent (cookie : UInt64)
  | tracing (targetBtfId : UInt32) (cookie : UInt64)
  /-- Many kernel functions, by symbol or by address. -/
  | kprobeMulti (flags : UInt32) (symbols : List NulFree) (addresses cookies : List UInt64)
  /-- Many places in one binary. -/
  | uprobeMulti (path : NulFree) (offsets refCtrOffsets cookies : List UInt64) (pid flags : UInt32)
  | netfilter (family hook : UInt32) (priority : Int32) (flags : UInt32)
  /-- A place in a chain of programs, next to the one with the given id. -/
  | ordered (relative : UInt32) (expectedRevision : UInt64)
deriving DecidableEq

/-- A request for a link. -/
structure LinkCreate where
  program : Descriptor
  /-- The index of an interface or the number of a descriptor. -/
  target : UInt32
  attachType : AttachType
  flags : UInt32
  extra : LinkExtra
deriving DecidableEq

/-- What the kernel reports about a link, as it is in memory. -/
structure RawLinkInfo where
  bytes : List UInt8
  /-- How many of the bytes the kernel has filled in. -/
  length : Nat
deriving DecidableEq

/-! ### The interface -/

/-- The answers of a kernel, on a state of type `σ`. -/
structure Kernel (σ : Type) where
  /-- The room for the log of the verifier at the first attempt to load a program. -/
  logSize : σ → Nat
  /-- Loads a program. -/
  loadProgram : ProgramLoad → Action σ Descriptor
  /-- Reports on a program. -/
  programInfo : Descriptor → Action σ ProgramInfo
  /-- Attaches a program without a link. -/
  attachProgram : ProgramAttach → Action σ Unit
  /-- The number of programs attached to a target. -/
  queryPrograms : UInt32 → AttachType → Action σ UInt32
  /-- Attaches a program to a raw tracepoint, or to the target it was loaded for. -/
  openRawTracepoint : Option NulFree → Descriptor → Action σ Descriptor
  /-- Makes a link. -/
  createLink : LinkCreate → Action σ Descriptor
  /-- Replaces the program of a link, if need be only while the last one is attached. -/
  updateLink : Descriptor → Descriptor → Option Descriptor → Action σ Unit
  /-- Detaches the program of a link. -/
  detachLink : Descriptor → Action σ Unit
  /-- Reports on a link. -/
  linkInfo : Descriptor → Action σ RawLinkInfo
  /-- The smallest id of a link above the given one. -/
  nextLinkId : UInt32 → Action σ (Option UInt32)
  /-- Opens the link with the given id. -/
  openLink : UInt32 → Action σ Descriptor
  /-- Pins an object. -/
  pin : Descriptor → Path → Action σ Unit
  /-- Opens the object pinned at a path. -/
  openPin : Path → UInt32 → Action σ Descriptor
  /-- What a descriptor stands for. -/
  objectType : Descriptor → Action σ ObjectType
  /-- Removes a pin. -/
  removePin : Path → StateM σ (Except IoError Unit)
  /-- The id of a type of the kernel, by name. -/
  btfId : String → Action σ UInt32

/-! ### Names of the kernel's commands -/

namespace Command

def progLoad : String := "BPF_PROG_LOAD"
def progAttach : String := "BPF_PROG_ATTACH"
def progQuery : String := "BPF_PROG_QUERY"
def rawTracepointOpen : String := "BPF_RAW_TRACEPOINT_OPEN"
def linkCreate : String := "BPF_LINK_CREATE"
def linkUpdate : String := "BPF_LINK_UPDATE"
def linkDetach : String := "BPF_LINK_DETACH"
def infoByFd : String := "BPF_OBJ_GET_INFO_BY_FD"
def linkNextId : String := "BPF_LINK_GET_NEXT_ID"
def linkFdById : String := "BPF_LINK_GET_FD_BY_ID"
def objPin : String := "BPF_OBJ_PIN"
def objGet : String := "BPF_OBJ_GET"
/-- The removal of a file, which removes a pin. -/
def unlink : String := "unlink"

end Command

end Bpf
