import Bpf.Attachment.Anchor

/-!
# Attachments

An `Attachment` says to what hook a program is attached, and how: to a target as it is, to a place in a
chain, to many functions of the kernel or many places in a binary, or to the target that the program
was loaded for.
-/

namespace Bpf

/-- A place in a chain of programs of an interface. -/
structure ChainPlace where
  interface : UInt32
  attachType : AttachType
  anchor : Anchor
  /-- The revision that the chain has to be at, unless it is zero. -/
  expectedRevision : UInt64

/-- Functions of the kernel to probe, by symbol or by address. -/
structure KprobeMulti where
  symbols : List String
  addresses : List UInt64
  /-- One for each function, or none at all. -/
  cookies : List UInt64
  /-- The probes fire on return. -/
  onReturn : Bool

/-- Places in a binary to probe. -/
structure UprobeMulti where
  path : Path
  offsets : List UInt64
  /-- One for each offset, or none at all. -/
  refCtrOffsets : List UInt64
  /-- One for each offset, or none at all. -/
  cookies : List UInt64
  /-- The process to probe, or zero for all of them. -/
  pid : UInt32
  /-- The probes fire on return. -/
  onReturn : Bool

/-- A hook and the way in which a program is attached to it. -/
inductive Attachment where
  /-- A target that is not checked any further. -/
  | raw (target : UInt32) (attachType : AttachType) (targetBtfId flags : UInt32)
  | cgroup (group : UInt32) (attachType : AttachType)
  | netNs (space : UInt32) (attachType : AttachType)
  | xdp (interface flags : UInt32)
  | tcx (place : ChainPlace)
  | netkit (place : ChainPlace)
  | kprobeMulti (probes : KprobeMulti)
  | uprobeMulti (probes : UprobeMulti)
  | netfilter (family hook : UInt32) (priority : Int32) (flags : UInt32)
  | perfEvent (event : UInt32) (cookie : UInt64)
  | rawTracepoint (name : String)
  /-- The target that the program was loaded for; only a cookie of zero does without a request for a
  link. -/
  | tracing (attachType : AttachType) (cookie : UInt64)

end Bpf
