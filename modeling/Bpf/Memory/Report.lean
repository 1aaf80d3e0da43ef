import Bpf.Link.Info
import Bpf.Memory.State

/-!
# Reports of a kernel in memory

`LinkRecord.report` lays the record of a link out as the reply to a query: the words that every link
has, and behind them what the type of the link adds, filled up with zeros.
-/

namespace Bpf.Memory

namespace LinkRecord

/-- What the type of a link adds to a reply, up to its last byte that is not zero for sure. -/
def detailBytes (link : LinkRecord) : List UInt8 :=
  let target := word32 link.target
  let attachType := word32 (Code.raw link.attachType)
  match link.linkType with
  | .tracing => attachType ++ word32 0 ++ target
  | .cgroup => target ++ word32 0 ++ attachType
  | .netNs => target ++ attachType
  | .xdp => target
  | .structOps => target
  | .tcx => target ++ attachType
  | .netkit => target ++ attachType
  | .netfilter =>
    match link.netfilter with
    | some n => word32 n.family ++ word32 n.hook ++ word32 n.priority.toUInt32 ++ word32 n.flags
    | none => []
  | .kprobeMulti => word64 0 ++ word32 link.count ++ word32 link.flags ++ word64 link.missed
  | .uprobeMulti =>
    word64 0 ++ word64 0 ++ word64 0 ++ word64 0 ++ word32 0 ++ word32 link.count
      ++ word32 link.flags ++ target
  | _ => []

/-- The whole reply. -/
def bytes (link : LinkRecord) : List UInt8 :=
  let head :=
    word32 (Code.raw link.linkType) ++ word32 link.id ++ word32 link.programId ++ word32 0
  let details := link.detailBytes
  head ++ details ++ List.replicate (LinkInfo.size - head.length - details.length) 0

/-- The reply of a kernel that fills in as many bytes as `length` says, or all of them. -/
def report (length : Option Nat) (link : LinkRecord) : RawLinkInfo :=
  ⟨link.bytes, min (length.getD LinkInfo.size) LinkInfo.size⟩

/-! ### Printing -/

/-- The record as an object. -/
def toJson (link : LinkRecord) : Json :=
  let word (w : UInt32) := Json.nat w.toNat
  .object
    [ ("id", word link.id), ("link_type", .string (Code.text link.linkType)),
      ("program_id", word link.programId), ("attach_type", .string (Code.text link.attachType)),
      ("target", word link.target), ("flags", word link.flags), ("count", word link.count),
      ("missed", .nat link.missed.toNat),
      ("netfilter", Json.optional (fun n : NetfilterHook => .array
        [word n.family, word n.hook, .int n.priority.toInt, word n.flags]) link.netfilter),
      ("detached", .bool link.detached), ("released", .bool link.released) ]

end LinkRecord

/-- Reports on a link, with as many bytes as `length` says. -/
def State.linkInfo (length : Option Nat) (link : Descriptor) (s : State) :
    Except Error RawLinkInfo := do
  let id ← s.linkId Command.infoByFd link
  let record ← s.record Command.infoByFd Errno.enoent id
  return record.report length

end Bpf.Memory
