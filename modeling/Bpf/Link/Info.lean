import Bpf.Kernel

/-!
# Reports on links

A `LinkInfo` is what the kernel reports about a link, read from the bytes of its reply.  The first
words of the reply are the same for every link; behind them lies a part whose layout depends on the
type of the link.  A kernel may fill in fewer bytes than there are: what it does not reach is absent,
never zero, and without an id there is no report at all.
-/

namespace Bpf

/-- The part of a report that depends on the type of the link. -/
inductive LinkDetails where
  | tracing (attachType : Option AttachType) (targetObjectId targetBtfId : Option UInt32)
  | cgroup (cgroupId : Option UInt64) (attachType : Option AttachType)
  | netNs (inode : Option UInt32) (attachType : Option AttachType)
  | xdp (interface : Option UInt32)
  | structOps (mapId : Option UInt32)
  | netfilter (family hook : Option UInt32) (priority : Option Int32) (flags : Option UInt32)
  /-- `missed` counts the hits that were not served. -/
  | kprobeMulti (count flags : Option UInt32) (missed : Option UInt64)
  | uprobeMulti (count flags pid : Option UInt32)
  | perfEvent (eventType : Option UInt32)
  | tcx (interface : Option UInt32) (attachType : Option AttachType)
  | netkit (interface : Option UInt32) (attachType : Option AttachType)
  /-- A type of link with nothing more to report, or one that this library does not know. -/
  | other
deriving DecidableEq

/-- What the kernel reports about a link. -/
structure LinkInfo where
  linkType : LinkType
  id : UInt32
  programId : Option UInt32
  details : LinkDetails
deriving DecidableEq

namespace LinkInfo

/-! ### Layout -/

/-- The size of a whole reply. -/
def size : Nat := 64

/-- Where the type of a link is in a reply. -/
def typeOffset : Nat := 0

/-- Where the id of a link is in a reply. -/
def idOffset : Nat := 4

/-- Where the id of the program is in a reply. -/
def programIdOffset : Nat := 8

/-- Where the part of a reply begins that depends on the type of the link. -/
def detailsOffset : Nat := 16

/-! ### Reading -/

/-- The word of four bytes at an offset, if the kernel has filled in all of it. -/
def word32? (raw : RawLinkInfo) (offset : Nat) : Option UInt32 :=
  if offset + 4 ≤ raw.length then some (word32At raw.bytes offset) else none

/-- The word of eight bytes at an offset, if the kernel has filled in all of it. -/
def word64? (raw : RawLinkInfo) (offset : Nat) : Option UInt64 :=
  if offset + 8 ≤ raw.length then some (word64At raw.bytes offset) else none

/-- A word in which zero says that nothing is set. -/
def nonzero (word : Option UInt32) : Option UInt32 := word.filter (· ≠ 0)

/-- The details of a link of the given type. -/
def decodeDetails (linkType : LinkType) (raw : RawLinkInfo) : LinkDetails :=
  let field offset := word32? raw (detailsOffset + offset)
  let long offset := word64? raw (detailsOffset + offset)
  let code offset : Option AttachType := (field offset).map Code.ofRaw
  match linkType with
  | .tracing =>
    .tracing ((nonzero (field 0)).map Code.ofRaw) (nonzero (field 4)) (nonzero (field 8))
  | .cgroup => .cgroup (long 0) (code 8)
  | .netNs => .netNs (field 0) (code 4)
  | .xdp => .xdp (nonzero (field 0))
  | .structOps => .structOps (nonzero (field 0))
  | .netfilter => .netfilter (field 0) (field 4) ((field 8).map UInt32.toInt32) (field 12)
  | .kprobeMulti =>
    let count := nonzero (field 8)
    .kprobeMulti count (count.bind fun _ => field 12) (count.bind fun _ => long 16)
  | .uprobeMulti =>
    let count := nonzero (field 36)
    .uprobeMulti count (count.bind fun _ => field 40) (nonzero (field 44))
  | .perfEvent => .perfEvent (field 0)
  | .tcx => .tcx (nonzero (field 0)) (code 4)
  | .netkit => .netkit (nonzero (field 0)) (code 4)
  | _ => .other

/-- The report in a reply that goes as far as the id of the link. -/
def decode (raw : RawLinkInfo) : Option LinkInfo :=
  if raw.length < idOffset + 4 then none
  else
    let linkType : LinkType := Code.ofRaw (word32At raw.bytes typeOffset)
    some
      { linkType
        id := word32At raw.bytes idOffset
        programId := nonzero (word32? raw programIdOffset)
        details := decodeDetails linkType raw }

end LinkInfo

/-! ### Printing -/

namespace LinkDetails

/-- What the details of a type of link are called. -/
def kind : LinkDetails → String
  | .tracing .. => "tracing"
  | .cgroup .. => "cgroup"
  | .netNs .. => "net_ns"
  | .xdp .. => "xdp"
  | .structOps .. => "struct_ops"
  | .netfilter .. => "netfilter"
  | .kprobeMulti .. => "kprobe_multi"
  | .uprobeMulti .. => "uprobe_multi"
  | .perfEvent .. => "perf_event"
  | .tcx .. => "tcx"
  | .netkit .. => "netkit"
  | .other => "other"

/-- The fields of the details by name. -/
def fields (details : LinkDetails) : List (String × Json) :=
  let word := Json.optional fun w : UInt32 => Json.nat w.toNat
  let long := Json.optional fun w : UInt64 => Json.nat w.toNat
  let code := Json.optional fun t : AttachType => Json.string (Code.text t)
  match details with
  | .tracing attachType targetObjectId targetBtfId =>
    [ ("attach_type", code attachType), ("target_obj_id", word targetObjectId),
      ("target_btf_id", word targetBtfId) ]
  | .cgroup cgroupId attachType =>
    [("cgroup_id", long cgroupId), ("attach_type", code attachType)]
  | .netNs inode attachType => [("netns_ino", word inode), ("attach_type", code attachType)]
  | .xdp interface => [("ifindex", word interface)]
  | .structOps mapId => [("map_id", word mapId)]
  | .netfilter family hook priority flags =>
    [ ("pf", word family), ("hooknum", word hook),
      ("priority", Json.optional (fun p : Int32 => Json.int p.toInt) priority),
      ("flags", word flags) ]
  | .kprobeMulti count flags missed =>
    [("count", word count), ("flags", word flags), ("missed", long missed)]
  | .uprobeMulti count flags pid =>
    [("count", word count), ("flags", word flags), ("pid", word pid)]
  | .perfEvent eventType => [("event_type", word eventType)]
  | .tcx interface attachType => [("ifindex", word interface), ("attach_type", code attachType)]
  | .netkit interface attachType =>
    [("ifindex", word interface), ("attach_type", code attachType)]
  | .other => []

/-- The details as an object that begins with their kind. -/
def toJson (details : LinkDetails) : Json :=
  .object (("kind", .string details.kind) :: details.fields)

end LinkDetails

/-- The report as an object. -/
def LinkInfo.toJson (info : LinkInfo) : Json :=
  .object
    [ ("link_type", .string (Code.text info.linkType)), ("id", .nat info.id.toNat),
      ("program_id", Json.optional (fun w : UInt32 => Json.nat w.toNat) info.programId),
      ("details", info.details.toJson) ]

end Bpf
