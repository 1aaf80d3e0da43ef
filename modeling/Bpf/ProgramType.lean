import Bpf.Code

/-!
# Program types

The types of programs that the kernel knows, with their names and numbers.
-/

namespace Bpf

/-- Program type: a value of the kernel's enumeration. -/
inductive ProgramType where
  | unspec
  | socketFilter
  | kprobe
  | schedCls
  | schedAct
  | tracepoint
  | xdp
  | perfEvent
  | cgroupSkb
  | cgroupSock
  | lwtIn
  | lwtOut
  | lwtXmit
  | sockOps
  | skSkb
  | cgroupDevice
  | skMsg
  | rawTracepoint
  | cgroupSockAddr
  | lwtSeg6Local
  | lircMode2
  | skReuseport
  | flowDissector
  | cgroupSysctl
  | rawTracepointWritable
  | cgroupSockopt
  | tracing
  | structOps
  | extension
  | lsm
  | skLookup
  | syscall
  | netfilter
  /-- A value this library has no name for. -/
  | unknown (raw : UInt32)
deriving DecidableEq

namespace ProgramType

/-- The values with a name, in the kernel's order. -/
def named : List ProgramType :=
  [ .unspec, .socketFilter, .kprobe, .schedCls, .schedAct, .tracepoint, .xdp, .perfEvent,
    .cgroupSkb, .cgroupSock, .lwtIn, .lwtOut, .lwtXmit, .sockOps, .skSkb, .cgroupDevice,
    .skMsg, .rawTracepoint, .cgroupSockAddr, .lwtSeg6Local, .lircMode2, .skReuseport,
    .flowDissector, .cgroupSysctl, .rawTracepointWritable, .cgroupSockopt, .tracing,
    .structOps, .extension, .lsm, .skLookup, .syscall, .netfilter ]

/-- The name of a value. -/
def name : ProgramType → String
  | .unspec => "unspec"
  | .socketFilter => "socket_filter"
  | .kprobe => "kprobe"
  | .schedCls => "sched_cls"
  | .schedAct => "sched_act"
  | .tracepoint => "tracepoint"
  | .xdp => "xdp"
  | .perfEvent => "perf_event"
  | .cgroupSkb => "cgroup_skb"
  | .cgroupSock => "cgroup_sock"
  | .lwtIn => "lwt_in"
  | .lwtOut => "lwt_out"
  | .lwtXmit => "lwt_xmit"
  | .sockOps => "sock_ops"
  | .skSkb => "sk_skb"
  | .cgroupDevice => "cgroup_device"
  | .skMsg => "sk_msg"
  | .rawTracepoint => "raw_tracepoint"
  | .cgroupSockAddr => "cgroup_sock_addr"
  | .lwtSeg6Local => "lwt_seg6local"
  | .lircMode2 => "lirc_mode2"
  | .skReuseport => "sk_reuseport"
  | .flowDissector => "flow_dissector"
  | .cgroupSysctl => "cgroup_sysctl"
  | .rawTracepointWritable => "raw_tracepoint_writable"
  | .cgroupSockopt => "cgroup_sockopt"
  | .tracing => "tracing"
  | .structOps => "struct_ops"
  | .extension => "ext"
  | .lsm => "lsm"
  | .skLookup => "sk_lookup"
  | .syscall => "syscall"
  | .netfilter => "netfilter"
  | .unknown _ => "unknown"

/-- The kernel's number for a value. -/
def raw : ProgramType → UInt32
  | .unspec => 0
  | .socketFilter => 1
  | .kprobe => 2
  | .schedCls => 3
  | .schedAct => 4
  | .tracepoint => 5
  | .xdp => 6
  | .perfEvent => 7
  | .cgroupSkb => 8
  | .cgroupSock => 9
  | .lwtIn => 10
  | .lwtOut => 11
  | .lwtXmit => 12
  | .sockOps => 13
  | .skSkb => 14
  | .cgroupDevice => 15
  | .skMsg => 16
  | .rawTracepoint => 17
  | .cgroupSockAddr => 18
  | .lwtSeg6Local => 19
  | .lircMode2 => 20
  | .skReuseport => 21
  | .flowDissector => 22
  | .cgroupSysctl => 23
  | .rawTracepointWritable => 24
  | .cgroupSockopt => 25
  | .tracing => 26
  | .structOps => 27
  | .extension => 28
  | .lsm => 29
  | .skLookup => 30
  | .syscall => 31
  | .netfilter => 32
  | .unknown r => r

/-- The identifier of a value: its name in camel case, with some of them spelt otherwise. -/
def identifier : ProgramType → String
  | .lwtSeg6Local => "LwtSeg6Local"
  | .extension => "Extension"
  | t => camelCase t.name

/-- The number of a value without a name. -/
def unnamed? : ProgramType → Option UInt32
  | .unknown r => some r
  | _ => none

instance : Code ProgramType where
  title := "ProgramType"
  named := named
  name := name
  identifier := identifier
  raw := raw
  unnamed := .unknown
  unnamed? := unnamed?
  raw_named := by decide
  raw_unnamed _ := rfl
  unnamed?_eq a r := by cases a <;> simp [unnamed?]
  named_or_unnamed a := by cases a <;> simp [named]

end ProgramType

end Bpf
