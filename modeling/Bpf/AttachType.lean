import Bpf.Code
import Bpf.LinkType

/-!
# Attach types

The hooks that a program can be attached to, with their names and numbers, and `linkType`, the
type of link that an attachment to each of them makes.
-/

namespace Bpf

/-- Attach type: a value of the kernel's enumeration. -/
inductive AttachType where
  | cgroupInetIngress
  | cgroupInetEgress
  | cgroupInetSockCreate
  | cgroupSockOps
  | skSkbStreamParser
  | skSkbStreamVerdict
  | cgroupDevice
  | skMsgVerdict
  | cgroupInet4Bind
  | cgroupInet6Bind
  | cgroupInet4Connect
  | cgroupInet6Connect
  | cgroupInet4PostBind
  | cgroupInet6PostBind
  | cgroupUdp4Sendmsg
  | cgroupUdp6Sendmsg
  | lircMode2
  | flowDissector
  | cgroupSysctl
  | cgroupUdp4Recvmsg
  | cgroupUdp6Recvmsg
  | cgroupGetsockopt
  | cgroupSetsockopt
  | traceRawTp
  | traceFentry
  | traceFexit
  | modifyReturn
  | lsmMac
  | traceIter
  | cgroupInet4Getpeername
  | cgroupInet6Getpeername
  | cgroupInet4Getsockname
  | cgroupInet6Getsockname
  | xdpDevmap
  | cgroupInetSockRelease
  | xdpCpumap
  | skLookup
  | xdp
  | skSkbVerdict
  | skReuseportSelect
  | skReuseportSelectOrMigrate
  | perfEvent
  | traceKprobeMulti
  | lsmCgroup
  | structOps
  | netfilter
  | tcxIngress
  | tcxEgress
  | traceUprobeMulti
  | cgroupUnixConnect
  | cgroupUnixSendmsg
  | cgroupUnixRecvmsg
  | cgroupUnixGetpeername
  | cgroupUnixGetsockname
  | netkitPrimary
  | netkitPeer
  | traceKprobeSession
  /-- A value this library has no name for. -/
  | unknown (raw : UInt32)
deriving DecidableEq

namespace AttachType

/-- The values with a name, in the kernel's order. -/
def named : List AttachType :=
  [ .cgroupInetIngress, .cgroupInetEgress, .cgroupInetSockCreate, .cgroupSockOps,
    .skSkbStreamParser, .skSkbStreamVerdict, .cgroupDevice, .skMsgVerdict, .cgroupInet4Bind,
    .cgroupInet6Bind, .cgroupInet4Connect, .cgroupInet6Connect, .cgroupInet4PostBind,
    .cgroupInet6PostBind, .cgroupUdp4Sendmsg, .cgroupUdp6Sendmsg, .lircMode2, .flowDissector,
    .cgroupSysctl, .cgroupUdp4Recvmsg, .cgroupUdp6Recvmsg, .cgroupGetsockopt,
    .cgroupSetsockopt, .traceRawTp, .traceFentry, .traceFexit, .modifyReturn, .lsmMac,
    .traceIter, .cgroupInet4Getpeername, .cgroupInet6Getpeername, .cgroupInet4Getsockname,
    .cgroupInet6Getsockname, .xdpDevmap, .cgroupInetSockRelease, .xdpCpumap, .skLookup, .xdp,
    .skSkbVerdict, .skReuseportSelect, .skReuseportSelectOrMigrate, .perfEvent,
    .traceKprobeMulti, .lsmCgroup, .structOps, .netfilter, .tcxIngress, .tcxEgress,
    .traceUprobeMulti, .cgroupUnixConnect, .cgroupUnixSendmsg, .cgroupUnixRecvmsg,
    .cgroupUnixGetpeername, .cgroupUnixGetsockname, .netkitPrimary, .netkitPeer,
    .traceKprobeSession ]

/-- The name of a value. -/
def name : AttachType → String
  | .cgroupInetIngress => "cgroup_inet_ingress"
  | .cgroupInetEgress => "cgroup_inet_egress"
  | .cgroupInetSockCreate => "cgroup_inet_sock_create"
  | .cgroupSockOps => "cgroup_sock_ops"
  | .skSkbStreamParser => "sk_skb_stream_parser"
  | .skSkbStreamVerdict => "sk_skb_stream_verdict"
  | .cgroupDevice => "cgroup_device"
  | .skMsgVerdict => "sk_msg_verdict"
  | .cgroupInet4Bind => "cgroup_inet4_bind"
  | .cgroupInet6Bind => "cgroup_inet6_bind"
  | .cgroupInet4Connect => "cgroup_inet4_connect"
  | .cgroupInet6Connect => "cgroup_inet6_connect"
  | .cgroupInet4PostBind => "cgroup_inet4_post_bind"
  | .cgroupInet6PostBind => "cgroup_inet6_post_bind"
  | .cgroupUdp4Sendmsg => "cgroup_udp4_sendmsg"
  | .cgroupUdp6Sendmsg => "cgroup_udp6_sendmsg"
  | .lircMode2 => "lirc_mode2"
  | .flowDissector => "flow_dissector"
  | .cgroupSysctl => "cgroup_sysctl"
  | .cgroupUdp4Recvmsg => "cgroup_udp4_recvmsg"
  | .cgroupUdp6Recvmsg => "cgroup_udp6_recvmsg"
  | .cgroupGetsockopt => "cgroup_getsockopt"
  | .cgroupSetsockopt => "cgroup_setsockopt"
  | .traceRawTp => "trace_raw_tp"
  | .traceFentry => "trace_fentry"
  | .traceFexit => "trace_fexit"
  | .modifyReturn => "modify_return"
  | .lsmMac => "lsm_mac"
  | .traceIter => "trace_iter"
  | .cgroupInet4Getpeername => "cgroup_inet4_getpeername"
  | .cgroupInet6Getpeername => "cgroup_inet6_getpeername"
  | .cgroupInet4Getsockname => "cgroup_inet4_getsockname"
  | .cgroupInet6Getsockname => "cgroup_inet6_getsockname"
  | .xdpDevmap => "xdp_devmap"
  | .cgroupInetSockRelease => "cgroup_inet_sock_release"
  | .xdpCpumap => "xdp_cpumap"
  | .skLookup => "sk_lookup"
  | .xdp => "xdp"
  | .skSkbVerdict => "sk_skb_verdict"
  | .skReuseportSelect => "sk_reuseport_select"
  | .skReuseportSelectOrMigrate => "sk_reuseport_select_or_migrate"
  | .perfEvent => "perf_event"
  | .traceKprobeMulti => "trace_kprobe_multi"
  | .lsmCgroup => "lsm_cgroup"
  | .structOps => "struct_ops"
  | .netfilter => "netfilter"
  | .tcxIngress => "tcx_ingress"
  | .tcxEgress => "tcx_egress"
  | .traceUprobeMulti => "trace_uprobe_multi"
  | .cgroupUnixConnect => "cgroup_unix_connect"
  | .cgroupUnixSendmsg => "cgroup_unix_sendmsg"
  | .cgroupUnixRecvmsg => "cgroup_unix_recvmsg"
  | .cgroupUnixGetpeername => "cgroup_unix_getpeername"
  | .cgroupUnixGetsockname => "cgroup_unix_getsockname"
  | .netkitPrimary => "netkit_primary"
  | .netkitPeer => "netkit_peer"
  | .traceKprobeSession => "trace_kprobe_session"
  | .unknown _ => "unknown"

/-- The kernel's number for a value. -/
def raw : AttachType → UInt32
  | .cgroupInetIngress => 0
  | .cgroupInetEgress => 1
  | .cgroupInetSockCreate => 2
  | .cgroupSockOps => 3
  | .skSkbStreamParser => 4
  | .skSkbStreamVerdict => 5
  | .cgroupDevice => 6
  | .skMsgVerdict => 7
  | .cgroupInet4Bind => 8
  | .cgroupInet6Bind => 9
  | .cgroupInet4Connect => 10
  | .cgroupInet6Connect => 11
  | .cgroupInet4PostBind => 12
  | .cgroupInet6PostBind => 13
  | .cgroupUdp4Sendmsg => 14
  | .cgroupUdp6Sendmsg => 15
  | .lircMode2 => 16
  | .flowDissector => 17
  | .cgroupSysctl => 18
  | .cgroupUdp4Recvmsg => 19
  | .cgroupUdp6Recvmsg => 20
  | .cgroupGetsockopt => 21
  | .cgroupSetsockopt => 22
  | .traceRawTp => 23
  | .traceFentry => 24
  | .traceFexit => 25
  | .modifyReturn => 26
  | .lsmMac => 27
  | .traceIter => 28
  | .cgroupInet4Getpeername => 29
  | .cgroupInet6Getpeername => 30
  | .cgroupInet4Getsockname => 31
  | .cgroupInet6Getsockname => 32
  | .xdpDevmap => 33
  | .cgroupInetSockRelease => 34
  | .xdpCpumap => 35
  | .skLookup => 36
  | .xdp => 37
  | .skSkbVerdict => 38
  | .skReuseportSelect => 39
  | .skReuseportSelectOrMigrate => 40
  | .perfEvent => 41
  | .traceKprobeMulti => 42
  | .lsmCgroup => 43
  | .structOps => 44
  | .netfilter => 45
  | .tcxIngress => 46
  | .tcxEgress => 47
  | .traceUprobeMulti => 48
  | .cgroupUnixConnect => 49
  | .cgroupUnixSendmsg => 50
  | .cgroupUnixRecvmsg => 51
  | .cgroupUnixGetpeername => 52
  | .cgroupUnixGetsockname => 53
  | .netkitPrimary => 54
  | .netkitPeer => 55
  | .traceKprobeSession => 56
  | .unknown r => r

/-- The identifier of a value: its name in camel case. -/
def identifier : AttachType → String
  | t => camelCase t.name

/-- The number of a value without a name. -/
def unnamed? : AttachType → Option UInt32
  | .unknown r => some r
  | _ => none

instance : Code AttachType where
  title := "AttachType"
  named := named
  name := name
  identifier := identifier
  raw := raw
  unnamed := .unknown
  unnamed? := unnamed?
  raw_named := by decide
  raw_unnamed _ := rfl
  unnamed?_eq a r := by cases a <;> simp [unnamed?]
  named_or_unnamed a := by cases a <;> simp [named]

/-- The type of the link that the kernel makes for an attachment of this type.  Some attach types
have none of their own. -/
def linkType : AttachType → LinkType
  | .traceRawTp => .rawTracepoint
  | .traceFentry => .tracing
  | .traceFexit => .tracing
  | .modifyReturn => .tracing
  | .lsmMac => .tracing
  | .lsmCgroup => .tracing
  | .traceIter => .iter
  | .flowDissector => .netNs
  | .skLookup => .netNs
  | .xdp => .xdp
  | .perfEvent => .perfEvent
  | .traceKprobeMulti => .kprobeMulti
  | .traceKprobeSession => .kprobeMulti
  | .structOps => .structOps
  | .netfilter => .netfilter
  | .tcxIngress => .tcx
  | .tcxEgress => .tcx
  | .traceUprobeMulti => .uprobeMulti
  | .netkitPrimary => .netkit
  | .netkitPeer => .netkit
  | .skSkbStreamParser => .sockmap
  | .skSkbStreamVerdict => .sockmap
  | .skMsgVerdict => .sockmap
  | .skSkbVerdict => .sockmap
  | .xdpDevmap => .unspec
  | .xdpCpumap => .unspec
  | .skReuseportSelect => .unspec
  | .skReuseportSelectOrMigrate => .unspec
  | .lircMode2 => .unspec
  | .unknown _ => .unspec
  | _ => .cgroup

end AttachType

end Bpf
