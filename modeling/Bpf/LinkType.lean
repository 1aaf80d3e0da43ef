import Bpf.Code

/-!
# Link types

The types of links that the kernel knows, with their names and numbers.
-/

namespace Bpf

/-- Link type: a value of the kernel's enumeration. -/
inductive LinkType where
  | unspec
  | rawTracepoint
  | tracing
  | cgroup
  | iter
  | netNs
  | xdp
  | perfEvent
  | kprobeMulti
  | structOps
  | netfilter
  | tcx
  | uprobeMulti
  | netkit
  | sockmap
  /-- A value this library has no name for. -/
  | unknown (raw : UInt32)
deriving DecidableEq

namespace LinkType

/-- The values with a name, in the kernel's order. -/
def named : List LinkType :=
  [ .unspec, .rawTracepoint, .tracing, .cgroup, .iter, .netNs, .xdp, .perfEvent, .kprobeMulti,
    .structOps, .netfilter, .tcx, .uprobeMulti, .netkit, .sockmap ]

/-- The name of a value. -/
def name : LinkType → String
  | .unspec => "unspec"
  | .rawTracepoint => "raw_tracepoint"
  | .tracing => "tracing"
  | .cgroup => "cgroup"
  | .iter => "iter"
  | .netNs => "netns"
  | .xdp => "xdp"
  | .perfEvent => "perf_event"
  | .kprobeMulti => "kprobe_multi"
  | .structOps => "struct_ops"
  | .netfilter => "netfilter"
  | .tcx => "tcx"
  | .uprobeMulti => "uprobe_multi"
  | .netkit => "netkit"
  | .sockmap => "sockmap"
  | .unknown _ => "unknown"

/-- The kernel's number for a value. -/
def raw : LinkType → UInt32
  | .unspec => 0
  | .rawTracepoint => 1
  | .tracing => 2
  | .cgroup => 3
  | .iter => 4
  | .netNs => 5
  | .xdp => 6
  | .perfEvent => 7
  | .kprobeMulti => 8
  | .structOps => 9
  | .netfilter => 10
  | .tcx => 11
  | .uprobeMulti => 12
  | .netkit => 13
  | .sockmap => 14
  | .unknown r => r

/-- The identifier of a value: its name in camel case, with some of them spelt otherwise. -/
def identifier : LinkType → String
  | .netNs => "NetNs"
  | t => camelCase t.name

/-- The number of a value without a name. -/
def unnamed? : LinkType → Option UInt32
  | .unknown r => some r
  | _ => none

instance : Code LinkType where
  title := "LinkType"
  named := named
  name := name
  identifier := identifier
  raw := raw
  unnamed := .unknown
  unnamed? := unnamed?
  raw_named := by decide
  raw_unnamed _ := rfl
  unnamed?_eq a r := by cases a <;> simp [unnamed?]
  named_or_unnamed a := by cases a <;> simp [named]

end LinkType

end Bpf
