import Bpf.Error
import Bpf.Text.Number
import Bpf.Text.Quoted

/-!
# Helper functions

A `Helper` is a function of the kernel that programs call by number.  `names` lists the helpers with
a name, `Helper.parse` reads a number or a name, with or without the prefix that all names share, and
`Helper.tag` is how the verifier marks the helper in its log.
-/

namespace Bpf

/-- A helper function, by its number. -/
structure Helper where
  id : UInt32
deriving DecidableEq

namespace Helper

/-- The beginning that the names of all helpers share. -/
def namePrefix : List Char := "bpf_".toList

/-- The helpers with a name, by number, without the beginning that all names share. -/
def names : List (UInt32 × String) :=
  [ (1, "map_lookup_elem"),
    (2, "map_update_elem"),
    (3, "map_delete_elem"),
    (4, "probe_read"),
    (5, "ktime_get_ns"),
    (6, "trace_printk"),
    (7, "get_prandom_u32"),
    (8, "get_smp_processor_id"),
    (9, "skb_store_bytes"),
    (10, "l3_csum_replace"),
    (11, "l4_csum_replace"),
    (12, "tail_call"),
    (13, "clone_redirect"),
    (14, "get_current_pid_tgid"),
    (15, "get_current_uid_gid"),
    (16, "get_current_comm"),
    (17, "get_cgroup_classid"),
    (18, "skb_vlan_push"),
    (19, "skb_vlan_pop"),
    (20, "skb_get_tunnel_key"),
    (21, "skb_set_tunnel_key"),
    (22, "perf_event_read"),
    (23, "redirect"),
    (24, "get_route_realm"),
    (25, "perf_event_output"),
    (26, "skb_load_bytes"),
    (27, "get_stackid"),
    (44, "xdp_adjust_head"),
    (46, "get_socket_cookie"),
    (113, "probe_read_kernel"),
    (125, "ktime_get_boot_ns"),
    (130, "ringbuf_output"),
    (158, "get_current_task_btf"),
    (181, "loop") ]

/-- The name of a helper, if it has one. -/
def name? (h : Helper) : Option String :=
  (names.find? (·.1 == h.id)).map fun entry => String.ofList (namePrefix ++ entry.2.toList)

/-- The mark of the helper in the log of the verifier. -/
def tag (h : Helper) : String := s!"#{h.id}"

/-- The name of a helper, or its number if it has none. -/
def text (h : Helper) : String := h.name?.getD s!"helper#{h.id}"

/-- A name without the beginning that all names share. -/
def bareName (s : List Char) : List Char :=
  if namePrefix.isPrefixOf s then s.drop namePrefix.length else s

/-- The helper with the given name. -/
def ofName? (s : List Char) : Option Helper :=
  (names.find? (fun entry => entry.2.toList == bareName s)).map fun entry => ⟨entry.1⟩

/-- The helper that a text names by number or by name; what is a number is read as one. -/
def parse (s : String) : Except Error Helper :=
  match Text.unsigned? UInt32.size s.toList with
  | some n => .ok ⟨UInt32.ofNat n⟩
  | none =>
    match ofName? s.toList with
    | some h => .ok h
    | none => .error (.invalidInput s!"unknown helper: {Text.quote s}")

/-- The number of the helper, its name and its mark. -/
def toJson (h : Helper) : Json :=
  .object
    [("id", .nat h.id.toNat), ("name", Json.optional .string h.name?), ("tag", .string h.tag)]

/-- The order of helpers is that of their numbers. -/
protected def compare (a b : Helper) : Ordering := Ord.compare a.id b.id

end Helper

end Bpf
