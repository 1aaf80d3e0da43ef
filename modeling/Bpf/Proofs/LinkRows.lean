import Bpf.Proofs.PlainLines

/-!
# Rows of a list of links

What there is to be read in the row of a link, said without what writes it.

* A line has the id at the right end of a column, the type and the program each at the left end of
  one, and the details as an object without blanks.
* An element has the type, the id, the program and the details under their names.
* The details are an object that says what they are called, and then has a member for each of their
  fields.

There is just one line and just one element for each report.
-/

namespace Bpf

/-! ### Columns -/

namespace Text

/-- Nothing but blanks. -/
def Blank (s : String) : Prop := ∀ c ∈ s.toList, c = ' '

/-- A text at the left end of a column, which is as wide as it has to be. -/
def AtLeft (width : Nat) (text column : String) : Prop :=
  ∃ blanks, Blank blanks ∧ column = text ++ blanks ∧ column.length = max width text.length

/-- A text at the right end of a column, which is as wide as it has to be. -/
def AtRight (width : Nat) (text column : String) : Prop :=
  ∃ blanks, Blank blanks ∧ column = blanks ++ text ∧ column.length = max width text.length

/-- Blanks are told apart by how many there are. -/
theorem Blank.eq {s t : String} (hs : Blank s) (ht : Blank t) (h : s.length = t.length) :
  s = t
  := by
  rw [← String.toList_inj, List.eq_replicate_of_mem hs, List.eq_replicate_of_mem ht,
    String.length_toList, String.length_toList, h]

theorem AtLeft.unique {width : Nat} {text column other : String} (h : AtLeft width text column)
    (hother : AtLeft width text other) :
  column = other
  := by
  obtain ⟨blanks, hblanks, rfl, hwidth⟩ := h
  obtain ⟨blanks', hblanks', rfl, hwidth'⟩ := hother
  rw [String.length_append] at hwidth hwidth'
  rw [hblanks.eq hblanks' (by omega)]

theorem AtRight.unique {width : Nat} {text column other : String} (h : AtRight width text column)
    (hother : AtRight width text other) :
  column = other
  := by
  obtain ⟨blanks, hblanks, rfl, hwidth⟩ := h
  obtain ⟨blanks', hblanks', rfl, hwidth'⟩ := hother
  rw [String.length_append] at hwidth hwidth'
  rw [hblanks.eq hblanks' (by omega)]

end Text

open Text

namespace Output

end Output

/-! ### Fields -/

namespace Json

/-- The value of a field: what the kernel has filled in, or `null`. -/
inductive IsField {α : Type} (value : α → Json) : Option α → Json → Prop
  | filled (a : α) : IsField value (some a) (value a)
  | missing : IsField value none .null

/-- The value of a field with a word of four bytes. -/
def IsWord : Option UInt32 → Json → Prop := IsField fun w => .number w.toNat 0

/-- The value of a field with a word of eight bytes. -/
def IsLong : Option UInt64 → Json → Prop := IsField fun w => .number w.toNat 0

/-- The value of a field with a signed word of four bytes. -/
def IsSigned : Option Int32 → Json → Prop := IsField fun w => .number w.toInt 0

/-- The value of a field with an attach type. -/
def IsAttachType : Option AttachType → Json → Prop := IsField fun t => .string (Code.text t)

theorem IsField.unique {α : Type} {value : α → Json} {field : Option α} {json other : Json}
    (h : IsField value field json) (hother : IsField value field other) :
  json = other
  := by
  cases h with
  | filled a =>
      cases hother
      rfl
  | missing =>
      cases hother
      rfl

end Json

open Json

/-! ### Details -/

namespace LinkDetails

/-- The members of the object that shows the details of a report: what they are called, and a value for
each of their fields. -/
inductive Members : LinkDetails → List (String × Json) → Prop
  | tracing {attachType : Option AttachType} {targetObjectId targetBtfId : Option UInt32}
      {type object btf : Json} (htype : IsAttachType attachType type)
      (hobject : IsWord targetObjectId object) (hbtf : IsWord targetBtfId btf) :
    Members (.tracing attachType targetObjectId targetBtfId)
      [ ("kind", .string "tracing"), ("attach_type", type), ("target_obj_id", object),
        ("target_btf_id", btf) ]
  | cgroup {cgroupId : Option UInt64} {attachType : Option AttachType} {id type : Json}
      (hid : IsLong cgroupId id) (htype : IsAttachType attachType type) :
    Members (.cgroup cgroupId attachType)
      [("kind", .string "cgroup"), ("cgroup_id", id), ("attach_type", type)]
  | netNs {inode : Option UInt32} {attachType : Option AttachType} {number type : Json}
      (hinode : IsWord inode number) (htype : IsAttachType attachType type) :
    Members (.netNs inode attachType)
      [("kind", .string "net_ns"), ("netns_ino", number), ("attach_type", type)]
  | xdp {interface : Option UInt32} {index : Json} (hinterface : IsWord interface index) :
    Members (.xdp interface) [("kind", .string "xdp"), ("ifindex", index)]
  | structOps {mapId : Option UInt32} {id : Json} (hid : IsWord mapId id) :
    Members (.structOps mapId) [("kind", .string "struct_ops"), ("map_id", id)]
  | netfilter {family hook : Option UInt32} {priority : Option Int32} {flags : Option UInt32}
      {pf hooknum order bits : Json} (hfamily : IsWord family pf) (hhook : IsWord hook hooknum)
      (hpriority : IsSigned priority order) (hflags : IsWord flags bits) :
    Members (.netfilter family hook priority flags)
      [ ("kind", .string "netfilter"), ("pf", pf), ("hooknum", hooknum), ("priority", order),
        ("flags", bits) ]
  | kprobeMulti {count flags : Option UInt32} {missed : Option UInt64} {number bits lost : Json}
      (hcount : IsWord count number) (hflags : IsWord flags bits) (hmissed : IsLong missed lost) :
    Members (.kprobeMulti count flags missed)
      [("kind", .string "kprobe_multi"), ("count", number), ("flags", bits), ("missed", lost)]
  | uprobeMulti {count flags pid : Option UInt32} {number bits process : Json}
      (hcount : IsWord count number) (hflags : IsWord flags bits) (hpid : IsWord pid process) :
    Members (.uprobeMulti count flags pid)
      [("kind", .string "uprobe_multi"), ("count", number), ("flags", bits), ("pid", process)]
  | perfEvent {eventType : Option UInt32} {number : Json} (htype : IsWord eventType number) :
    Members (.perfEvent eventType) [("kind", .string "perf_event"), ("event_type", number)]
  | tcx {interface : Option UInt32} {attachType : Option AttachType} {index type : Json}
      (hinterface : IsWord interface index) (htype : IsAttachType attachType type) :
    Members (.tcx interface attachType)
      [("kind", .string "tcx"), ("ifindex", index), ("attach_type", type)]
  | netkit {interface : Option UInt32} {attachType : Option AttachType} {index type : Json}
      (hinterface : IsWord interface index) (htype : IsAttachType attachType type) :
    Members (.netkit interface attachType)
      [("kind", .string "netkit"), ("ifindex", index), ("attach_type", type)]
  | other : Members .other [("kind", .string "other")]

theorem Members.unique {details : LinkDetails} {members others : List (String × Json)}
    (h : details.Members members) (hothers : details.Members others) :
  members = others
  := by
  cases h with
  | tracing htype hobject hbtf =>
      cases hothers with
      | tracing htype' hobject' hbtf' =>
          rw [htype.unique htype', hobject.unique hobject', hbtf.unique hbtf']
  | cgroup hid htype =>
      cases hothers with
      | cgroup hid' htype' => rw [hid.unique hid', htype.unique htype']
  | netNs hinode htype =>
      cases hothers with
      | netNs hinode' htype' => rw [hinode.unique hinode', htype.unique htype']
  | xdp hinterface =>
      cases hothers with
      | xdp hinterface' => rw [hinterface.unique hinterface']
  | structOps hid =>
      cases hothers with
      | structOps hid' => rw [hid.unique hid']
  | netfilter hfamily hhook hpriority hflags =>
      cases hothers with
      | netfilter hfamily' hhook' hpriority' hflags' =>
          rw [hfamily.unique hfamily', hhook.unique hhook', hpriority.unique hpriority',
            hflags.unique hflags']
  | kprobeMulti hcount hflags hmissed =>
      cases hothers with
      | kprobeMulti hcount' hflags' hmissed' =>
          rw [hcount.unique hcount', hflags.unique hflags', hmissed.unique hmissed']
  | uprobeMulti hcount hflags hpid =>
      cases hothers with
      | uprobeMulti hcount' hflags' hpid' =>
          rw [hcount.unique hcount', hflags.unique hflags', hpid.unique hpid']
  | perfEvent htype =>
      cases hothers with
      | perfEvent htype' => rw [htype.unique htype']
  | tcx hinterface htype =>
      cases hothers with
      | tcx hinterface' htype' => rw [hinterface.unique hinterface', htype.unique htype']
  | netkit hinterface htype =>
      cases hothers with
      | netkit hinterface' htype' => rw [hinterface.unique hinterface', htype.unique htype']
  | other =>
      cases hothers
      rfl

end LinkDetails

/-! ### Rows -/

namespace LinkInfo

/-- The element of a link in a list. -/
inductive Element (info : LinkInfo) : Json → Prop
  | members {program : Json} {details : List (String × Json)}
      (hprogram : IsWord info.programId program) (hdetails : info.details.Members details) :
    Element info (.object
      [ ("link_type", .string (Code.text info.linkType)), ("id", .number info.id.toNat 0),
        ("program_id", program), ("details", .object details) ])

/-- The line of a link in a list.  A link without a program has a dash in its place. -/
inductive Line (info : LinkInfo) : String → Prop
  | columns {id linkType program : String} {details : List (String × Json)}
      (hid : AtRight 6 (toString info.id.toNat) id)
      (hlinkType : AtLeft 14 (Code.text info.linkType) linkType)
      (hprogram : AtLeft 6 (info.programId.elim "-" fun w => toString w.toNat) program)
      (hdetails : info.details.Members details) :
    Line info (id ++ "  " ++ linkType ++ "  prog " ++ program ++ "  " ++ (object details).compact)

theorem Element.unique {info : LinkInfo} {element other : Json} (h : info.Element element)
    (hother : info.Element other) :
  element = other
  := by
  cases h with
  | members hprogram hdetails =>
      cases hother with
      | members hprogram' hdetails' =>
          rw [hprogram.unique hprogram', hdetails.unique hdetails']

theorem Line.unique {info : LinkInfo} {line other : String} (h : info.Line line)
    (hother : info.Line other) :
  line = other
  := by
  cases h with
  | columns hid hlinkType hprogram hdetails =>
      cases hother with
      | columns hid' hlinkType' hprogram' hdetails' =>
          rw [hid.unique hid', hlinkType.unique hlinkType', hprogram.unique hprogram',
            hdetails.unique hdetails']

end LinkInfo

end Bpf
