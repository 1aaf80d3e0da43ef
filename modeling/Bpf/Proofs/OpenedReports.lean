import Bpf.Proofs.Reachable
import Bpf.Proofs.Report
import Bpf.Proofs.ShortReply
import Bpf.Proofs.Walk

/-!
# Reports on links that are opened by their id

Whoever opens a link by its id and asks for the report gets to know what the record of the link says, as
far as the kernel fills in its replies.  The layout that the record is written in and the one that the
reply is read by are the same for every type of link, and a reply that does not go as far as the id is
the only reason for a failure.
-/

namespace Bpf

variable {σ η : Type}

/-- Opens the link with an id and asks for the report on it. -/
def Link.infoById (K : Kernel σ) (id : UInt32) : Action σ LinkInfo := do
  let fd ← K.openLink id
  let link ← Link.ofDescriptor K fd none
  link.info K

/-- The attach type in a report. -/
def LinkDetails.attachType? : LinkDetails → Option AttachType
  | .tracing attachType .. => attachType
  | .cgroup _ attachType => attachType
  | .netNs _ attachType => attachType
  | .tcx _ attachType => attachType
  | .netkit _ attachType => attachType
  | _ => none

/-! ### Replies that go beyond the end -/

namespace LinkInfo

theorem within_eq_some {α : Type} {length offset width : Nat} {field : Option α} {value : α}
    (h : within length offset width field = some value) :
  field = some value
  := by
  unfold within at h
  split at h
  next => exact h
  next => cases h

end LinkInfo

/-- A whole reply is all that there is. -/
theorem LinkDetails.cut_of_size_le {length : Nat} (h : LinkInfo.size ≤ length)
    (details : LinkDetails) :
  details.cut length = details.cut LinkInfo.size
  := by
  have hwithin {α : Type} (offset width : Nat) (field : Option α)
      (hend : LinkInfo.lastByte offset width < LinkInfo.size) :
      LinkInfo.within length offset width field
        = LinkInfo.within LinkInfo.size offset width field := by
    rw [LinkInfo.within, LinkInfo.within, if_pos hend, if_pos (by omega)]
  cases details with
  | _ => simp (disch := decide) only [LinkDetails.cut, hwithin]

/-- A kernel that would fill in more than there is does not say more. -/
theorem LinkInfo.cut_min (length : Nat) (info : LinkInfo) :
  info.cut (min length LinkInfo.size) = info.cut length
  := by
  by_cases h : length ≤ LinkInfo.size
  · rw [Nat.min_eq_left h]
  · have hle : LinkInfo.size ≤ length := by omega
    have hprogram : ¬ length < 12 := by
      simp only [LinkInfo.size] at hle
      omega
    rw [Nat.min_eq_right hle, LinkInfo.cut, LinkInfo.cut, info.details.cut_of_size_le hle,
      if_neg hprogram, if_neg (by decide)]

theorem LinkDetails.attachType?_cut {details : LinkDetails} {length : Nat} {attachType : AttachType}
    (h : (details.cut length).attachType? = some attachType) :
  details.attachType? = some attachType
  := by
  cases details with
  | tracing | cgroup | netNs | tcx | netkit => exact LinkInfo.within_eq_some h
  | _ => cases h

namespace Memory

namespace LinkRecord

variable {record : LinkRecord}

/-- What is read from the reply on a link, however far that goes. -/
theorem readInfo_report_cut (htype : Code.ofRaw (Code.raw record.linkType) = record.linkType)
    (length : Option Nat) :
  let filled := length.getD LinkInfo.size
  Link.readInfo (record.report length)
    = if filled < 8 then .error (.fatal s!"link info truncated to {filled} bytes")
      else .ok (record.info.cut filled)
  := by
  intro filled
  have hdecode := LinkInfo.decode_eq_cut record.bytes (min filled LinkInfo.size)
  rw [decode_bytes htype, Option.map_some, LinkInfo.cut_min] at hdecode
  rw [Link.readInfo, report, hdecode]
  by_cases h : filled < 8
  · have hmin : min filled LinkInfo.size = filled := by
      apply Nat.min_eq_left
      simp only [LinkInfo.size]
      omega
    rw [if_pos h, hmin, if_pos h]
  · have hmin : ¬ min filled LinkInfo.size < 8 := by
      simp only [LinkInfo.size]
      omega
    rw [if_neg h, if_neg hmin]

/-- The attach type in a report has the number of that in the record. -/
theorem raw_attachType?_details {attachType : AttachType}
    (h : record.details.attachType? = some attachType) :
  Code.raw attachType = Code.raw record.attachType
  := by
  have hraw : Code.raw (Code.ofRaw (Code.raw record.attachType) : AttachType)
      = Code.raw record.attachType := Code.raw_ofRaw _
  cases htype : record.linkType with
  | tracing =>
      simp only [details, htype, LinkDetails.attachType?] at h
      obtain ⟨word, hword, rfl⟩ := Option.map_eq_some_iff.1 h
      obtain ⟨hword, -⟩ := Option.filter_eq_some_iff.1 hword
      rw [← Option.some.inj hword, hraw]
  | cgroup | netNs | tcx | netkit =>
      simp only [details, htype, LinkDetails.attachType?] at h
      rw [← Option.some.inj h, hraw]
  | netfilter =>
      cases hhook : record.netfilter with
      | _ => simp only [details, htype, hhook, LinkDetails.attachType?, reduceCtorEq] at h
  | _ => simp only [details, htype, LinkDetails.attachType?, reduceCtorEq] at h

end LinkRecord

/-! ### The answer of the kernel -/

variable {settings : Settings} {script : Script η} {record : LinkRecord} {m : Machine η}

/-- A link that is opened by its id is reported on as its reply is read. -/
theorem Machine.run_infoById (hrecord : m.state.links.get? record.id = some record)
    (hheld : record.released = false) (hfd : m.state.HasDescriptors) :
  ((Link.infoById (kernel settings script) record.id).run.run m).1
    = Link.readInfo (record.report settings.infoLength)
  := by
  -- Neither the opening of a link nor the report on it is left to a script.
  show ((Link.infoById (kernel settings {}) record.id).run.run m).1 = _
  obtain ⟨fd, opened, hopen, hobject, hlinks⟩ :=
    run_openLink_of_openable settings ⟨record, hrecord, hheld⟩ hfd
  have hkept : opened.state.links.get? record.id = some record := by rw [hlinks, hrecord]
  have hquery : (Link.queryInfo (kernel settings {}) fd).run.run opened = _ :=
    run_queryInfo_report settings hobject hkept
  rw [Link.infoById, Action.run_bind_of_ok hopen]
  cases hread : Link.readInfo (record.report settings.infoLength) with
  | error e =>
      rw [hread] at hquery
      have hmade : (Link.ofDescriptor (kernel settings {}) fd none).run.run opened = _ :=
        Action.run_bind_of_error hquery
      rw [Action.run_bind_of_error hmade]
  | ok info =>
      rw [hread] at hquery
      have hmade : (Link.ofDescriptor (kernel settings {}) fd none).run.run opened
          = (.ok ⟨info.linkType, some fd, none⟩, opened.counted Command.infoByFd) :=
        Action.run_bind_of_ok hquery
      rw [Action.run_bind_of_ok hmade, ← hread]
      -- The handle that was made has the descriptor, so the same is asked once more.
      have hagain : (Link.queryInfo (kernel settings {}) fd).run.run
          (opened.counted Command.infoByFd) = _ := run_queryInfo_report settings hobject hkept
      exact congrArg Prod.fst hagain

/-- The report on a link that is not gone tells what its record says, without what lies beyond the bytes
that the kernel fills in; that these do not go as far as the id is the only failure. -/
theorem record_reported (settings : Settings) (script : Script η)
    (hrecord : m.state.links.get? record.id = some record) (hheld : record.released = false)
    (htype : ∃ raw, record.linkType = Code.ofRaw raw) (hfd : m.state.HasDescriptors) :
  let answer := ((Link.infoById (kernel settings script) record.id).run.run m).1
  let filled := settings.infoLength.getD LinkInfo.size
  ((∃ message, answer = .error (.fatal message)) ↔ filled < 8)
    ∧ (filled < 8 → answer = .error (.fatal s!"link info truncated to {filled} bytes"))
    ∧ (8 ≤ filled → answer = .ok (record.info.cut filled))
    ∧ ∀ info attachType, answer = .ok info → info.details.attachType? = some attachType →
        Code.raw attachType = Code.raw record.attachType
  := by
  intro answer filled
  obtain ⟨raw, hraw⟩ := htype
  have htype : Code.ofRaw (Code.raw record.linkType) = record.linkType := by
    rw [hraw, Code.raw_ofRaw]
  have hanswer : answer = if filled < 8 then .error (.fatal s!"link info truncated to {filled} bytes")
      else .ok (record.info.cut filled) :=
    (Machine.run_infoById hrecord hheld hfd).trans (LinkRecord.readInfo_report_cut htype _)
  rw [hanswer]
  by_cases h : filled < 8
  · rw [if_pos h]
    refine ⟨⟨fun _ => h, fun _ => ⟨_, rfl⟩⟩, fun _ => rfl, fun hle => by omega, ?_⟩
    intro info attachType hinfo
    cases hinfo
  · rw [if_neg h]
    refine ⟨⟨?_, fun hlt => absurd hlt h⟩, fun hlt => absurd hlt h, fun _ => rfl, ?_⟩
    · rintro ⟨message, hmessage⟩
      cases hmessage
    · intro info attachType hinfo hattachType
      rw [← Except.ok.inj hinfo] at hattachType
      exact LinkRecord.raw_attachType?_details (LinkDetails.attachType?_cut hattachType)

/-- The count of the hits that were not served lies beyond the end of a reply of an old layout. -/
theorem record_reported_short :
  let record : LinkRecord :=
    { LinkRecord.ofAttachType 7 .traceKprobeMulti 0 with count := 3, flags := 1, missed := 9 }
  let settings : Settings := { infoLength := some 32 }
  let m : Machine Unit := (Event.insertLink record).apply settings (Machine.fresh ())
  ((Link.infoById (kernel settings {}) 7).run.run m).1
    = .ok ⟨.kprobeMulti, 7, none, .kprobeMulti (some 3) (some 1) none⟩
  := by
  intro record settings m
  have hrecord : m.state.links.get? record.id = some record := by decide +kernel
  obtain ⟨-, -, hanswer, -⟩ :=
    record_reported settings {} hrecord rfl ⟨8, rfl⟩ rfl
  exact hanswer (by decide)

end Memory

end Bpf
