import Bpf.Proofs.ManyProbes
import Bpf.Proofs.UnknownAnchors

/-!
# Contracts of attachments

An attachment is checked before anything is asked of the kernel.  `Attachment.WellFormed` is the
contract of each kind of attachment, and `Attachment.Orders` is what is to be asked for it.  A demand is
made exactly if the contract is kept and the program is open, and it is for such an order; otherwise the
answer is that the input is invalid.
-/

namespace Bpf

variable {α β : Type}

/-! ### Contracts and orders -/

theorem AttachType.linkType_eq_tcx {attachType : AttachType}
    (h : attachType = .tcxIngress ∨ attachType = .tcxEgress) :
  attachType.linkType = .tcx
  := by
  obtain rfl | rfl := h
  · rfl
  · rfl

theorem AttachType.linkType_eq_netkit {attachType : AttachType}
    (h : attachType = .netkitPrimary ∨ attachType = .netkitPeer) :
  attachType.linkType = .netkit
  := by
  obtain rfl | rfl := h
  · rfl
  · rfl

namespace Attachment

/-- The contract of an attachment, apart from the program and the anchor. -/
def WellFormed : Attachment → Prop
  | .raw .. => True
  | .cgroup _ attachType => attachType.linkType = .cgroup
  | .netNs _ attachType => attachType.linkType = .netNs
  | .xdp interface _ => interface ≠ 0
  | .tcx place =>
    (place.attachType = .tcxIngress ∨ place.attachType = .tcxEgress) ∧ place.interface ≠ 0
  | .netkit place =>
    (place.attachType = .netkitPrimary ∨ place.attachType = .netkitPeer) ∧ place.interface ≠ 0
  | .kprobeMulti probes => (ManyProbes.functions probes).WellFormed
  | .uprobeMulti probes => (ManyProbes.places probes).WellFormed
  | .netfilter .. => True
  | .perfEvent .. => True
  | .rawTracepoint name => name ≠ "" ∧ '\x00' ∉ name.toList
  | .tracing attachType _ => attachType.linkType = .tracing

/-- What is to be asked of the kernel for an attachment. -/
inductive Orders : Attachment → Order → Prop
  | raw {target targetBtfId flags : UInt32} {attachType : AttachType} :
    Orders (.raw target attachType targetBtfId flags) (.link target attachType flags
      (if targetBtfId = 0 then .none else .targetBtfId targetBtfId))
  | cgroup {group : UInt32} {attachType : AttachType} :
    Orders (.cgroup group attachType) (.link group attachType 0 .none)
  | netNs {space : UInt32} {attachType : AttachType} :
    Orders (.netNs space attachType) (.link space attachType 0 .none)
  | xdp {interface flags : UInt32} : Orders (.xdp interface flags) (.link interface .xdp flags .none)
  | chain {a : Attachment} {place : ChainPlace} (h : a.InChain place) : Orders a (.chain place)
  | kprobeMulti {probes : KprobeMulti} {extra : LinkExtra}
    (h : (ManyProbes.functions probes).Carries extra) :
    Orders (.kprobeMulti probes) (.link 0 .traceKprobeMulti 0 extra)
  | uprobeMulti {probes : UprobeMulti} {extra : LinkExtra}
    (h : (ManyProbes.places probes).Carries extra) :
    Orders (.uprobeMulti probes) (.link 0 .traceUprobeMulti 0 extra)
  | netfilter {family hook flags : UInt32} {priority : Int32} :
    Orders (.netfilter family hook priority flags)
      (.link 0 .netfilter 0 (.netfilter family hook priority flags))
  | perfEvent {event : UInt32} {cookie : UInt64} :
    Orders (.perfEvent event cookie) (.link event .perfEvent 0 (.perfEvent cookie))
  | rawTracepoint {name : NulFree} : Orders (.rawTracepoint name.text) (.tracepoint (some name))
  | tracing {attachType : AttachType} : Orders (.tracing attachType 0) (.tracepoint none)
  | tracingCookie {attachType : AttachType} {cookie : UInt64} (h : cookie ≠ 0) :
    Orders (.tracing attachType cookie) (.link 0 attachType 0 (.tracing 0 cookie))

/-- The demand for an order. -/
def demanded (program : Descriptor) (order : Order) (a : Attachment) : Demand where
  program := program
  order := order
  linkType := a.linkType
  feature := a.feature
  missing :=
    match a with
    | .kprobeMulti _ => some "attach kprobe multi: one or more symbols"
    | _ => none

section Demands

variable {program : ProgramHandle} {a : Attachment} {d : Demand}

theorem checkInterface_eq_ok_iff {what : String} {interface : UInt32} {u : Unit} :
  checkInterface what interface = .ok u ↔ interface ≠ 0
  := by
  constructor
  · exact ne_zero_of_checkInterface
  · intro h
    rw [checkInterface, if_neg h]

theorem rawDemand_eq_ok_iff {target : UInt32} {attachType : AttachType} {targetBtfId flags : UInt32} :
  rawDemand program target attachType targetBtfId flags = .ok d
    ↔ ∃ fd, program = some fd
      ∧ d =
        { program := fd
          order := .link target attachType flags
            (if targetBtfId = 0 then .none else .targetBtfId targetBtfId)
          linkType := attachType.linkType
          feature := some .bpfLink }
  := by
  simp only [rawDemand, bind_eq_ok_iff, openProgram_eq_ok_iff]
  constructor
  · rintro ⟨fd, hfd, hd⟩
    cases hd
    exact ⟨fd, hfd, rfl⟩
  · rintro ⟨fd, hfd, rfl⟩
    exact ⟨fd, hfd, rfl⟩

theorem chainDemand_eq_ok_iff {what : String} {feature : AttachFeature} {place : ChainPlace} :
  chainDemand what feature program place = .ok d
    ↔ place.interface ≠ 0 ∧ ∃ fd, program = some fd
      ∧ d =
        { program := fd
          order := .chain place
          linkType := place.attachType.linkType
          feature := some feature }
  := by
  simp only [chainDemand, bind_eq_ok_iff, checkInterface_eq_ok_iff, openProgram_eq_ok_iff]
  constructor
  · rintro ⟨u, hinterface, fd, hfd, hd⟩
    cases hd
    exact ⟨hinterface, fd, hfd, rfl⟩
  · rintro ⟨hinterface, fd, hfd, rfl⟩
    exact ⟨(), hinterface, fd, hfd, rfl⟩

/-- A demand is only made if the contract is kept and the program is open, and it is for an order. -/
theorem of_demand (h : a.demand program = .ok d) :
  a.WellFormed ∧ program = some d.program ∧ a.Orders d.order ∧ d = a.demanded d.program d.order
  := by
  cases a with
  | raw target attachType targetBtfId flags =>
      obtain ⟨fd, hfd, rfl⟩ := rawDemand_eq_ok_iff.1 h
      exact ⟨trivial, hfd, .raw, rfl⟩
  | cgroup group attachType =>
      obtain ⟨u, hcheck, h⟩ := exists_of_bind_eq_ok h
      obtain ⟨fd, hfd, rfl⟩ := rawDemand_eq_ok_iff.1 h
      have htype : attachType.linkType = .cgroup := of_decide_eq_true (of_checkType hcheck)
      refine ⟨htype, hfd, .cgroup, ?_⟩
      rw [htype]
      rfl
  | netNs space attachType =>
      obtain ⟨u, hcheck, h⟩ := exists_of_bind_eq_ok h
      obtain ⟨fd, hfd, rfl⟩ := rawDemand_eq_ok_iff.1 h
      have htype : attachType.linkType = .netNs := of_decide_eq_true (of_checkType hcheck)
      refine ⟨htype, hfd, .netNs, ?_⟩
      rw [htype]
      rfl
  | xdp interface flags =>
      obtain ⟨u, hcheck, h⟩ := exists_of_bind_eq_ok h
      obtain ⟨fd, hfd, rfl⟩ := rawDemand_eq_ok_iff.1 h
      exact ⟨ne_zero_of_checkInterface hcheck, hfd, .xdp, rfl⟩
  | tcx place =>
      obtain ⟨u, hcheck, h⟩ := exists_of_bind_eq_ok h
      obtain ⟨hinterface, fd, hfd, rfl⟩ := chainDemand_eq_ok_iff.1 h
      have htype : place.attachType = .tcxIngress ∨ place.attachType = .tcxEgress := by
        simpa using of_checkType hcheck
      refine ⟨⟨htype, hinterface⟩, hfd, .chain .tcx, ?_⟩
      rw [AttachType.linkType_eq_tcx htype]
      rfl
  | netkit place =>
      obtain ⟨u, hcheck, h⟩ := exists_of_bind_eq_ok h
      obtain ⟨hinterface, fd, hfd, rfl⟩ := chainDemand_eq_ok_iff.1 h
      have htype : place.attachType = .netkitPrimary ∨ place.attachType = .netkitPeer := by
        simpa using of_checkType hcheck
      refine ⟨⟨htype, hinterface⟩, hfd, .chain .netkit, ?_⟩
      rw [AttachType.linkType_eq_netkit htype]
      rfl
  | kprobeMulti probes =>
      obtain ⟨hprobes, fd, extra, hfd, hextra, rfl⟩ :=
        (ManyProbes.demand_eq_ok_iff (p := .functions probes)).1 h
      exact ⟨hprobes, hfd, .kprobeMulti hextra, rfl⟩
  | uprobeMulti probes =>
      obtain ⟨hprobes, fd, extra, hfd, hextra, rfl⟩ :=
        (ManyProbes.demand_eq_ok_iff (p := .places probes)).1 h
      exact ⟨hprobes, hfd, .uprobeMulti hextra, rfl⟩
  | netfilter family hook priority flags =>
      obtain ⟨fd, hfd, h⟩ := exists_of_bind_eq_ok h
      cases h
      exact ⟨trivial, eq_some_of_openProgram hfd, .netfilter, rfl⟩
  | perfEvent event cookie =>
      obtain ⟨fd, hfd, h⟩ := exists_of_bind_eq_ok h
      cases h
      exact ⟨trivial, eq_some_of_openProgram hfd, .perfEvent, rfl⟩
  | rawTracepoint name =>
      rw [demand] at h
      split at h
      next => cases h
      next hempty =>
        obtain ⟨tracepoint, hname, h⟩ := exists_of_bind_eq_ok h
        obtain ⟨fd, hfd, h⟩ := exists_of_bind_eq_ok h
        cases h
        cases nulFree_eq_ok_iff.1 hname
        have hname : tracepoint.text ≠ "" := by
          rw [Ne, ← String.toList_eq_nil_iff, ← List.isEmpty_iff]
          exact hempty
        exact ⟨⟨hname, tracepoint.nul_not_mem⟩, eq_some_of_openProgram hfd, .rawTracepoint, rfl⟩
  | tracing attachType cookie =>
      obtain ⟨u, hcheck, h⟩ := exists_of_bind_eq_ok h
      have htype : attachType.linkType = .tracing := of_decide_eq_true (of_checkType hcheck)
      obtain ⟨fd, hfd, h⟩ := exists_of_bind_eq_ok h
      split at h
      next hcookie =>
        cases h
        subst hcookie
        exact ⟨htype, eq_some_of_openProgram hfd, .tracing, rfl⟩
      next hcookie =>
        cases h
        refine ⟨htype, eq_some_of_openProgram hfd, .tracingCookie hcookie, ?_⟩
        simp only [demanded, linkType, feature, if_neg hcookie]

/-- Nothing comes of a check that passes. -/
theorem checkType_bind {what kind : String} {attachType : AttachType} {fits : Bool} (h : fits = true)
    (next : Except Error α) :
  (checkType what kind attachType fits >>= fun _ => next) = next
  := by
  rw [h]
  rfl

theorem checkInterface_bind {what : String} {interface : UInt32} (h : interface ≠ 0)
    (next : Except Error α) :
  (checkInterface what interface >>= fun _ => next) = next
  := by
  rw [checkInterface, if_neg h]
  rfl

/-- The demand for an order is made if the contract is kept. -/
theorem demand_of_orders {order : Order} (ha : a.WellFormed) (horder : a.Orders order)
    (fd : Descriptor) :
  a.demand (some fd) = .ok (a.demanded fd order)
  := by
  cases horder with
  | raw => rfl
  | @cgroup group attachType =>
      have htype : attachType.linkType = .cgroup := ha
      rw [demand, checkType_bind (decide_eq_true htype), rawDemand_eq_ok_iff]
      exact ⟨fd, rfl, by rw [htype]; rfl⟩
  | @netNs space attachType =>
      have htype : attachType.linkType = .netNs := ha
      rw [demand, checkType_bind (decide_eq_true htype), rawDemand_eq_ok_iff]
      exact ⟨fd, rfl, by rw [htype]; rfl⟩
  | xdp =>
      rw [demand, checkInterface_bind ha]
      rfl
  | chain hplace =>
      cases hplace with
      | tcx =>
          obtain ⟨htype, hinterface⟩ := ha
          rw [demand, checkType_bind (by simpa using htype), chainDemand_eq_ok_iff]
          exact ⟨hinterface, fd, rfl, by rw [AttachType.linkType_eq_tcx htype]; rfl⟩
      | netkit =>
          obtain ⟨htype, hinterface⟩ := ha
          rw [demand, checkType_bind (by simpa using htype), chainDemand_eq_ok_iff]
          exact ⟨hinterface, fd, rfl, by rw [AttachType.linkType_eq_netkit htype]; rfl⟩
  | kprobeMulti hextra =>
      exact (ManyProbes.demand_eq_ok_iff (p := .functions _)).2 ⟨ha, fd, _, rfl, hextra, rfl⟩
  | uprobeMulti hextra =>
      exact (ManyProbes.demand_eq_ok_iff (p := .places _)).2 ⟨ha, fd, _, rfl, hextra, rfl⟩
  | netfilter => rfl
  | perfEvent => rfl
  | @rawTracepoint name =>
      have hsome : ¬ name.text.toList.isEmpty = true := by
        rw [List.isEmpty_iff, String.toList_eq_nil_iff]
        exact ha.1
      have hname : nulFree "attach raw tracepoint" "name" name.text = .ok name :=
        nulFree_eq_ok_iff.2 rfl
      rw [demand, if_neg hsome, hname]
      rfl
  | @tracing attachType =>
      have htype : attachType.linkType = .tracing := ha
      rw [demand, tracingDemand, checkType_bind (decide_eq_true htype)]
      rfl
  | @tracingCookie attachType cookie hcookie =>
      have htype : attachType.linkType = .tracing := ha
      rw [demand, tracingDemand, checkType_bind (decide_eq_true htype)]
      simp only [demanded, linkType, feature, if_neg hcookie]
      rfl

/-- There is an order if the contract is kept. -/
theorem WellFormed.exists_order (ha : a.WellFormed) :
  ∃ order, a.Orders order
  := by
  cases a with
  | raw => exact ⟨_, .raw⟩
  | cgroup => exact ⟨_, .cgroup⟩
  | netNs => exact ⟨_, .netNs⟩
  | xdp => exact ⟨_, .xdp⟩
  | tcx => exact ⟨_, .chain .tcx⟩
  | netkit => exact ⟨_, .chain .netkit⟩
  | kprobeMulti probes =>
      obtain ⟨extra, hextra⟩ := ManyProbes.WellFormed.exists_carries (p := .functions probes) ha
      exact ⟨_, .kprobeMulti hextra⟩
  | uprobeMulti probes =>
      obtain ⟨extra, hextra⟩ := ManyProbes.WellFormed.exists_carries (p := .places probes) ha
      exact ⟨_, .uprobeMulti hextra⟩
  | netfilter => exact ⟨_, .netfilter⟩
  | perfEvent => exact ⟨_, .perfEvent⟩
  | rawTracepoint name =>
      obtain ⟨name, rfl⟩ := NulFree.exists_text_iff.2 ha.2
      exact ⟨_, .rawTracepoint⟩
  | tracing attachType cookie =>
      by_cases hcookie : cookie = 0
      · subst hcookie
        exact ⟨_, .tracing⟩
      · exact ⟨_, .tracingCookie hcookie⟩

end Demands

/-! ### Broken contracts -/

/-- If a check fails then because a contract is broken. -/
def IsCheck (check : Except Error α) : Prop :=
  ∀ e, check = .error e → ∃ message, e = .invalidInput message

namespace IsCheck

theorem ok (a : α) :
  IsCheck (.ok a)
  := by
  rintro e ⟨⟩

theorem broken (what problem : String) :
  IsCheck (Attachment.broken what problem : Except Error α)
  := by
  rintro e ⟨⟩
  exact ⟨_, rfl⟩

theorem bind {check : Except Error α} {next : α → Except Error β} (hcheck : IsCheck check)
    (hnext : ∀ a, IsCheck (next a)) :
  IsCheck (check >>= next)
  := by
  cases check with
  | error e =>
      rintro _ ⟨⟩
      exact hcheck e rfl
  | ok a => exact hnext a

theorem mapM {check : α → Except Error β} (hcheck : ∀ a, IsCheck (check a)) (list : List α) :
  IsCheck (list.mapM check)
  := by
  induction list with
  | nil => exact ok []
  | cons a list ih =>
      rw [List.mapM_cons]
      apply (hcheck a).bind
      intro b
      apply ih.bind
      intro rest
      exact ok (b :: rest)

end IsCheck

theorem isCheck_openProgram (what : String) (program : ProgramHandle) :
  IsCheck (openProgram what program)
  := by
  cases program with
  | none => exact .broken what _
  | some fd => exact .ok fd

theorem isCheck_checkType (what kind : String) (attachType : AttachType) (fits : Bool) :
  IsCheck (checkType what kind attachType fits)
  := by
  cases fits with
  | false => exact .broken what _
  | true => exact .ok ()

theorem isCheck_checkInterface (what : String) (interface : UInt32) :
  IsCheck (checkInterface what interface)
  := by
  unfold checkInterface
  split
  · exact .broken what _
  · exact .ok ()

theorem isCheck_checkLength (what listed counted : String) (length count : Nat) :
  IsCheck (checkLength what listed counted length count)
  := by
  unfold checkLength
  split
  · exact .ok ()
  · exact .broken what _

theorem isCheck_nulFree (what called text : String) :
  IsCheck (nulFree what called text)
  := by
  unfold nulFree
  split
  · exact .ok _
  · exact .broken what _

theorem isCheck_probeCount (what : String) (probes : KprobeMulti) :
  IsCheck (probeCount what probes)
  := by
  unfold probeCount
  split
  · exact .broken what _
  · exact .ok _
  · exact .ok _
  · exact .broken what _

theorem isCheck_rawDemand (program : ProgramHandle) (target : UInt32) (attachType : AttachType)
    (targetBtfId flags : UInt32) :
  IsCheck (rawDemand program target attachType targetBtfId flags)
  := by
  apply (isCheck_openProgram _ _).bind
  intro fd
  exact .ok _

theorem isCheck_chainDemand (what : String) (feature : AttachFeature) (program : ProgramHandle)
    (place : ChainPlace) :
  IsCheck (chainDemand what feature program place)
  := by
  apply (isCheck_checkInterface _ _).bind
  intro _
  apply (isCheck_openProgram _ _).bind
  intro fd
  exact .ok _

theorem isCheck_kprobeDemand (program : ProgramHandle) (probes : KprobeMulti) :
  IsCheck (kprobeDemand program probes)
  := by
  apply (isCheck_probeCount _ _).bind
  intro count
  apply (isCheck_checkLength _ _ _ _ _).bind
  intro _
  apply (IsCheck.mapM (isCheck_nulFree _ _) _).bind
  intro symbols
  apply (isCheck_openProgram _ _).bind
  intro fd
  exact .ok _

theorem isCheck_uprobeDemand (program : ProgramHandle) (probes : UprobeMulti) :
  IsCheck (uprobeDemand program probes)
  := by
  unfold uprobeDemand
  dsimp only
  split
  · exact .broken _ _
  · apply (isCheck_checkLength _ _ _ _ _).bind
    intro _
    apply (isCheck_checkLength _ _ _ _ _).bind
    intro _
    apply (isCheck_nulFree _ _ _).bind
    intro path
    apply (isCheck_openProgram _ _).bind
    intro fd
    exact .ok _

theorem isCheck_tracingDemand (program : ProgramHandle) (attachType : AttachType) (cookie : UInt64) :
  IsCheck (tracingDemand program attachType cookie)
  := by
  apply (isCheck_checkType _ _ _ _).bind
  intro _
  apply (isCheck_openProgram _ _).bind
  intro fd
  split
  · exact .ok _
  · exact .ok _

/-- Without a demand a contract is broken. -/
theorem isCheck_demand (program : ProgramHandle) (a : Attachment) :
  IsCheck (a.demand program)
  := by
  cases a with
  | raw => apply isCheck_rawDemand
  | cgroup =>
      apply (isCheck_checkType _ _ _ _).bind
      intro _
      apply isCheck_rawDemand
  | netNs =>
      apply (isCheck_checkType _ _ _ _).bind
      intro _
      apply isCheck_rawDemand
  | xdp =>
      apply (isCheck_checkInterface _ _).bind
      intro _
      apply isCheck_rawDemand
  | tcx =>
      apply (isCheck_checkType _ _ _ _).bind
      intro _
      apply isCheck_chainDemand
  | netkit =>
      apply (isCheck_checkType _ _ _ _).bind
      intro _
      apply isCheck_chainDemand
  | kprobeMulti => apply isCheck_kprobeDemand
  | uprobeMulti => apply isCheck_uprobeDemand
  | netfilter =>
      apply (isCheck_openProgram _ _).bind
      intro fd
      exact .ok _
  | perfEvent =>
      apply (isCheck_openProgram _ _).bind
      intro fd
      exact .ok _
  | rawTracepoint name =>
      rw [demand]
      split
      · exact .broken _ _
      · apply (isCheck_nulFree _ _ _).bind
        intro name
        apply (isCheck_openProgram _ _).bind
        intro fd
        exact .ok _
  | tracing => apply isCheck_tracingDemand

end Attachment

end Bpf
