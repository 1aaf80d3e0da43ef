import Bpf.Proofs.Session

/-!
# What is attached is what is reported

An attachment goes four ways before it is seen again: it is checked, asked for, recorded and reported.
The first half shows that the record of a new link makes known what was given to be attached
(`Attachment.details`), the second that later operations on whatever handles keep it so: of what is
reported, only the program is ever swapped.
-/

namespace Bpf

open Memory

variable {σ η α : Type}

/-! ### Types of links -/

namespace AttachType

/-- The kernel makes no link of a type without a name. -/
theorem linkType_mem_named (t : AttachType) :
  t.linkType ∈ (Code.named : List LinkType)
  := by
  cases t with
  | unknown r => exact List.mem_cons_self
  | _ => decide

end AttachType

/-! ### What is given to be attached -/

namespace Attachment

/-- What a link to a target that is not checked any further makes known. -/
def rawDetails (target : UInt32) (attachType : AttachType) : LinkDetails :=
  match attachType.linkType with
  | .tracing => .tracing (some attachType) none (LinkInfo.nonzero (some target))
  | .cgroup => .cgroup (some target.toUInt64) (some attachType)
  | .netNs => .netNs (some target) (some attachType)
  | .xdp => .xdp (LinkInfo.nonzero (some target))
  | .structOps => .structOps (LinkInfo.nonzero (some target))
  | .netfilter => .netfilter (some 0) (some 0) (some 0) (some 0)
  | .kprobeMulti => .kprobeMulti none none none
  | .uprobeMulti => .uprobeMulti none none (LinkInfo.nonzero (some target))
  | .perfEvent => .perfEvent (some 0)
  | .tcx => .tcx (LinkInfo.nonzero (some target)) (some attachType)
  | .netkit => .netkit (LinkInfo.nonzero (some target)) (some attachType)
  | _ => .other

/-- What a link made by an attachment makes known. -/
def details : Attachment → LinkDetails
  | .raw target attachType targetBtfId _ =>
    rawDetails (if targetBtfId = 0 then target else targetBtfId) attachType
  | .cgroup group attachType => .cgroup (some group.toUInt64) (some attachType)
  | .netNs space attachType => .netNs (some space) (some attachType)
  | .xdp interface _ => .xdp (some interface)
  | .tcx place => .tcx (some place.interface) (some place.attachType)
  | .netkit place => .netkit (some place.interface) (some place.attachType)
  | .kprobeMulti probes =>
    .kprobeMulti (some (UInt32.ofNat (max probes.symbols.length probes.addresses.length)))
      (some (returnFlag probes.onReturn)) (some 0)
  | .uprobeMulti probes =>
    .uprobeMulti (some (UInt32.ofNat probes.offsets.length)) (some (returnFlag probes.onReturn))
      (if probes.pid = 0 then none else some probes.pid)
  | .netfilter family hook priority flags =>
    .netfilter (some family) (some hook) (some priority) (some flags)
  | .perfEvent _ _ => .perfEvent (some 0)
  | .rawTracepoint _ => .other
  | .tracing attachType _ => .tracing (some attachType) none none

/-- The type of the link that an attachment makes. -/
def linkType : Attachment → LinkType
  | .raw _ attachType _ _ => attachType.linkType
  | .cgroup _ _ => .cgroup
  | .netNs _ _ => .netNs
  | .xdp _ _ => .xdp
  | .tcx _ => .tcx
  | .netkit _ => .netkit
  | .kprobeMulti _ => .kprobeMulti
  | .uprobeMulti _ => .uprobeMulti
  | .netfilter _ _ _ _ => .netfilter
  | .perfEvent _ _ => .perfEvent
  | .rawTracepoint _ => .rawTracepoint
  | .tracing _ _ => .tracing

theorem linkType_mem_named (a : Attachment) :
  a.linkType ∈ (Code.named : List LinkType)
  := by
  cases a with
  | raw target attachType targetBtfId flags => apply attachType.linkType_mem_named
  | _ =>
      simp only [linkType]
      decide

/-- The lists have a length that fits in a word, and a program that traces is attached as what it was
loaded for. -/
def Fits (loaded : Option AttachType) : Attachment → Prop
  | .kprobeMulti probes =>
    probes.symbols.length < UInt32.size ∧ probes.addresses.length < UInt32.size
  | .uprobeMulti probes => probes.offsets.length < UInt32.size
  | .tracing attachType _ => loaded = some attachType
  | _ => True

/-! ### Checks that pass -/

theorem eq_some_of_openProgram {what : String} {program : ProgramHandle} {fd : Descriptor}
    (h : openProgram what program = .ok fd) :
  program = some fd
  := by
  cases program with
  | none => cases h
  | some found =>
      cases h
      rfl

theorem of_checkType {what kind : String} {attachType : AttachType} {fits : Bool} {u : Unit}
    (h : checkType what kind attachType fits = .ok u) :
  fits = true
  := by
  cases fits with
  | false => cases h
  | true => rfl

theorem ne_zero_of_checkInterface {what : String} {interface : UInt32} {u : Unit}
    (h : checkInterface what interface = .ok u) :
  interface ≠ 0
  := by
  unfold checkInterface at h
  split at h
  next => cases h
  next hne => exact hne

theorem eq_of_rawDemand {program : ProgramHandle} {target : UInt32} {attachType : AttachType}
    {targetBtfId flags : UInt32} {d : Demand}
    (h : rawDemand program target attachType targetBtfId flags = .ok d) :
  program = some d.program
    ∧ d.order = .link target attachType flags
      (if targetBtfId = 0 then .none else .targetBtfId targetBtfId)
  := by
  obtain ⟨fd, hfd, h⟩ := exists_of_bind_eq_ok h
  cases h
  exact ⟨eq_some_of_openProgram hfd, rfl⟩

theorem eq_of_chainDemand {what : String} {feature : AttachFeature} {program : ProgramHandle}
    {place : ChainPlace} {d : Demand} (h : chainDemand what feature program place = .ok d) :
  program = some d.program ∧ d.order = .chain place ∧ place.interface ≠ 0
  := by
  obtain ⟨u, hinterface, h⟩ := exists_of_bind_eq_ok h
  obtain ⟨fd, hfd, h⟩ := exists_of_bind_eq_ok h
  cases h
  exact ⟨eq_some_of_openProgram hfd, rfl, ne_zero_of_checkInterface hinterface⟩

end Attachment

/-! ### What is asked for, and what is recorded -/

/-- What an order comes to once its anchor has been resolved. -/
def Demand.Becomes (d : Demand) (request : LinkRequest) : Prop :=
  match d.order with
  | .link target attachType flags extra =>
    request = .create ⟨d.program, target, attachType, flags, extra⟩
  | .chain place =>
    ∃ flags relative, request = .create ⟨d.program, place.interface, place.attachType, flags,
      .ordered relative place.expectedRevision⟩
  | .tracepoint name => request = .tracepoint name d.program

namespace Attachment

open LinkInfo (nonzero)

variable {program : ProgramHandle} {loaded : Option AttachType} {programId id : UInt32}
  {record : LinkRecord} {request : LinkRequest} {d : Demand} {a : Attachment}

theorem nonzero_of_ne_zero {w : UInt32} (h : w ≠ 0) :
  nonzero (some w) = some w
  := by
  rw [nonzero, Option.filter_some]
  exact if_pos (decide_eq_true h)

theorem details_raw {target : UInt32} {attachType : AttachType} {record : LinkRecord}
    (htype : record.linkType = attachType.linkType) (hattach : record.attachType = attachType)
    (htarget : record.target = target) (hcount : record.count = 0)
    (hhook : record.netfilter = none) :
  record.details = rawDetails target attachType
  := by
  unfold LinkRecord.details rawDetails
  rw [htype, hattach, htarget, hcount, hhook]
  cases attachType with
  | _ => rfl

theorem of_rawDemand {target : UInt32} {attachType : AttachType} {targetBtfId flags : UInt32}
    (hdemand : rawDemand program target attachType targetBtfId flags = .ok d)
    (hbecomes : d.Becomes request) (hrecords : request.Records loaded programId id record) :
  program = some d.program ∧ record.linkType = attachType.linkType
    ∧ record.details = rawDetails (if targetBtfId = 0 then target else targetBtfId) attachType
  := by
  obtain ⟨hprogram, horder⟩ := eq_of_rawDemand hdemand
  rw [Demand.Becomes, horder] at hbecomes
  cases hbecomes
  cases hrecords
  refine ⟨hprogram, ?_, ?_⟩
  · split
    next => rfl
    next => rfl
  · split
    next => apply details_raw rfl rfl rfl rfl rfl
    next => apply details_raw rfl rfl rfl rfl rfl

theorem of_chainDemand {what : String} {feature : AttachFeature} {place : ChainPlace}
    (hdemand : chainDemand what feature program place = .ok d)
    (hbecomes : d.Becomes request) (hrecords : request.Records loaded programId id record) :
  program = some d.program ∧ record.linkType = place.attachType.linkType
    ∧ record.details = rawDetails place.interface place.attachType ∧ place.interface ≠ 0
  := by
  obtain ⟨hprogram, horder, hinterface⟩ := eq_of_chainDemand hdemand
  rw [Demand.Becomes, horder] at hbecomes
  obtain ⟨flags, relative, rfl⟩ := hbecomes
  cases hrecords
  refine ⟨hprogram, rfl, ?_, hinterface⟩
  apply details_raw rfl rfl rfl rfl rfl

theorem length_of_mapM {ε β γ : Type} {f : β → Except ε γ} {xs : List β} {ys : List γ}
    (h : xs.mapM f = .ok ys) :
  ys.length = xs.length
  := by
  induction xs generalizing ys with
  | nil =>
      cases h
      rfl
  | cons x xs ih =>
      rw [List.mapM_cons] at h
      obtain ⟨y, -, h⟩ := exists_of_bind_eq_ok h
      obtain ⟨rest, hrest, h⟩ := exists_of_bind_eq_ok h
      cases h
      rw [List.length_cons, List.length_cons, ih hrest]

theorem ofNat_ne_zero {n : Nat} (hpos : n ≠ 0) (hsize : n < UInt32.size) :
  UInt32.ofNat n ≠ 0
  := by
  intro hzero
  have htoNat := congrArg UInt32.toNat hzero
  rw [UInt32.toNat_ofNat_of_lt' hsize] at htoNat
  exact hpos htoNat

theorem details_kprobeMulti (htype : record.linkType = .kprobeMulti) (hcount : record.count ≠ 0) :
  record.details = .kprobeMulti (some record.count) (some record.flags) (some record.missed)
  := by
  simp only [LinkRecord.details, htype, nonzero_of_ne_zero hcount, Option.map_some]

theorem details_uprobeMulti (htype : record.linkType = .uprobeMulti) (hcount : record.count ≠ 0) :
  record.details
    = .uprobeMulti (some record.count) (some record.flags) (nonzero (some record.target))
  := by
  simp only [LinkRecord.details, htype, nonzero_of_ne_zero hcount, Option.map_some]

theorem nonzero_eq_ite (w : UInt32) :
  nonzero (some w) = if w = 0 then none else some w
  := by
  split
  next hzero => rw [hzero, LinkRecord.nonzero_zero]
  next hne => apply nonzero_of_ne_zero hne

theorem ne_zero_of_probeCount {what : String} {probes : KprobeMulti} {count : Nat}
    (h : probeCount what probes = .ok count) :
  max probes.symbols.length probes.addresses.length ≠ 0
  := by
  intro hmax
  have hsymbols : probes.symbols.length = 0 := by omega
  have haddresses : probes.addresses.length = 0 := by omega
  rw [probeCount, hsymbols, haddresses] at h
  cases h

theorem of_kprobeDemand {probes : KprobeMulti} (hdemand : kprobeDemand program probes = .ok d)
    (hbecomes : d.Becomes request) (hrecords : request.Records loaded programId id record) :
  program = some d.program
    ∧ ((Attachment.kprobeMulti probes).Fits loaded → record.linkType = .kprobeMulti
      ∧ record.details = (Attachment.kprobeMulti probes).details)
  := by
  obtain ⟨count, hcount, hdemand⟩ := exists_of_bind_eq_ok hdemand
  obtain ⟨u, -, hdemand⟩ := exists_of_bind_eq_ok hdemand
  obtain ⟨symbols, hsymbols, hdemand⟩ := exists_of_bind_eq_ok hdemand
  obtain ⟨fd, hfd, hdemand⟩ := exists_of_bind_eq_ok hdemand
  cases hdemand
  cases hbecomes
  cases hrecords
  refine ⟨eq_some_of_openProgram hfd, fun hfits => ⟨rfl, ?_⟩⟩
  have hlength : symbols.length = probes.symbols.length := length_of_mapM hsymbols
  have hcount : UInt32.ofNat (max symbols.length probes.addresses.length) ≠ 0 := by
    rw [hlength]
    apply ofNat_ne_zero (ne_zero_of_probeCount hcount)
    exact Nat.max_lt.2 hfits
  rw [details, ← hlength]
  apply details_kprobeMulti rfl hcount

theorem of_uprobeDemand {probes : UprobeMulti} (hdemand : uprobeDemand program probes = .ok d)
    (hbecomes : d.Becomes request) (hrecords : request.Records loaded programId id record) :
  program = some d.program
    ∧ ((Attachment.uprobeMulti probes).Fits loaded → record.linkType = .uprobeMulti
      ∧ record.details = (Attachment.uprobeMulti probes).details)
  := by
  unfold uprobeDemand at hdemand
  dsimp only at hdemand
  split at hdemand
  next => cases hdemand
  next hcount =>
    obtain ⟨u, -, hdemand⟩ := exists_of_bind_eq_ok hdemand
    obtain ⟨u, -, hdemand⟩ := exists_of_bind_eq_ok hdemand
    obtain ⟨path, -, hdemand⟩ := exists_of_bind_eq_ok hdemand
    obtain ⟨fd, hfd, hdemand⟩ := exists_of_bind_eq_ok hdemand
    cases hdemand
    cases hbecomes
    cases hrecords
    refine ⟨eq_some_of_openProgram hfd, fun hfits => ⟨rfl, ?_⟩⟩
    rw [details, ← nonzero_eq_ite]
    apply details_uprobeMulti rfl
    apply ofNat_ne_zero hcount hfits

theorem of_tracingDemand {attachType : AttachType} {cookie : UInt64}
    (hdemand : tracingDemand program attachType cookie = .ok d)
    (hbecomes : d.Becomes request) (hrecords : request.Records loaded programId id record) :
  program = some d.program
    ∧ ((Attachment.tracing attachType cookie).Fits loaded → record.linkType = .tracing
      ∧ record.details = .tracing (some attachType) none none)
  := by
  obtain ⟨u, hcheck, hdemand⟩ := exists_of_bind_eq_ok hdemand
  have htype : attachType.linkType = .tracing := of_decide_eq_true (of_checkType hcheck)
  obtain ⟨fd, hfd, hdemand⟩ := exists_of_bind_eq_ok hdemand
  have hdetails : rawDetails 0 attachType = .tracing (some attachType) none none := by
    rw [rawDetails, htype, LinkRecord.nonzero_zero]
  split at hdemand
  next =>
    -- The kernel takes the attach type that the program was loaded for.
    cases hdemand
    cases hbecomes
    obtain ⟨found, hfound, rfl⟩ := hrecords
    refine ⟨eq_some_of_openProgram hfd, ?_⟩
    rintro (rfl : loaded = some attachType)
    cases hfound
    refine ⟨htype, ?_⟩
    rw [← hdetails]
    apply details_raw rfl rfl rfl rfl rfl
  next =>
    cases hdemand
    cases hbecomes
    cases hrecords
    refine ⟨eq_some_of_openProgram hfd, fun _ => ⟨htype, ?_⟩⟩
    rw [← hdetails]
    apply details_raw rfl rfl rfl rfl rfl

/-- The record of a new link makes known what was given to be attached. -/
theorem details_of_demand (hdemand : a.demand program = .ok d)
    (hbecomes : d.Becomes request) (hrecords : request.Records loaded programId id record) :
  program = some d.program
    ∧ (a.Fits loaded → record.linkType = a.linkType ∧ record.details = a.details)
  := by
  cases a with
  | raw target attachType targetBtfId flags =>
      obtain ⟨hprogram, hlink, hdetails⟩ := of_rawDemand hdemand hbecomes hrecords
      exact ⟨hprogram, fun _ => ⟨hlink, hdetails⟩⟩
  | cgroup group attachType =>
      obtain ⟨u, hcheck, hdemand⟩ := exists_of_bind_eq_ok hdemand
      have htype : attachType.linkType = .cgroup := of_decide_eq_true (of_checkType hcheck)
      obtain ⟨hprogram, hlink, hdetails⟩ := of_rawDemand hdemand hbecomes hrecords
      refine ⟨hprogram, fun _ => ⟨hlink.trans htype, ?_⟩⟩
      rw [hdetails, if_pos rfl, rawDetails, htype]
      rfl
  | netNs space attachType =>
      obtain ⟨u, hcheck, hdemand⟩ := exists_of_bind_eq_ok hdemand
      have htype : attachType.linkType = .netNs := of_decide_eq_true (of_checkType hcheck)
      obtain ⟨hprogram, hlink, hdetails⟩ := of_rawDemand hdemand hbecomes hrecords
      refine ⟨hprogram, fun _ => ⟨hlink.trans htype, ?_⟩⟩
      rw [hdetails, if_pos rfl, rawDetails, htype]
      rfl
  | xdp interface flags =>
      obtain ⟨u, hcheck, hdemand⟩ := exists_of_bind_eq_ok hdemand
      obtain ⟨hprogram, hlink, hdetails⟩ := of_rawDemand hdemand hbecomes hrecords
      refine ⟨hprogram, fun _ => ⟨hlink, ?_⟩⟩
      rw [hdetails, if_pos rfl]
      exact congrArg LinkDetails.xdp (nonzero_of_ne_zero (ne_zero_of_checkInterface hcheck))
  | tcx place =>
      obtain ⟨u, hcheck, hdemand⟩ := exists_of_bind_eq_ok hdemand
      have htype : place.attachType.linkType = .tcx := by
        rcases Bool.or_eq_true _ _ ▸ of_checkType hcheck with h | h
        · rw [of_decide_eq_true h]
          rfl
        · rw [of_decide_eq_true h]
          rfl
      obtain ⟨hprogram, hlink, hdetails, hinterface⟩ := of_chainDemand hdemand hbecomes hrecords
      refine ⟨hprogram, fun _ => ⟨hlink.trans htype, ?_⟩⟩
      rw [hdetails, rawDetails, htype, nonzero_of_ne_zero hinterface]
      rfl
  | netkit place =>
      obtain ⟨u, hcheck, hdemand⟩ := exists_of_bind_eq_ok hdemand
      have htype : place.attachType.linkType = .netkit := by
        rcases Bool.or_eq_true _ _ ▸ of_checkType hcheck with h | h
        · rw [of_decide_eq_true h]
          rfl
        · rw [of_decide_eq_true h]
          rfl
      obtain ⟨hprogram, hlink, hdetails, hinterface⟩ := of_chainDemand hdemand hbecomes hrecords
      refine ⟨hprogram, fun _ => ⟨hlink.trans htype, ?_⟩⟩
      rw [hdetails, rawDetails, htype, nonzero_of_ne_zero hinterface]
      rfl
  | kprobeMulti probes => apply of_kprobeDemand hdemand hbecomes hrecords
  | uprobeMulti probes => apply of_uprobeDemand hdemand hbecomes hrecords
  | netfilter family hook priority flags =>
      obtain ⟨fd, hfd, hdemand⟩ := exists_of_bind_eq_ok hdemand
      cases hdemand
      cases hbecomes
      cases hrecords
      exact ⟨eq_some_of_openProgram hfd, fun _ => ⟨rfl, rfl⟩⟩
  | perfEvent event cookie =>
      obtain ⟨fd, hfd, hdemand⟩ := exists_of_bind_eq_ok hdemand
      cases hdemand
      cases hbecomes
      cases hrecords
      exact ⟨eq_some_of_openProgram hfd, fun _ => ⟨rfl, rfl⟩⟩
  | rawTracepoint name =>
      rw [demand] at hdemand
      split at hdemand
      next => cases hdemand
      next =>
        obtain ⟨tracepoint, -, hdemand⟩ := exists_of_bind_eq_ok hdemand
        obtain ⟨fd, hfd, hdemand⟩ := exists_of_bind_eq_ok hdemand
        cases hdemand
        cases hbecomes
        obtain ⟨found, hfound, rfl⟩ := hrecords
        cases hfound
        exact ⟨eq_some_of_openProgram hfd, fun _ => ⟨rfl, rfl⟩⟩
  | tracing attachType cookie => apply of_tracingDemand hdemand hbecomes hrecords

end Attachment

/-! ### Attaching -/

section Asks

variable (K : Kernel σ)

theorem Anchor.asks_relative (anchor : Anchor) :
  (anchor.relative K).Asks K Request.Looks
  := by
  cases anchor with
  | head => apply Action.asks_pure
  | tail => apply Action.asks_pure
  | nextToProgram side program =>
      cases program with
      | id id => apply Action.asks_pure
      | object program =>
          cases program with
          | none => apply Action.asks_throw
          | some fd =>
              apply (Action.asks_request (.programInfo fd) trivial fun _ => rfl).bind
              intro info
              apply Action.asks_pure
  | nextToLink side link =>
      cases link with
      | id id => apply Action.asks_pure
      | object link =>
          apply Action.Asks.bind
          · apply (Action.asks_ofExcept _).bind
            intro fd
            apply Link.asks_queryInfo
          · intro info
            apply Action.asks_pure

theorem Anchor.asks_resolve (anchor : Anchor) :
  (anchor.resolve K).Asks K Request.Looks
  := by
  apply (Anchor.asks_relative K anchor).attempt.bind
  intro answer
  cases answer with
  | ok id => apply Action.asks_pure
  | error e => apply Action.asks_throw

theorem Demand.asks_resolve (d : Demand) :
  (d.resolve K).Asks K Request.Looks
  := by
  unfold Demand.resolve
  split
  next => apply Action.asks_pure
  next place _ =>
    apply (Anchor.asks_resolve K place.anchor).bind
    intro position
    apply Action.asks_pure
  next => apply Action.asks_pure

/-- Resolving an anchor leaves the rest of an order as it is. -/
theorem Demand.becomes_of_resolve {K : Kernel σ} {d : Demand} {request : LinkRequest} {s s' : σ}
    (h : (d.resolve K).run.run s = (.ok request, s')) :
  d.Becomes request
  := by
  obtain ⟨program, order, linkType, feature, missing⟩ := d
  cases order with
  | link target attachType flags extra => exact (Action.run_pure_eq_ok h).1
  | chain place =>
      obtain ⟨position, t, -, h⟩ := Action.exists_of_run_bind_ok h
      exact ⟨position.1, position.2, (Action.run_pure_eq_ok h).1⟩
  | tracepoint name => exact (Action.run_pure_eq_ok h).1

end Asks

theorem Demand.Becomes.program_eq {d : Demand} {request : LinkRequest} (h : d.Becomes request) :
  request.program = d.program
  := by
  unfold Demand.Becomes at h
  split at h
  next =>
    rw [h]
    rfl
  next =>
    obtain ⟨flags, relative, rfl⟩ := h
    rfl
  next =>
    rw [h]
    rfl

theorem Host.run_onKernel_eq_ok {action : Action σ α} {b : α} {host host' : Host σ}
    (h : (Host.onKernel action).run.run host = (.ok b, host')) :
  action.run.run host.kernel = (.ok b, host'.kernel)
  := by
  rw [Host.onKernel, Action.run_onPart] at h
  obtain ⟨hanswer, rfl⟩ := Prod.mk.inj h
  exact Prod.ext hanswer rfl

/-- An attachment that succeeds was checked and resolved, and the handle made for what was asked. -/
theorem attach_eq_ok {K : Kernel σ} {program : ProgramHandle} {a : Attachment} {link : Link}
    {host host' : Host σ} (h : (attach K program a).run.run host = (.ok link, host')) :
  ∃ d request s, a.demand program = .ok d
    ∧ (d.resolve K).run.run host.kernel = (.ok request, s)
    ∧ (Link.ofRequest K request d.linkType).run.run s = (.ok link, host'.kernel)
  := by
  obtain ⟨d, t, hcheck, hrest⟩ := Action.exists_of_run_bind_ok h
  obtain ⟨hdemand, rfl⟩ := Action.run_ofExcept_eq_ok hcheck
  obtain ⟨request, t', hresolve, hlast⟩ := Action.exists_of_run_bind_ok hrest
  have hsend : (Host.onKernel (request.send K)).run.run t'
      = (((request.send K).run.run t'.kernel).1,
          { t' with kernel := ((request.send K).run.run t'.kernel).2 }) := rfl
  rw [Action.run_attempt_bind, hsend] at hlast
  rcases hanswer : (request.send K).run.run t'.kernel with ⟨refusal | fd, s⟩
  · rw [hanswer] at hlast
    obtain ⟨e, u, -, hthrow⟩ := Action.exists_of_run_bind_ok hlast
    cases hthrow
  · rw [hanswer] at hlast
    refine ⟨d, request, t'.kernel, hdemand, Host.run_onKernel_eq_ok hresolve, ?_⟩
    rw [Link.ofRequest, Action.run_bind_of_ok hanswer]
    exact Host.run_onKernel_eq_ok hlast

/-! ### What stays reported -/

/-- What is reported apart from the program. -/
def LinkInfo.apartFromProgram (info : LinkInfo) : LinkInfo := { info with programId := none }

namespace Memory

/-- What a record makes known apart from its program. -/
def LinkRecord.infoApartFromProgram (record : LinkRecord) : LinkInfo :=
  record.info.apartFromProgram

namespace State

variable {s s' : State}

theorem linkAspects_comp {β γ : Type} {f : LinkRecord → β}
    (h : s'.linkAspects f = s.linkAspects f) (g : β → γ) :
  s'.linkAspects (g ∘ f) = s.linkAspects (g ∘ f)
  := by
  funext id
  have hid := congrArg (Option.map g) (congrFun h id)
  rw [linkAspects, linkAspects, Option.map_map, Option.map_map] at hid
  exact hid

theorem linkAspects_of_links {β : Type} (f : LinkRecord → β) (h : s'.links = s.links) :
  s'.linkAspects f = s.linkAspects f
  := by
  funext id
  rw [linkAspects, linkAspects, h]

end State

end Memory

namespace Session

variable {settings : Settings} {s : Session η}

/-- The operation swaps the program of a link. -/
def Operation.Swaps : Operation → Prop
  | .update _ _ => True
  | .replace _ _ _ => True
  | _ => False

section Leads

variable {m m' : Machine η}

theorem info_of_opens (h : (kernel settings {}).Leads Request.Opens m m') :
  m'.state.linkAspects LinkRecord.info = m.state.linkAspects LinkRecord.info
  := by
  apply State.linkAspects_of_links
  exact congrArg Prod.fst (Machine.keeps_of_opens h)

theorem info_of_pins (h : (kernel settings {}).Leads Request.Pins m m') :
  m'.state.linkAspects LinkRecord.info = m.state.linkAspects LinkRecord.info
  := by
  apply State.linkAspects_of_links
  apply Machine.keeps_of_pins h

theorem info_of_detaches (h : (kernel settings {}).Leads Request.Detaches m m') :
  m'.state.linkAspects LinkRecord.info = m.state.linkAspects LinkRecord.info
  := by
  -- A report says nothing about whether a link is detached.
  apply State.linkAspects_comp (congrArg Prod.snd (Machine.keeps_of_detaches h)) LinkRecord.info

theorem infoApartFromProgram_of_swaps (h : (kernel settings {}).Leads Request.Swaps m m') :
  m'.state.linkAspects LinkRecord.infoApartFromProgram
    = m.state.linkAspects LinkRecord.infoApartFromProgram
  := by
  apply State.linkAspects_comp (congrArg Prod.snd (Machine.keeps_of_swaps h))
    LinkRecord.infoApartFromProgram

end Leads

/-- What links make known changes only if a program is swapped. -/
theorem info_perform {op : Operation} (hown : op.Own) (hswaps : ¬ op.Swaps) :
  (s.perform settings op).2.state.linkAspects LinkRecord.info = s.state.linkAspects LinkRecord.info
  := by
  have hleads := leads_perform settings s hown
  cases op with
  | event event => cases hown
  | update i j => exact absurd trivial hswaps
  | replace i j k => exact absurd trivial hswaps
  | detach i => apply info_of_detaches hleads
  | pinProgram i path => apply info_of_pins hleads
  | pinLink i path => apply info_of_pins hleads
  | unpinLink i => apply info_of_pins hleads
  | unpin path => apply info_of_pins hleads
  | _ => apply info_of_opens hleads

/-- Of what links make known, no operation changes more than the program. -/
theorem infoApartFromProgram_perform {op : Operation} (hown : op.Own) :
  (s.perform settings op).2.state.linkAspects LinkRecord.infoApartFromProgram
    = s.state.linkAspects LinkRecord.infoApartFromProgram
  := by
  by_cases hswaps : op.Swaps
  · have hleads := leads_perform settings s hown
    cases op with
    | update i j => apply infoApartFromProgram_of_swaps hleads
    | replace i j k => apply infoApartFromProgram_of_swaps hleads
    | _ => cases hswaps
  · exact State.linkAspects_comp (info_perform hown hswaps) LinkInfo.apartFromProgram

theorem infoApartFromProgram_run {ops : List Operation} (hown : ∀ op ∈ ops, op.Own) :
  (s.run settings ops).state.linkAspects LinkRecord.infoApartFromProgram
    = s.state.linkAspects LinkRecord.infoApartFromProgram
  := by
  induction ops generalizing s with
  | nil => rfl
  | cons op ops ih =>
      have hrest : ∀ other ∈ ops, other.Own := by
        intro other hother
        apply hown other (List.mem_cons_of_mem op hother)
      apply (ih hrest).trans
      apply infoApartFromProgram_perform (hown op List.mem_cons_self)

end Session

/-! ### Attachments and their reports -/

/-- What a kernel in memory answers when a handle asks about its link. -/
def Link.report (settings : Settings) (m : Machine η) (link : Link) : Except Error LinkInfo :=
  ((link.info (kernel settings {})).run.run m).1

theorem Link.report_eq {settings : Settings}
    (hlength : ∀ n, settings.infoLength = some n → LinkInfo.size ≤ n) {m : Machine η} {link : Link}
    {fd : Descriptor} {id : UInt32} {record : LinkRecord} (hopen : link.fd = some fd)
    (hobject : m.state.object? fd = some (.link id))
    (hrecord : m.state.links.get? id = some record)
    (htype : record.linkType ∈ (Code.named : List LinkType)) :
  link.report settings m = .ok record.info
  := by
  have hquery := Machine.run_queryInfo settings hobject hrecord
    (LinkRecord.readInfo_report hlength htype)
  obtain ⟨linkType, handle, pinned⟩ := link
  cases hopen
  exact congrArg Prod.fst hquery

/-- A new link stands for what was attached: under the next id there is a record that makes known what
was given, and the handle is open on it. -/
theorem record_of_attach {settings : Settings} {host host' : Host (Machine η)}
    {program : ProgramHandle} {a : Attachment} {link : Link}
    (h : (attach (kernel settings {}) program a).run.run host = (.ok link, host')) :
  ∃ fd programId programType loaded linkFd record,
    program = some fd
      ∧ host.kernel.state.object? fd = some (.program programId programType loaded)
      ∧ link.fd = some linkFd
      ∧ host'.kernel.state.object? linkFd = some (.link host.kernel.state.nextLinkId)
      ∧ host'.kernel.state.links.get? host.kernel.state.nextLinkId = some record
      ∧ record.id = host.kernel.state.nextLinkId ∧ record.programId = programId
      ∧ (a.Fits loaded → record.linkType = a.linkType ∧ record.details = a.details)
      ∧ State.Steps host.kernel.state host'.kernel.state
  := by
  obtain ⟨d, request, m, hdemand, hresolve, hrequest⟩ := attach_eq_ok h
  have hbecomes : d.Becomes request := Demand.becomes_of_resolve hresolve
  have hbefore := Demand.asks_resolve (kernel settings {}) d host.kernel
  rw [hresolve] at hbefore
  have hafter := Link.asks_ofRequest (kernel settings {}) request d.linkType m
  rw [hrequest] at hafter
  have hsame : m.state.uncounted = host.kernel.state.uncounted := Machine.keeps_of_looks hbefore
  have hnext : m.state.nextLinkId = host.kernel.state.nextLinkId :=
    congrArg (fun s => s.nextLinkId) hsame
  obtain ⟨known, linkFd, programId, programType, loaded, record, rfl, hprogram, hrecords, hlink,
    hrecord⟩ := Machine.run_ofRequest_eq_ok hrequest
  rw [hbecomes.program_eq] at hprogram
  rw [hnext] at hrecords hlink hrecord
  obtain ⟨hopen, hdetails⟩ := Attachment.details_of_demand hdemand hbecomes hrecords
  refine ⟨d.program, programId, programType, loaded, linkFd, record, hopen, ?_, rfl, hlink, hrecord,
    hrecords.ids.1, hrecords.ids.2, hdetails, ?_⟩
  · exact (congrArg (fun s => s.object? d.program) hsame).symm.trans hprogram
  · exact (Machine.steps_of_leads hbefore).trans (Machine.steps_of_leads hafter)

theorem LinkInfo.eq_of_apartFromProgram {info info' : LinkInfo}
    (h : info'.apartFromProgram = info.apartFromProgram) :
  info' = { info with programId := info'.programId }
  := by
  obtain ⟨linkType, id, programId, details⟩ := info
  obtain ⟨linkType', id', programId', details'⟩ := info'
  cases h
  rfl

/-- A link whose record has kept all but its program is reported as it was, but for the program. -/
theorem Link.exists_report {settings : Settings}
    (hlength : ∀ n, settings.infoLength = some n → LinkInfo.size ≤ n) {m : Machine η} {link : Link}
    {fd : Descriptor} {id : UInt32} {record : LinkRecord} (hopen : link.fd = some fd)
    (hobject : m.state.object? fd = some (.link id))
    (hkept : m.state.linkAspects LinkRecord.infoApartFromProgram id
      = some record.infoApartFromProgram)
    (htype : record.linkType ∈ (Code.named : List LinkType)) :
  ∃ attached, m.state.linkAspects LinkRecord.info id
      = some { record.info with programId := attached }
    ∧ link.report settings m = .ok { record.info with programId := attached }
  := by
  obtain ⟨found, hfound, hsame⟩ := Option.map_eq_some_iff.1 hkept
  have hinfo : found.info = { record.info with programId := found.info.programId } :=
    LinkInfo.eq_of_apartFromProgram hsame
  have hfoundType : found.linkType = record.linkType := congrArg LinkInfo.linkType hsame
  refine ⟨found.info.programId, ?_, ?_⟩
  · rw [State.linkAspects, hfound, Option.map_some, ← hinfo]
  · rw [← hinfo]
    apply Link.report_eq hlength hopen hobject hfound
    rw [hfoundType]
    exact htype

/-- What a program has been attached with is what its link reports, whatever is done with links
afterwards; only to swap programs changes the report, and of it nothing but the program. -/
theorem attach_reported {settings : Settings}
    (hlength : ∀ n, settings.infoLength = some n → LinkInfo.size ≤ n) {host host' : Host (Machine η)}
    (hhost : host.kernel.Reachable settings) {program : ProgramHandle} {a : Attachment} {link : Link}
    (h : (attach (kernel settings {}) program a).run.run host = (.ok link, host')) :
  ∃ fd programId programType loaded,
    program = some fd
      ∧ host.kernel.state.object? fd = some (.program programId programType loaded)
      ∧ (a.Fits loaded →
        let info : LinkInfo :=
          ⟨a.linkType, host.kernel.state.nextLinkId, some programId, a.details⟩
        link.report settings host'.kernel = .ok info
          ∧ ∀ (s : Session η) (ops : List Session.Operation),
            s.machine = host'.kernel → (∀ op ∈ ops, op.Own) →
              (∃ attached,
                link.report settings (s.run settings ops).machine
                  = .ok { info with programId := attached })
              ∧ ∀ op : Session.Operation, op.Own → ¬ op.Swaps →
                link.report settings (s.run settings (ops ++ [op])).machine
                  = link.report settings (s.run settings ops).machine)
  := by
  obtain ⟨fd, programId, programType, loaded, linkFd, record, hprogram, hobject, hopen, hlink,
    hrecord, hid, hattached, hdetails, hsteps⟩ := record_of_attach h
  refine ⟨fd, programId, programType, loaded, hprogram, hobject, ?_⟩
  intro hfits info
  obtain ⟨htype, hdetails⟩ := hdetails hfits
  have hvalid : host.kernel.state.Valid := hhost.valid
  have hprogramId : programId ≠ 0 :=
    hvalid.named programId programType loaded (State.knows_of_object? hobject)
  have hinfo : record.info = info := by
    rw [LinkRecord.info, htype, hid, hattached, hdetails,
      Attachment.nonzero_of_ne_zero hprogramId]
  have hnamed : record.linkType ∈ (Code.named : List LinkType) := by
    rw [htype]
    apply a.linkType_mem_named
  have hfirst : link.report settings host'.kernel = .ok info := by
    rw [← hinfo]
    apply Link.report_eq hlength hopen hlink hrecord hnamed
  refine ⟨hfirst, ?_⟩
  intro s ops hmachine hown
  have hstart : s.state = host'.kernel.state := congrArg Machine.state hmachine
  have hstartValid : s.state.Valid := by
    rw [hstart]
    apply hvalid.steps hsteps
  -- The descriptor stays on the link, and the record keeps all but its program.
  have hreport (ops : List Session.Operation) (hown : ∀ op ∈ ops, op.Own) :
      ∃ attached, (s.run settings ops).state.linkAspects LinkRecord.info
          host.kernel.state.nextLinkId = some { info with programId := attached }
        ∧ link.report settings (s.run settings ops).machine
          = .ok { info with programId := attached } := by
    rw [← hinfo]
    apply Link.exists_report hlength hopen _ _ hnamed
    · apply Session.extends_run hstartValid ops
      rw [hstart]
      exact hlink
    · show (s.run settings ops).state.linkAspects LinkRecord.infoApartFromProgram _ = _
      rw [Session.infoApartFromProgram_run hown, hstart, State.linkAspects, hrecord,
        Option.map_some]
  obtain ⟨attached, haspect, hops⟩ := hreport ops hown
  refine ⟨⟨attached, hops⟩, ?_⟩
  intro op hop hswaps
  have hall : ∀ other ∈ ops ++ [op], other.Own := by
    intro other hother
    rcases List.mem_append.1 hother with hold | hnew
    · apply hown other hold
    · rw [List.mem_singleton.1 hnew]
      exact hop
  obtain ⟨attached', haspect', hops'⟩ := hreport (ops ++ [op]) hall
  rw [Session.run_concat, Session.info_perform hop hswaps, haspect] at haspect'
  rw [hops, hops', Option.some.inj haspect']

/-- A machine on which two programs have been loaded. -/
def filterMachine : Machine Unit :=
  let load : ProgramLoad := ⟨.netfilter, none, none, [.exit], ⟨"MIT", nul_not_mem_mit⟩, "", 0, 0, 0⟩
  (Machine.fresh ()).afterEvents {} [.request (.loadProgram load), .request (.loadProgram load)]

/-- What is done after a filter has been attached. -/
def filterOperations : List Session.Operation :=
  [.openLink (nthDescriptor 2), .openProgram (nthDescriptor 1), .pinLink 0 ⟨"/sys/fs/bpf/a"⟩,
    .update 0 0, .detach 0]

/-- A filter keeps its negative priority while its program is swapped and it is detached. -/
theorem attach_reported_filter :
  let details : LinkDetails := .netfilter (some 2) (some 0) (some (-128)) (some 0)
  ∃ link host attached,
    (attach (kernel {} {}) (some (nthDescriptor 0)) (.netfilter 2 0 (-128) 0)).run.run (.new filterMachine)
        = (.ok link, host)
      ∧ link.report {} host.kernel = .ok ⟨.netfilter, 1, some 1, details⟩
      ∧ link.report {} ((Session.start host.kernel).run {} filterOperations).machine
        = .ok ⟨.netfilter, 1, attached, details⟩
  := by
  intro details
  have hattach : (attach (kernel {} {}) (some (nthDescriptor 0)) (.netfilter 2 0 (-128) 0)).run.run
        (.new filterMachine)
      = (.ok ⟨.netfilter, some (nthDescriptor 2), none⟩,
          ((attach (kernel {} {}) (some (nthDescriptor 0)) (.netfilter 2 0 (-128) 0)).run.run
            (.new filterMachine)).2) := by
    apply Prod.ext
    · cbv
    · rfl
  obtain ⟨fd, programId, programType, loaded, hopen, hobject, hreport⟩ :=
    attach_reported (by simp) ⟨(), _, rfl⟩ hattach
  cases hopen
  have hfound : (Host.new filterMachine).kernel.state.object? (nthDescriptor 0)
      = some (.program 1 .netfilter none) := by cbv
  rw [hfound] at hobject
  cases hobject
  obtain ⟨hfirst, hlater⟩ := hreport trivial
  have hown : ∀ op ∈ filterOperations, op.Own := by simp [filterOperations, Session.Operation.Own]
  obtain ⟨⟨attached, hops⟩, -⟩ := hlater (Session.start _) filterOperations rfl hown
  exact ⟨_, _, attached, hattach, hfirst, hops⟩

end Bpf
