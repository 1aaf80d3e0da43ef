import Bpf.Proofs.Attached
import Bpf.Proofs.Pins
import Bpf.Proofs.WalkEnds

/-!
# Types and ids of links

A handle takes the type of its link from what was attached, or asks the kernel for it.  Both ways lead
to the type under which the kernel reports the link (`Link.Obtained.typed`), also where that type has
no name.  Nothing but the removal of a link, or another link in its place, changes the id and the type
of a record, so a handle goes on to tell what every open handle on the link reports.
-/

namespace Bpf

open Memory

variable {σ η α : Type}

/-! ### The type that is recorded -/

namespace Memory

theorem State.linkType_requested (request : LinkCreate) (programId id : UInt32) :
  (State.requested request programId id).linkType = request.attachType.linkType
  := by
  unfold State.requested
  cases request.extra with
  | _ => rfl

end Memory

/-- The record of a new link has a type with a name. -/
theorem LinkRequest.Records.linkType_mem_named {request : LinkRequest} {loaded : Option AttachType}
    {programId id : UInt32} {record : LinkRecord} (h : request.Records loaded programId id record) :
  record.linkType ∈ (Code.named : List LinkType)
  := by
  cases request with
  | create c =>
      rw [h, State.linkType_requested]
      apply AttachType.linkType_mem_named
  | tracepoint name fd =>
      obtain ⟨attachType, -, rfl⟩ := h
      apply AttachType.linkType_mem_named

namespace Attachment

variable {program : ProgramHandle} {loaded : Option AttachType} {programId id : UInt32}
  {record : LinkRecord} {request : LinkRequest} {d : Demand} {a : Attachment}

/-- A program that traces is attached as what it was loaded for. -/
def AsLoaded (loaded : Option AttachType) : Attachment → Prop
  | .tracing attachType _ => loaded = some attachType
  | _ => True

theorem linkType_of_rawDemand {target : UInt32} {attachType : AttachType} {targetBtfId flags : UInt32}
    (hdemand : rawDemand program target attachType targetBtfId flags = .ok d)
    (hbecomes : d.Becomes request) (hrecords : request.Records loaded programId id record) :
  record.linkType = d.linkType
  := by
  obtain ⟨fd, -, hdemand⟩ := exists_of_bind_eq_ok hdemand
  cases hdemand
  cases hbecomes
  rw [hrecords, State.linkType_requested]

theorem linkType_of_chainDemand {what : String} {feature : AttachFeature} {place : ChainPlace}
    (hdemand : chainDemand what feature program place = .ok d)
    (hbecomes : d.Becomes request) (hrecords : request.Records loaded programId id record) :
  record.linkType = d.linkType
  := by
  obtain ⟨u, -, hdemand⟩ := exists_of_bind_eq_ok hdemand
  obtain ⟨fd, -, hdemand⟩ := exists_of_bind_eq_ok hdemand
  cases hdemand
  obtain ⟨flags, relative, rfl⟩ := hbecomes
  rw [hrecords, State.linkType_requested]

/-- The type that a demand decides on is the one that is recorded. -/
theorem linkType_of_demand (hdemand : a.demand program = .ok d) (hbecomes : d.Becomes request)
    (hrecords : request.Records loaded programId id record) (hloaded : a.AsLoaded loaded) :
  record.linkType = d.linkType
  := by
  cases a with
  | raw target attachType targetBtfId flags => apply linkType_of_rawDemand hdemand hbecomes hrecords
  | cgroup group attachType =>
      obtain ⟨u, -, hdemand⟩ := exists_of_bind_eq_ok hdemand
      apply linkType_of_rawDemand hdemand hbecomes hrecords
  | netNs space attachType =>
      obtain ⟨u, -, hdemand⟩ := exists_of_bind_eq_ok hdemand
      apply linkType_of_rawDemand hdemand hbecomes hrecords
  | xdp interface flags =>
      obtain ⟨u, -, hdemand⟩ := exists_of_bind_eq_ok hdemand
      apply linkType_of_rawDemand hdemand hbecomes hrecords
  | tcx place =>
      obtain ⟨u, -, hdemand⟩ := exists_of_bind_eq_ok hdemand
      apply linkType_of_chainDemand hdemand hbecomes hrecords
  | netkit place =>
      obtain ⟨u, -, hdemand⟩ := exists_of_bind_eq_ok hdemand
      apply linkType_of_chainDemand hdemand hbecomes hrecords
  | kprobeMulti probes =>
      obtain ⟨count, -, hdemand⟩ := exists_of_bind_eq_ok hdemand
      obtain ⟨u, -, hdemand⟩ := exists_of_bind_eq_ok hdemand
      obtain ⟨symbols, -, hdemand⟩ := exists_of_bind_eq_ok hdemand
      obtain ⟨fd, -, hdemand⟩ := exists_of_bind_eq_ok hdemand
      cases hdemand
      cases hbecomes
      rw [hrecords, State.linkType_requested]
      rfl
  | uprobeMulti probes =>
      rw [demand, uprobeDemand] at hdemand
      split at hdemand
      next => cases hdemand
      next =>
        obtain ⟨u, -, hdemand⟩ := exists_of_bind_eq_ok hdemand
        obtain ⟨u, -, hdemand⟩ := exists_of_bind_eq_ok hdemand
        obtain ⟨path, -, hdemand⟩ := exists_of_bind_eq_ok hdemand
        obtain ⟨fd, -, hdemand⟩ := exists_of_bind_eq_ok hdemand
        cases hdemand
        cases hbecomes
        rw [hrecords, State.linkType_requested]
        rfl
  | netfilter family hook priority flags =>
      obtain ⟨fd, -, hdemand⟩ := exists_of_bind_eq_ok hdemand
      cases hdemand
      cases hbecomes
      rw [hrecords, State.linkType_requested]
      rfl
  | perfEvent event cookie =>
      obtain ⟨fd, -, hdemand⟩ := exists_of_bind_eq_ok hdemand
      cases hdemand
      cases hbecomes
      rw [hrecords, State.linkType_requested]
      rfl
  | rawTracepoint name =>
      rw [demand] at hdemand
      split at hdemand
      next => cases hdemand
      next =>
        obtain ⟨tracepoint, -, hdemand⟩ := exists_of_bind_eq_ok hdemand
        obtain ⟨fd, -, hdemand⟩ := exists_of_bind_eq_ok hdemand
        cases hdemand
        cases hbecomes
        obtain ⟨found, hfound, rfl⟩ := hrecords
        cases hfound
        rfl
  | tracing attachType cookie =>
      obtain ⟨u, hcheck, hdemand⟩ := exists_of_bind_eq_ok hdemand
      have htype : attachType.linkType = .tracing := of_decide_eq_true (of_checkType hcheck)
      obtain ⟨fd, -, hdemand⟩ := exists_of_bind_eq_ok hdemand
      split at hdemand
      next =>
        cases hdemand
        cases hbecomes
        obtain ⟨found, hfound, rfl⟩ := hrecords
        cases hloaded
        cases hfound
        exact htype
      next =>
        cases hdemand
        cases hbecomes
        rw [hrecords, State.linkType_requested]
        exact htype

end Attachment

/-! ### Handles that tell the type -/

/-- The handle is open on the link with an id, and has the type under which the link is reported. -/
def Link.Typed (link : Link) (id : UInt32) (s : State) : Prop :=
  ∃ fd record, link.fd = some fd ∧ s.object? fd = some (.link id)
    ∧ s.links.get? id = some record ∧ link.linkType = Code.ofRaw (Code.raw record.linkType)

namespace Memory.Machine

variable {settings : Settings} {m m' : Machine η} {fd : Descriptor} {link : Link}

theorem record_of_run_linkInfo {raw : RawLinkInfo}
    (h : ((kernel settings {}).linkInfo fd).run.run m = (.ok raw, m')) :
  ∃ id record, m.state.object? fd = some (.link id) ∧ m.state.links.get? id = some record
  := by
  have hrun : ((m.counted Command.infoByFd).state.linkInfo settings.infoLength fd,
      m.counted Command.infoByFd) = (.ok raw, m') := h
  obtain ⟨hinfo, -⟩ := Prod.mk.inj hrun
  obtain ⟨id, hid, hinfo⟩ := exists_of_bind_eq_ok hinfo
  obtain ⟨record, hrecord, -⟩ := exists_of_bind_eq_ok hinfo
  exact ⟨id, record, State.linkId_eq_ok hid, State.record_eq_ok hrecord⟩

section Typed

variable (hlength : ∀ n, settings.infoLength = some n → 8 ≤ n)

include hlength

/-- A handle that has been made for a descriptor has asked the kernel for the type. -/
theorem typed_ofDescriptor {pinned : Option Path}
    (h : (Link.ofDescriptor (kernel settings {}) fd pinned).run.run m = (.ok link, m')) :
  ∃ id, link.Typed id m'.state
  := by
  obtain ⟨info, t, hquery, -⟩ := Action.exists_of_run_bind_ok h
  obtain ⟨raw, u, hraw, -⟩ := Action.exists_of_run_bind_ok hquery
  obtain ⟨id, record, hobject, hrecord⟩ := record_of_run_linkInfo hraw
  rw [run_ofDescriptor_of_le settings hlength hobject hrecord] at h
  cases h
  exact ⟨id, fd, record, rfl, hobject, hrecord, rfl⟩

theorem typed_loadPinned {path : Path} {flags : UInt32}
    (h : (Link.loadPinned (kernel settings {}) path flags).run.run m = (.ok link, m')) :
  ∃ id, link.Typed id m'.state
  := by
  obtain ⟨u, t, -, hrest⟩ := Action.exists_of_run_bind_ok h
  obtain ⟨fd, t, -, hlast⟩ := Action.exists_of_run_bind_ok hrest
  apply typed_ofDescriptor hlength hlast

theorem typed_load {path : Path}
    (h : (Pinned.load (kernel settings {}) path).run.run m = (.ok (.link link), m')) :
  ∃ id, link.Typed id m'.state
  := by
  obtain ⟨u, t, -, hrest⟩ := Action.exists_of_run_bind_ok h
  obtain ⟨fd, t, -, hrest⟩ := Action.exists_of_run_bind_ok hrest
  obtain ⟨objectType, t, -, hlast⟩ := Action.exists_of_run_bind_ok hrest
  cases objectType with
  | map => cases hlast
  | program =>
      obtain ⟨program, t', -, hpure⟩ := Action.exists_of_run_bind_ok hlast
      cases hpure
  | link =>
      obtain ⟨found, t', hfound, hpure⟩ := Action.exists_of_run_bind_ok hlast
      obtain ⟨heq, rfl⟩ := Action.run_pure_eq_ok hpure
      cases heq
      apply typed_ofDescriptor hlength hfound

/-- What an attachment does not ask the kernel for it knows. -/
theorem typed_attach {host host' : Host (Machine η)} {program : ProgramHandle} {a : Attachment}
    (h : (attach (kernel settings {}) program a).run.run host = (.ok link, host'))
    (hloaded : ∀ fd id programType loaded, program = some fd →
      host.kernel.state.object? fd = some (.program id programType loaded) →
      a.AsLoaded loaded) :
  ∃ id, link.Typed id host'.kernel.state
  := by
  obtain ⟨d, request, m, hdemand, hresolve, hrequest⟩ := attach_eq_ok h
  have hbecomes : d.Becomes request := Demand.becomes_of_resolve hresolve
  have hleads := Demand.asks_resolve (kernel settings {}) d host.kernel
  rw [hresolve] at hleads
  have hsame : m.state.uncounted = host.kernel.state.uncounted := keeps_of_looks hleads
  obtain ⟨fd, t, hsend, hnew⟩ := Action.exists_of_run_bind_ok hrequest
  obtain ⟨programId, programType, loaded, record, hprogram, hrecords, hobject, hrecord⟩ :=
    run_send_eq_ok hsend
  rw [hbecomes.program_eq] at hprogram
  have hprogram : host.kernel.state.object? d.program
      = some (.program programId programType loaded) :=
    (congrArg (fun s => s.object? d.program) hsame).symm.trans hprogram
  have hopen : program = some d.program :=
    (Attachment.details_of_demand hdemand hbecomes hrecords).1
  have htype : record.linkType = d.linkType :=
    Attachment.linkType_of_demand hdemand hbecomes hrecords (hloaded _ _ _ _ hopen hprogram)
  unfold Link.ofNew at hnew
  split at hnew
  next => apply typed_ofDescriptor hlength hnew
  next =>
    obtain ⟨rfl, heq⟩ := Action.run_pure_eq_ok hnew
    rw [heq]
    refine ⟨m.state.nextLinkId, fd, record, rfl, hobject, hrecord, ?_⟩
    rw [Code.ofRaw_raw hrecords.linkType_mem_named, htype]

end Typed

end Memory.Machine

/-! ### Links of a walk -/

namespace LinkIterator

variable {K : Kernel σ} {s s' : σ} {link : Link}

/-- A walk opens its links by their ids. -/
theorem nextLink_eq_ok {cursor : UInt32} {next : Above cursor}
    (h : (nextLink K cursor).run.run s = (.ok (some (next, link)), s')) :
  ∃ fd t, K.Leads (fun _ => True) s t ∧ (Link.ofDescriptor K fd none).run.run t = (.ok link, s')
  := by
  induction cursor using nextLink.induct generalizing s with
  | case1 cursor ih =>
      have hnext : K.Leads (fun _ => True) s ((K.nextLinkId cursor).run.run s).2 :=
        Relation.ReflTransGen.single ⟨.nextLinkId cursor, trivial, rfl⟩
      rw [run_nextLink_round] at h
      rcases hid : (K.nextLinkId cursor).run.run s with ⟨e | _ | id, t⟩
      · rw [hid] at h
        cases h
      · rw [hid] at h
        cases h
      · rw [hid] at h hnext
        dsimp only at h
        split at h
        next habove =>
          have hopen : K.Leads (fun _ => True) s ((K.openLink id).run.run t).2 :=
            hnext.tail ⟨.openLink id, trivial, rfl⟩
          rcases hfd : (K.openLink id).run.run t with ⟨e | fd, t'⟩
          · rw [hfd] at h hopen
            dsimp only at h
            split at h
            next =>
              rcases hrest : (nextLink K id).run.run t' with ⟨e | _ | ⟨above, found⟩, t''⟩
              · rw [hrest] at h
                cases h
              · rw [hrest] at h
                cases h
              · rw [hrest] at h
                cases h
                obtain ⟨fd, u, hleads, hlink⟩ := ih id habove hrest
                exact ⟨fd, u, hopen.trans hleads, hlink⟩
            next => cases h
          · rw [hfd] at h hopen
            dsimp only at h
            rcases hlink : (Link.ofDescriptor K fd none).run.run t' with ⟨e | found, t''⟩
            · rw [hlink] at h
              cases h
            · rw [hlink] at h
              cases h
              exact ⟨fd, t', hopen, hlink⟩
        next => cases h

theorem advance_eq_true {it it' : LinkIterator} (h : (advance K).run (it, s) = (true, (it', s'))) :
  ∃ fd t link, it'.link = some link ∧ K.Leads (fun _ => True) s t
    ∧ (Link.ofDescriptor K fd none).run.run t = (.ok link, s')
  := by
  cases hdone : it.done with
  | true =>
      rw [run_advance_of_done K hdone] at h
      cases h
  | false =>
      rw [run_advance K hdone] at h
      rcases hnext : (nextLink K it.id).run.run s with ⟨e | _ | ⟨next, link⟩, t⟩
      · rw [hnext] at h
        cases h
      · rw [hnext] at h
        cases h
      · rw [hnext] at h
        cases h
        obtain ⟨fd, u, hleads, hlink⟩ := nextLink_eq_ok hnext
        exact ⟨fd, u, link, rfl, hleads, hlink⟩

theorem next_eq_some_ok {it it' : LinkIterator}
    (h : (next K).run (it, s) = (some (.ok link), (it', s'))) :
  ∃ fd t, K.Leads (fun _ => True) s t ∧ (Link.ofDescriptor K fd none).run.run t = (.ok link, s')
  := by
  rw [run_next] at h
  rcases hmove : (advance K).run (it, s) with ⟨_ | _, moved, t⟩
  · rw [hmove] at h
    have hanswer : moved.error.map Except.error = some (Except.ok link) := congrArg Prod.fst h
    obtain ⟨e, -, heq⟩ := Option.map_eq_some_iff.1 hanswer
    cases heq
  · rw [hmove] at h
    obtain ⟨fd, u, found, hfound, hleads, hlink⟩ := advance_eq_true hmove
    simp only [hfound, Option.map_some] at h
    cases h
    exact ⟨fd, u, hleads, hlink⟩

end LinkIterator

/-! ### Handles by how they are obtained -/

/-- The ways to a handle on a link of a kernel in memory without a script, from the kernel before to
the kernel after: a program is attached, one that traces as what it was loaded for; a pin is opened;
the handle is made for a descriptor, such as one that another handle has given up; or the link is
found by a walk. -/
inductive Link.Obtained (settings : Settings) : Machine η → Link → Machine η → Prop
  | attach {host host' : Host (Machine η)} {program : ProgramHandle} {a : Attachment} {link : Link}
      (hrun : (attach (kernel settings {}) program a).run.run host = (.ok link, host'))
      (hloaded : ∀ fd id programType loaded, program = some fd →
        host.kernel.state.object? fd = some (.program id programType loaded) →
        a.AsLoaded loaded) :
    Obtained settings host.kernel link host'.kernel
  | loadPinned {m m' : Machine η} {path : Path} {flags : UInt32} {link : Link}
      (hrun : (Link.loadPinned (kernel settings {}) path flags).run.run m = (.ok link, m')) :
    Obtained settings m link m'
  | load {m m' : Machine η} {path : Path} {link : Link}
      (hrun : (Pinned.load (kernel settings {}) path).run.run m = (.ok (.link link), m')) :
    Obtained settings m link m'
  | ofDescriptor {m m' : Machine η} {fd : Descriptor} {link : Link}
      (hrun : (Link.ofDescriptor (kernel settings {}) fd none).run.run m = (.ok link, m')) :
    Obtained settings m link m'
  | advance {m m' : Machine η} {it it' : LinkIterator} {link : Link}
      (hrun : (LinkIterator.advance (kernel settings {})).run (it, m) = (true, (it', m')))
      (hlink : it'.link = some link) :
    Obtained settings m link m'
  | next {m m' : Machine η} {it it' : LinkIterator} {link : Link}
      (hrun : (LinkIterator.next (kernel settings {})).run (it, m) = (some (.ok link), (it', m'))) :
    Obtained settings m link m'

namespace Link.Obtained

variable {settings : Settings} {m m' : Machine η} {link : Link}

/-- However a handle is obtained, it tells the type under which its link is reported. -/
theorem typed (hlength : ∀ n, settings.infoLength = some n → 8 ≤ n)
    (h : link.Obtained settings m m') :
  ∃ id, link.Typed id m'.state
  := by
  cases h with
  | attach hrun hloaded => apply Machine.typed_attach hlength hrun hloaded
  | loadPinned hrun => apply Machine.typed_loadPinned hlength hrun
  | load hrun => apply Machine.typed_load hlength hrun
  | ofDescriptor hrun => apply Machine.typed_ofDescriptor hlength hrun
  | advance hrun hlink =>
      obtain ⟨fd, t, found, hfound, -, hopen⟩ := LinkIterator.advance_eq_true hrun
      rw [hlink] at hfound
      cases hfound
      apply Machine.typed_ofDescriptor hlength hopen
  | next hrun =>
      obtain ⟨fd, t, -, hopen⟩ := LinkIterator.next_eq_some_ok hrun
      apply Machine.typed_ofDescriptor hlength hopen

/-- To obtain a handle the kernel takes steps. -/
theorem steps (h : link.Obtained settings m m') :
  State.Steps m.state m'.state
  := by
  have hsteps {α : Type} {kind : Request → Prop} {action : Action (Machine η) α}
      (hasks : action.Asks (kernel settings {}) kind) {answer : Except Error α} {t t' : Machine η}
      (hrun : action.run.run t = (answer, t')) : State.Steps t.state t'.state := by
    have hleads := hasks t
    rw [hrun] at hleads
    apply Machine.steps_of_leads hleads
  cases h with
  | attach hrun hloaded =>
      obtain ⟨-, -, -, -, -, -, -, -, -, -, -, -, -, -, hattach⟩ := record_of_attach hrun
      exact hattach
  | loadPinned hrun => apply hsteps (Link.asks_loadPinned _ _ _) hrun
  | load hrun => apply hsteps (Pinned.asks_load _ _) hrun
  | ofDescriptor hrun => apply hsteps (Link.asks_ofDescriptor _ _ _) hrun
  | advance hrun hlink =>
      obtain ⟨fd, t, found, -, hleads, hopen⟩ := LinkIterator.advance_eq_true hrun
      apply (Machine.steps_of_leads hleads).trans
      apply hsteps (Link.asks_ofDescriptor _ _ _) hopen
  | next hrun =>
      obtain ⟨fd, t, hleads, hopen⟩ := LinkIterator.next_eq_some_ok hrun
      apply (Machine.steps_of_leads hleads).trans
      apply hsteps (Link.asks_ofDescriptor _ _ _) hopen

end Link.Obtained

/-! ### What leaves a link in its place -/

namespace Memory

/-- What a record says about which link it is, and of which type. -/
def LinkRecord.typed (record : LinkRecord) : UInt32 × LinkType := (record.id, record.linkType)

namespace State

variable {s : State} {id : UInt32}

/-- A new link leaves the links in other places as they are. -/
theorem get?_links_addLink (link : UInt32 → LinkRecord) (hid : id ≠ s.nextLinkId) :
  ((addLink link).run.run s).2.links.get? id = s.links.get? id
  := by
  have hinsert (record : LinkRecord) :
      (s.links.insert s.nextLinkId record).get? id = s.links.get? id := by
    rw [Table.get?_insert, if_neg hid]
  obtain heq | ⟨-, heq | ⟨-, heq⟩⟩ := snd_addLink link s
  · rw [heq]
    rfl
  · rw [heq]
    apply hinsert
  · rw [heq]
    apply hinsert

theorem get?_links_createLink (request : LinkCreate) (hid : id ≠ s.nextLinkId) :
  ((createLink request).run.run s).2.links.get? id = s.links.get? id
  := by
  obtain ⟨e, hrun⟩ | ⟨programId, programType, loaded, -, -, -, hrun⟩ := createLink_cases request s
  · rw [hrun]
  · rw [hrun, get?_links_addLink _ hid]

theorem get?_links_openRawTracepoint (name : Option NulFree) (program : Descriptor)
    (hid : id ≠ s.nextLinkId) :
  ((openRawTracepoint name program).run.run s).2.links.get? id = s.links.get? id
  := by
  obtain ⟨e, hrun⟩ | ⟨programId, programType, loaded, attachType, -, -, hrun⟩ :=
    openRawTracepoint_cases name program s
  · rw [hrun]
  · rw [hrun, get?_links_addLink _ hid]

end State

/-- A request says nothing about which link a record is, unless it puts a new link in the place. -/
theorem Machine.typed_after (settings : Settings) (m : Machine η) (request : Request) {id : UInt32}
    (h : ¬ (request.AddsLink ∧ m.state.nextLinkId = id)) :
  ((kernel settings {}).after m request).state.linkAspects LinkRecord.typed id
    = m.state.linkAspects LinkRecord.typed id
  := by
  have hleads (kind : Request → Prop) (hkind : kind request) :
      (kernel settings {}).Leads kind m ((kernel settings {}).after m request) :=
    Relation.ReflTransGen.single ⟨request, hkind, rfl⟩
  have hlinks {s : State} (hsame : s.links = m.state.links) :
      s.linkAspects LinkRecord.typed id = m.state.linkAspects LinkRecord.typed id :=
    congrFun (State.linkAspects_of_links LinkRecord.typed hsame) id
  have hfound {s : State} (hsame : s.links.get? id = m.state.links.get? id) :
      s.linkAspects LinkRecord.typed id = m.state.linkAspects LinkRecord.typed id :=
    congrArg (Option.map LinkRecord.typed) hsame
  have hne (hadds : request.AddsLink) : id ≠ m.state.nextLinkId := fun heq => h ⟨hadds, heq.symm⟩
  cases request with
  | loadProgram load =>
      apply hlinks (State.kept_loadProgram load (m.state.counted Command.progLoad)).1
  | createLink create =>
      apply hfound
      exact State.get?_links_createLink (s := m.state.counted Command.linkCreate) create (hne trivial)
  | openRawTracepoint name program =>
      apply hfound
      exact State.get?_links_openRawTracepoint (s := m.state.counted Command.rawTracepointOpen) name
        program (hne trivial)
  | updateLink link program old =>
      have hkept := (Prod.mk.inj (keeps_of_swaps (hleads Request.Swaps trivial))).2
      exact congrFun (State.linkAspects_comp hkept LinkRecord.typed) id
  | detachLink link =>
      have hkept := (Prod.mk.inj (keeps_of_detaches (hleads Request.Detaches trivial))).2
      exact congrFun (State.linkAspects_comp hkept LinkRecord.typed) id
  | openLink key =>
      apply keeps_request (fun s => s.linkAspects LinkRecord.typed id) m (State.refuses_openLink key)
        fun s => rfl
      intro s fd s' hopen
      obtain ⟨-, -, -, rfl⟩ := State.openLink_eq_ok hopen
      rfl
  | pin fd path => apply hlinks (keeps_of_pins (hleads Request.Pins trivial))
  | removePin path => apply hlinks (keeps_of_pins (hleads Request.Pins trivial))
  | openPin path flags =>
      have hkept := keeps_of_opens (hleads Request.Opens (.inr ⟨path, flags, rfl⟩))
      apply hlinks (Prod.mk.inj hkept).1
  | programInfo fd => apply hlinks rfl
  | attachProgram attach => apply hlinks rfl
  | queryPrograms target attachType => apply hlinks rfl
  | linkInfo link => apply hlinks rfl
  | nextLinkId start => apply hlinks rfl
  | objectType fd => apply hlinks rfl
  | btfId name => apply hlinks rfl

/-- What is asked for a new link says nothing about links in other places. -/
theorem Machine.typed_ofRequest (settings : Settings) (m : Machine η) (request : LinkRequest)
    (linkType : LinkType) {id : UInt32} (h : m.state.nextLinkId ≠ id) :
  ((Link.ofRequest (kernel settings {}) request linkType).run.run m).2.state.linkAspects
      LinkRecord.typed id
    = m.state.linkAspects LinkRecord.typed id
  := by
  have hsend : ((request.send (kernel settings {})).run.run m).2.state.linkAspects
      LinkRecord.typed id = m.state.linkAspects LinkRecord.typed id := by
    cases request with
    | create create =>
        apply typed_after settings m (.createLink create)
        rintro ⟨-, heq⟩
        exact h heq
    | tracepoint name program =>
        apply typed_after settings m (.openRawTracepoint name program)
        rintro ⟨-, heq⟩
        exact h heq
  rcases hrun : (request.send (kernel settings {})).run.run m with ⟨e | fd, m'⟩
  · rw [hrun] at hsend
    rw [Link.ofRequest, Action.run_bind_of_error hrun]
    exact hsend
  · rw [hrun] at hsend
    have hlooks := keeps_of_looks (Link.asks_ofNew (kernel settings {}) fd linkType m')
    rw [Link.ofRequest, Action.run_bind_of_ok hrun, ← hsend]
    exact congrArg (fun s => s.linkAspects LinkRecord.typed id) hlooks

/-- An event takes a link out of its place, or puts another one there. -/
def Event.Displaces (id : UInt32) (s : State) : Event → Prop
  | .request r => r.AddsLink ∧ s.nextLinkId = id
  | .insertLink record => record.id = id
  | .removeLink key => key = id
  | _ => False

theorem Event.typed_apply (settings : Settings) (m : Machine η) {event : Event} {id : UInt32}
    (h : ¬ event.Displaces id m.state) :
  (event.apply settings m).state.linkAspects LinkRecord.typed id
    = m.state.linkAspects LinkRecord.typed id
  := by
  cases event with
  | request request => apply Machine.typed_after settings m request h
  | createMap =>
      apply State.holds_of_refuses (P := fun s => s.linkAspects LinkRecord.typed id = _)
        (State.refuses_openObject .map) rfl
      intro fd s' hopen
      obtain ⟨-, -, rfl⟩ := State.openObject_eq_ok hopen
      rfl
  | loseDevice failure => rfl
  | insertLink record =>
      have hne : id ≠ record.id := fun heq => h heq.symm
      show ((m.state.links.insert record.id record).get? id).map _ = _
      rw [Table.get?_insert, if_neg hne]
      rfl
  | removeLink key =>
      have hne : id ≠ key := fun heq => h heq.symm
      show ((m.state.links.erase key).get? id).map _ = _
      rw [Table.get?_erase, if_neg hne]
      rfl
  | releaseLink key =>
      show ((m.state.links.modify key fun link => { link with released := true }).get? id).map _ = _
      rw [Table.get?_modify]
      split
      next heq =>
        rw [State.linkAspects, heq, Option.map_map]
        rfl
      next => rfl

end Memory

namespace Session

variable {settings : Settings} {s : Session η} {op : Operation} {id : UInt32}

/-- An operation takes a link out of its place, or puts another one there. -/
def Operation.Displaces (id : UInt32) (s : State) : Operation → Prop
  | .event e => e.Displaces id s
  | .attach _ _ => s.nextLinkId = id
  | _ => False

theorem snd_run_map {β : Type} (action : Action σ α) (f : α → β) (t : σ) :
  ((f <$> action).run.run t).2 = (action.run.run t).2
  := by
  rw [← bind_pure_comp]
  rcases hrun : action.run.run t with ⟨e | a, t'⟩
  · rw [Action.run_bind_of_error hrun]
  · rw [Action.run_bind_of_ok hrun]
    rfl

/-- No operation takes the link with an id out of its place. -/
def Stays (settings : Settings) (id : UInt32) : Session η → List Operation → Prop
  | _, [] => True
  | s, op :: ops => ¬ op.Displaces id s.state ∧ Stays settings id (s.perform settings op).2 ops

/-- A record stays the one of its link, as long as nothing takes the link out of its place. -/
theorem typed_perform (h : ¬ op.Displaces id s.state) :
  (s.perform settings op).2.state.linkAspects LinkRecord.typed id
    = s.state.linkAspects LinkRecord.typed id
  := by
  by_cases hown : op.Own
  · have hkept : (s.perform settings op).2.state.linkAspects LinkRecord.infoApartFromProgram
        = s.state.linkAspects LinkRecord.infoApartFromProgram := infoApartFromProgram_perform hown
    exact congrFun
      (State.linkAspects_comp hkept fun info : LinkInfo => (info.id, info.linkType)) id
  · cases op with
    | event event => apply Event.typed_apply settings s.machine h
    | attach request linkType =>
        rw [perform, state, machine_opening, snd_run_map]
        apply Machine.typed_ofRequest settings s.machine request linkType h
    | _ => exact absurd trivial hown

theorem typed_run {ops : List Operation} (h : s.Stays settings id ops) :
  (s.run settings ops).state.linkAspects LinkRecord.typed id
    = s.state.linkAspects LinkRecord.typed id
  := by
  induction ops generalizing s with
  | nil => rfl
  | cons op ops ih =>
      obtain ⟨hop, hrest⟩ := h
      apply (ih hrest).trans
      apply typed_perform hop

end Session

/-! ### Types and ids that stay -/

/-- However a handle has been obtained, and whatever is done with this handle or others, its type is
the one that every open handle on the link reports, and all of them tell the same id, as long as
nothing takes the link out of its place.  It is enough that a reply on a link reaches the id. -/
theorem handle_tells_reported_type {settings : Settings}
    (hlength : ∀ n, settings.infoLength = some n → 8 ≤ n) {m m' : Machine η}
    (hreachable : m.Reachable settings) {link : Link} (h : link.Obtained settings m m') :
  ∃ id fd, link.fd = some fd ∧ m'.state.object? fd = some (.link id)
    ∧ ∀ (s : Session η) (i : Nat) (ops : List Session.Operation),
      s.machine = m' → s.links[i]? = some ⟨link, some fd⟩ → s.Stays settings id ops →
        let t := s.run settings ops
        ∃ handle : Session.Handle, t.links[i]? = some handle ∧ handle.On id t.state
          ∧ handle.link.linkType = link.linkType
          ∧ ∀ (other : Link) (otherFd : Descriptor), other.fd = some otherFd →
            t.state.object? otherFd = some (.link id) →
            ∃ info, other.report settings t.machine = .ok info
              ∧ info.linkType = handle.link.linkType ∧ info.id = id
              ∧ ((other.id (kernel settings {})).run.run t.machine).1 = .ok id
  := by
  have hvalid : m'.state.Valid := hreachable.valid.steps h.steps
  obtain ⟨id, fd, record, hfd, hobject, hrecord, htype⟩ := h.typed hlength
  refine ⟨id, fd, hfd, hobject, ?_⟩
  rintro s i ops rfl hhandle hstays t
  obtain ⟨handle, hlater, hopened, hhandleType, hhandleFd⟩ :=
    Session.carries_run settings s ops i ⟨link, some fd⟩ hhandle
  have hon : handle.On id t.state := by
    refine ⟨fd, hopened, Session.extends_run hvalid ops _ _ hobject, ?_⟩
    rw [← hfd]
    exact hhandleFd
  refine ⟨handle, hlater, hon, hhandleType, ?_⟩
  intro other otherFd hopen hother
  have htyped : t.state.linkAspects LinkRecord.typed id = some record.typed := by
    rw [Session.typed_run hstays, State.linkAspects]
    show (s.machine.state.links.get? id).map LinkRecord.typed = _
    rw [hrecord]
    rfl
  obtain ⟨found, hfound, hsame⟩ := Option.map_eq_some_iff.1 htyped
  obtain ⟨hid, hfoundType⟩ := Prod.mk.inj hsame
  have hfoundId : found.id = id := hid.trans (hvalid.records id record hrecord)
  obtain ⟨info, hquery, hinfoType, hinfoId⟩ :=
    Machine.run_queryInfo_of_le settings hlength hother hfound
  obtain ⟨otherType, otherHandle, pinned⟩ := other
  cases hopen
  refine ⟨info, congrArg Prod.fst hquery, ?_, hinfoId.trans hfoundId, ?_⟩
  · rw [hinfoType, hfoundType, hhandleType, htype]
  · have hrun : (Link.id (kernel settings {}) ⟨otherType, some otherFd, pinned⟩).run.run t.machine
        = (.ok found.id, t.machine.counted Command.infoByFd) :=
      Machine.run_id_of_le settings hlength rfl hother hfound
    rw [hrun, hfoundId]

/-- A machine that was told of a link of a type without a name. -/
def foreignMachine : Machine Unit :=
  (Machine.fresh ()).afterEvents {}
    [.insertLink { LinkRecord.ofAttachType 7 .xdp 1 with linkType := .unknown 99 }]

/-- A walk finds a link of a type without a name.  Once the handle has been closed, a handle from its
pin reports the type that the first one tells. -/
theorem handle_tells_reported_type_foreign :
  let path : Path := ⟨"/sys/fs/bpf/a"⟩
  let link : Link := ⟨.unknown 99, some (nthDescriptor 0), none⟩
  let moved := (LinkIterator.advance (kernel {} {})).run (.new, foreignMachine)
  let s : Session Unit := ⟨[], [⟨link, some (nthDescriptor 0)⟩], moved.2.2⟩
  let ops : List Session.Operation :=
    [.pinLink 0 path, .loadPinned path 0, .detach 1, .unpinLink 0, .closeLink 0]
  let t := s.run {} ops
  let other : Link := ⟨.unknown 99, some (nthDescriptor 1), some path⟩
  moved.1 = true ∧ moved.2.1.link = some link
    ∧ t.links
      = [⟨⟨.unknown 99, none, none⟩, some (nthDescriptor 0)⟩, ⟨other, some (nthDescriptor 1)⟩]
    ∧ (∃ info, other.report {} t.machine = .ok info ∧ info.linkType = .unknown 99 ∧ info.id = 7)
  := by
  intro path link moved s ops t other
  have hmoved : moved.1 = true := by decide +kernel
  have hlink : moved.2.1.link = some link := by decide +kernel
  have hlinks : t.links
      = [⟨⟨.unknown 99, none, none⟩, some (nthDescriptor 0)⟩, ⟨other, some (nthDescriptor 1)⟩] := by
    decide +kernel
  have hrun : (LinkIterator.advance (kernel {} {})).run (.new, foreignMachine)
      = (true, (moved.2.1, moved.2.2)) := Prod.ext hmoved rfl
  have hobtained : link.Obtained {} foreignMachine moved.2.2 := .advance hrun hlink
  obtain ⟨id, fd, hfd, hobject, hlater⟩ :=
    handle_tells_reported_type (by simp) ⟨(), _, rfl⟩ hobtained
  cases hfd
  have hseven : moved.2.2.state.object? (nthDescriptor 0) = some (.link 7) := by decide +kernel
  rw [hseven] at hobject
  cases hobject
  have hstays : s.Stays {} 7 ops := by
    simp [ops, Session.Stays, Session.Operation.Displaces]
  obtain ⟨handle, hhandle, -, htype, hothers⟩ := hlater s 0 ops rfl rfl hstays
  have hother : t.state.object? (nthDescriptor 1) = some (.link 7) := by decide +kernel
  obtain ⟨info, hreport, hinfo, hid, -⟩ := hothers other _ rfl hother
  exact ⟨hmoved, hlink, hlinks, info, hreport, hinfo.trans htype, hid⟩

end Bpf
