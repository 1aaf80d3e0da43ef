import Bpf.Attachment.Attach
import Bpf.Proofs.Handles

/-!
# New links

The last two steps of an attachment: the kernel is asked for a link, and a handle is made for the
descriptor that it answers with (`Link.ofRequest`).  A kernel in memory puts a record under the next
id, and the handle is on that link.
-/

namespace Bpf

open Memory

variable {σ η : Type}

/-- A link is asked for, and the handle on it is made. -/
def Link.ofRequest (K : Kernel σ) (request : LinkRequest) (linkType : LinkType) : Action σ Link := do
  Link.ofNew K (← request.send K) linkType

namespace Request

/-- The request makes a new link, or only looks at an object. -/
def Attaches (request : Request) : Prop := request.AddsLink ∨ request.Looks

theorem Looks.attaches (request : Request) (h : request.Looks) :
  request.Attaches
  := .inr h

end Request

namespace LinkRequest

/-- The program that a request is about. -/
def program : LinkRequest → Descriptor
  | .create c => c.program
  | .tracepoint _ fd => fd

/-- The record that a kernel in memory makes of a request for a link, `loaded` being the attach type
that the program was loaded for. -/
def Records (request : LinkRequest) (loaded : Option AttachType) (programId id : UInt32)
    (record : LinkRecord) : Prop :=
  match request with
  | .create c => record = State.requested c programId id
  | .tracepoint name _ =>
    ∃ attachType, State.tracepointType name loaded = .ok attachType
      ∧ record = .ofAttachType id attachType programId

theorem Records.ids {request : LinkRequest} {loaded : Option AttachType} {programId id : UInt32}
    {record : LinkRecord} (h : request.Records loaded programId id record) :
  record.id = id ∧ record.programId = programId
  := by
  cases request with
  | create c =>
      cases h
      unfold State.requested
      cases c.extra with
      | _ => exact ⟨rfl, rfl⟩
  | tracepoint name fd =>
      obtain ⟨attachType, -, rfl⟩ := h
      exact ⟨rfl, rfl⟩

end LinkRequest

/-! ### What is asked for -/

section Asks

variable (K : Kernel σ)

theorem LinkRequest.asks_send (request : LinkRequest) :
  (request.send K).Asks K Request.Attaches
  := by
  cases request with
  | create c => apply Action.asks_request (.createLink c) (.inl trivial) fun _ => rfl
  | tracepoint name fd =>
      apply Action.asks_request (.openRawTracepoint name fd) (.inl trivial) fun _ => rfl

theorem Link.asks_ofNew (fd : Descriptor) (linkType : LinkType) :
  (Link.ofNew K fd linkType).Asks K Request.Looks
  := by
  unfold Link.ofNew
  split
  next => apply Link.asks_ofDescriptor
  next => apply Action.asks_pure

theorem Link.asks_ofRequest (request : LinkRequest) (linkType : LinkType) :
  (Link.ofRequest K request linkType).Asks K Request.Attaches
  := by
  apply (request.asks_send K).bind
  intro fd
  apply (Link.asks_ofNew K fd linkType).mono Request.Looks.attaches

end Asks

/-! ### Runs that succeed -/

namespace Memory.Machine

variable {settings : Settings} {m m' : Machine η} {fd : Descriptor} {request : LinkRequest}
  {linkType : LinkType} {link : Link}

theorem of_addLink {s s' : State} {link : UInt32 → LinkRecord}
    (h : (State.addLink link).run.run s = (.ok fd, s')) :
  s'.object? fd = some (.link s.nextLinkId)
    ∧ s'.links.get? s.nextLinkId = some (link s.nextLinkId)
  := by
  obtain ⟨-, -, rfl, rfl⟩ := State.addLink_eq_ok h
  constructor
  · apply State.object?_opened
  · show (s.links.insert s.nextLinkId (link s.nextLinkId)).get? s.nextLinkId = _
    rw [Table.get?_insert, if_pos rfl]

/-- A request for a link that succeeds puts a record under the next id and opens it. -/
theorem run_send_eq_ok (h : (request.send (kernel settings {})).run.run m = (.ok fd, m')) :
  ∃ programId programType loaded record,
    m.state.object? request.program = some (.program programId programType loaded)
      ∧ request.Records loaded programId m.state.nextLinkId record
      ∧ m'.state.object? fd = some (.link m.state.nextLinkId)
      ∧ m'.state.links.get? m.state.nextLinkId = some record
  := by
  cases request with
  | create c =>
      have hrun : ((do
          count Command.linkCreate
          change (State.createLink c) : Action (Machine η) Descriptor)).run.run m = (.ok fd, m') := h
      obtain ⟨programId, programType, loaded, hobject, hadd⟩ :=
        State.createLink_eq_ok (run_request_eq hrun)
      obtain ⟨hfd, hrecord⟩ := of_addLink hadd
      exact ⟨programId, programType, loaded, _, hobject, rfl, hfd, hrecord⟩
  | tracepoint name program =>
      obtain ⟨programId, programType, loaded, attachType, hobject, htype, hadd⟩ :=
        State.openRawTracepoint_eq_ok (run_request_eq h)
      obtain ⟨hfd, hrecord⟩ := of_addLink hadd
      exact ⟨programId, programType, loaded, _, hobject, ⟨attachType, htype, rfl⟩, hfd, hrecord⟩

/-- The handle on a new link has its descriptor and no pin. -/
theorem run_ofNew_eq_ok
    (h : (Link.ofNew (kernel settings {}) fd linkType).run.run m = (.ok link, m')) :
  (∃ known, link = ⟨known, some fd, none⟩) ∧ m'.state.uncounted = m.state.uncounted
  := by
  have hleads := Link.asks_ofNew (kernel settings {}) fd linkType m
  rw [h] at hleads
  refine ⟨?_, keeps_of_looks hleads⟩
  unfold Link.ofNew at h
  split at h
  next =>
    obtain ⟨id, known, -, rfl, -⟩ := run_ofDescriptor_eq_ok h
    exact ⟨known, rfl⟩
  next =>
    obtain ⟨rfl, -⟩ := Action.run_pure_eq_ok h
    exact ⟨linkType, rfl⟩

/-- A link that has been asked for has a record under the next id, and is open at its handle. -/
theorem run_ofRequest_eq_ok
    (h : (Link.ofRequest (kernel settings {}) request linkType).run.run m = (.ok link, m')) :
  ∃ known fd programId programType loaded record,
    link = ⟨known, some fd, none⟩
      ∧ m.state.object? request.program = some (.program programId programType loaded)
      ∧ request.Records loaded programId m.state.nextLinkId record
      ∧ m'.state.object? fd = some (.link m.state.nextLinkId)
      ∧ m'.state.links.get? m.state.nextLinkId = some record
  := by
  obtain ⟨fd, t, hsend, hnew⟩ := Action.exists_of_run_bind_ok h
  obtain ⟨programId, programType, loaded, record, hprogram, hrecords, hobject, hrecord⟩ :=
    run_send_eq_ok hsend
  obtain ⟨⟨known, hlink⟩, hsame⟩ := run_ofNew_eq_ok hnew
  refine ⟨known, fd, programId, programType, loaded, record, hlink, hprogram, hrecords, ?_, ?_⟩
  · exact (congrArg (fun s => s.object? fd) hsame).trans hobject
  · exact (congrArg (fun s => s.links.get? m.state.nextLinkId) hsame).trans hrecord

end Memory.Machine

end Bpf
