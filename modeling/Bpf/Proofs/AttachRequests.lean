import Bpf.Proofs.Anchors
import Bpf.Proofs.Contracts

/-!
# Requests of attachments

A kernel is watched while a program is attached.  `Order.Asks` is the request that an order comes to
once its anchor has been looked up.  That request is made once.  Before it the kernel is at most asked
about the anchor, and afterwards for the type of the new link, or for the feature that explains a
refusal.
-/

namespace Bpf

open Memory

variable {σ : Type}

/-! ### Orders and requests -/

/-- The request as one of a kernel. -/
def LinkRequest.toRequest : LinkRequest → Request
  | .create request => .createLink request
  | .tracepoint name program => .openRawTracepoint name program

namespace Order

/-- The request that an order comes to, and the state in which the kernel is left once it was asked for
the id of the anchor. -/
inductive Asks (K : Kernel σ) (s : σ) (program : Descriptor) : Order → LinkRequest → σ → Prop
  | link {target : UInt32} {attachType : AttachType} {flags : UInt32} {extra : LinkExtra} :
    Asks K s program (.link target attachType flags extra)
      (.create { program := program, target, attachType, flags, extra }) s
  | chain {place : ChainPlace} {id : UInt32} {s' : σ} (h : place.anchor.Names K s id s') :
    Asks K s program (.chain place)
      (.create
        { program := program
          target := place.interface
          attachType := place.attachType
          flags := place.anchor.flags
          extra := .ordered id place.expectedRevision }) s'
  | tracepoint {name : Option NulFree} :
    Asks K s program (.tracepoint name) (.tracepoint name program) s

/-- What the kernel is asked before the request can be made. -/
def queries : Order → List Request
  | .chain place => place.anchor.queries
  | _ => []

theorem length_queries_le (order : Order) :
  order.queries.length ≤ 1
  := by
  cases order with
  | chain place => exact place.anchor.length_queries_le
  | _ => exact Nat.zero_le 1

theorem isInfo_of_mem_queries {order : Order} {query : Request} (h : query ∈ order.queries) :
  query.IsInfo
  := by
  cases order with
  | chain place => exact Anchor.isInfo_of_mem_queries h
  | _ => cases h

variable {K : Kernel σ} {s s' : σ} {d : Demand} {request : LinkRequest}

theorem exists_asks {order : Order} (program : Descriptor)
    (hfound : ∀ place cause s', order = .chain place → ¬ place.anchor.Lost K s cause s') :
  ∃ request s', order.Asks K s program request s'
  := by
  cases order with
  | link => exact ⟨_, s, .link⟩
  | tracepoint => exact ⟨_, s, .tracepoint⟩
  | chain place =>
      obtain ⟨id, s', -, hnames⟩ | ⟨cause, s', -, hlost⟩ := Anchor.run_relative_cases K place.anchor s
      · exact ⟨_, s', .chain hnames⟩
      · exact absurd hlost (hfound place cause s' rfl)

theorem Asks.run_resolve (h : d.order.Asks K s d.program request s') :
  (d.resolve K).run.run s = (.ok request, s')
  := by
  obtain ⟨program, order, linkType, feature, missing⟩ := d
  cases h with
  | link => rfl
  | chain h => exact Action.run_bind_of_ok h.run_resolve
  | tracepoint => rfl

end Order

theorem Demand.notes_resolve (K : Kernel σ) (d : Demand) :
  Notes d.order.queries (d.resolve K.watched) (d.resolve K)
  := by
  obtain ⟨program, order, linkType, feature, missing⟩ := d
  cases order with
  | link => apply Notes.pure
  | tracepoint => apply Notes.pure
  | chain place =>
      apply Notes.bind (place.anchor.notes_resolve K)
      intro position
      apply Notes.pure

theorem LinkRequest.notes_send (K : Kernel σ) (request : LinkRequest) :
  Notes [request.toRequest] (request.send K.watched) (request.send K)
  := by
  cases request with
  | create request => apply Notes.request
  | tracepoint name program => apply Notes.request

/-- The kernel is asked for the type of a new link only if the attachment does not decide it. -/
theorem Link.notes_ofNew (K : Kernel σ) (fd : Descriptor) (linkType : LinkType) :
  Notes (if linkType = .unspec then [.linkInfo fd] else []) (Link.ofNew K.watched fd linkType)
    (Link.ofNew K fd linkType)
  := by
  unfold Link.ofNew
  split
  · apply Notes.bind (Link.notes_queryInfo K fd)
    intro info
    apply Notes.pure
  · apply Notes.pure

/-- A query about a feature runs its check, or asks the kernel nothing. -/
theorem Host.kernel_haveAttachFeature (K : Kernel σ) (h : Host σ) (feature : AttachFeature) :
  ((haveAttachFeature K feature).run h).2.kernel = h.kernel
    ∨ ((haveAttachFeature K feature).run h).2.kernel = ((feature.check K).run.run h.kernel).2
  := by
  cases hverdict : h.features.attachments.get? feature with
  | none => exact .inr (run_haveAttachFeature_of_unknown K hverdict).2
  | some v =>
      have hknown : h.known K feature = some v := by
        rw [known, Matrix.answer?, AttachFeature.probe?_matrix]
        exact hverdict
      rw [run_haveAttachFeature_of_known hknown]
      exact .inl rfl

/-! ### Attachments of watched kernels -/

section Attaching

variable {K : Kernel σ} {program : ProgramHandle} {a : Attachment} {d : Demand} {request : LinkRequest}
variable {h : Host (σ × Log)} {s s' : σ}

theorem run_resolve_watched (hasks : d.order.Asks K s d.program request s') (log : Log) :
  (d.resolve K.watched).run.run (s, log) = (.ok request, (s', log.afterRequests d.order.queries))
  := by
  rw [d.notes_resolve K, hasks.run_resolve]

/-- The request has been made and answered. -/
theorem answered_of_asks (hdemand : a.demand program = .ok d)
    (hasks : d.order.Asks K h.kernel.1 d.program request s) {answer : Except Error Descriptor}
    (hsend : (request.send K).run.run s = (answer, s')) :
  a.Answered K.watched h.kernel program answer
    (s', h.kernel.2.afterRequests (d.order.queries ++ [request.toRequest]))
  := by
  refine ⟨d, request, _, hdemand, run_resolve_watched hasks h.kernel.2, ?_⟩
  rw [request.notes_send K, hsend, Log.afterRequests_append]

/-- A new link is given a handle. -/
theorem attach_of_made (hdemand : a.demand program = .ok d)
    (hasks : d.order.Asks K h.kernel.1 d.program request s) {new : Descriptor}
    (hsend : (request.send K).run.run s = (.ok new, s')) :
  (attach K.watched program a).run.run h
    = (Host.onKernel (Link.ofNew K.watched new d.linkType)).run.run
        { h with kernel := (s', h.kernel.2.afterRequests (d.order.queries ++ [request.toRequest])) }
  := by
  obtain ⟨d', request', t, hdemand', hresolve, hsent⟩ := answered_of_asks hdemand hasks hsend
  rw [hdemand] at hdemand'
  cases hdemand'
  exact attach_of_sent hdemand hresolve hsent

/-- A refusal is passed on or explained, and nothing is asked for that but the feature. -/
theorem kernel_attach_of_refused (hdemand : a.demand program = .ok d)
    (hasks : d.order.Asks K h.kernel.1 d.program request s) {refusal : Error}
    (hsend : (request.send K).run.run s = (.error refusal, s')) :
  let kernel := (s', h.kernel.2.afterRequests (d.order.queries ++ [request.toRequest]))
  let left := (attach K.watched program a).run.run h
  (∃ e, left.1 = .error e)
    ∧ (left.2.kernel = kernel
      ∨ ∃ feature, a.feature = some feature
        ∧ left.2.kernel = ((feature.check K.watched).run.run kernel).2)
  := by
  intro kernel left
  have hanswer := answered_of_asks hdemand hasks hsend
  cases hmissing : a.missing refusal with
  | some what =>
      have hleft : left = _ := attach_of_missing hanswer hmissing
      rw [hleft]
      exact ⟨⟨_, rfl⟩, .inl rfl⟩
  | none =>
      cases hfeature : a.feature with
      | none =>
          have hleft : left = _ := attach_of_no_feature hanswer hmissing hfeature
          rw [hleft]
          exact ⟨⟨_, rfl⟩, .inl rfl⟩
      | some feature =>
          have hleft : left = _ := attach_of_feature hanswer hmissing hfeature
          rw [hleft]
          refine ⟨⟨_, rfl⟩, ?_⟩
          obtain hkernel | hkernel :=
            Host.kernel_haveAttachFeature K.watched { h with kernel := kernel } feature
          · exact .inl hkernel
          · exact .inr ⟨feature, rfl, hkernel⟩

end Attaching

/-- What is asked of the kernel to attach a program.  If a contract is broken or the program is closed
it is asked nothing, and the answer is that the input is invalid.  If it is only the anchor that is
lost, the kernel is asked for one report at most, and the answer says so of the anchor.  Otherwise the
kernel is asked for the link once, with the program, the target, the attach type and the flags that are
given, after one report on the anchor at most.  If it makes the link it is then asked for the type of
the link, unless that is known, and nothing else; if it refuses it is asked for nothing but the feature
behind the attachment. -/
theorem attach_requests (K : Kernel σ) (program : ProgramHandle) (a : Attachment)
    (h : Host (σ × Log)) :
  let left := (attach K.watched program a).run.run h
  (¬ (program.isSome ∧ a.WellFormed) → ∃ message, left = (.error (.invalidInput message), h))
    ∧ ∀ fd, program = some fd → a.WellFormed →
      (∀ place cause s, a.InChain place → place.anchor.Lost K h.kernel.1 cause s →
        left = (.error (.invalidInput s!"resolve anchor {place.anchor.text}: {cause.message}"),
          { h with kernel := (s, h.kernel.2.afterRequests place.anchor.queries) })
        ∧ place.anchor.queries.length ≤ 1 ∧ ∀ query ∈ place.anchor.queries, query.IsInfo)
      ∧ ((∀ place cause s, a.InChain place → ¬ place.anchor.Lost K h.kernel.1 cause s) →
        ∃ order request s, a.Orders order ∧ order.Asks K h.kernel.1 fd request s
          ∧ order.queries.length ≤ 1 ∧ (∀ query ∈ order.queries, query.IsInfo)
          ∧ let log := h.kernel.2.afterRequests (order.queries ++ [request.toRequest])
            (∀ new s', (request.send K).run.run s = (.ok new, s') →
              left.2.kernel.2 = log.afterRequests (if a.linkType = .unspec then [.linkInfo new] else [])
              ∧ (a.linkType ≠ .unspec →
                left = (.ok ⟨a.linkType, some new, none⟩, { h with kernel := (s', log) })))
            ∧ ∀ refusal s', (request.send K).run.run s = (.error refusal, s') →
              (∃ e, left.1 = .error e)
              ∧ (left.2.kernel = (s', log)
                ∨ ∃ feature, a.feature = some feature
                  ∧ left.2.kernel = ((feature.check K.watched).run.run (s', log)).2))
  := by
  intro left
  constructor
  · intro hbroken
    cases hdemand : a.demand program with
    | error e =>
        obtain ⟨message, rfl⟩ := a.isCheck_demand program e hdemand
        exact ⟨message, attach_of_broken hdemand⟩
    | ok d =>
        obtain ⟨ha, hprogram, -⟩ := Attachment.of_demand hdemand
        exact absurd ⟨by rw [hprogram]; rfl, ha⟩ hbroken
  · rintro fd rfl ha
    obtain ⟨order, horder⟩ := ha.exists_order
    have hdemand := Attachment.demand_of_orders ha horder fd
    constructor
    · intro place cause s hplace hlost
      refine ⟨?_, place.anchor.length_queries_le, fun query => Anchor.isInfo_of_mem_queries⟩
      exact attach_of_lost hdemand (hplace.of_demand hdemand).2 hlost
    · intro hfound
      have hfound : ∀ place cause s, order = .chain place → ¬ place.anchor.Lost K h.kernel.1 cause s := by
        rintro place cause s rfl
        cases horder with
        | chain hplace => exact hfound place cause s hplace
      obtain ⟨request, s, hasks⟩ := Order.exists_asks fd hfound
      refine ⟨order, request, s, horder, hasks, order.length_queries_le,
        fun query => Order.isInfo_of_mem_queries, ?_, ?_⟩
      · intro new s' hsend
        have hnotes := Link.notes_ofNew K new a.linkType s'
          (h.kernel.2.afterRequests (order.queries ++ [request.toRequest]))
        have hleft : left = _ := (attach_of_made hdemand hasks hsend).trans (Host.run_onKernel hnotes)
        rw [hleft]
        refine ⟨rfl, ?_⟩
        intro htype
        rw [if_neg htype, Link.ofNew, if_neg htype, Log.afterRequests_nil]
        rfl
      · intro refusal s' hsend
        exact kernel_attach_of_refused hdemand hasks hsend

/-- An attach type that says nothing of the type of the link is the case in which the kernel is asked
twice. -/
theorem attach_requests_unspec :
  let host : Host (Machine Unit × Log) := .new (toldOf 7, {})
  let program := nthDescriptor 0
  let left := (attach (kernel {} {}).watched (some program) (.raw 1 .lircMode2 0 0)).run.run host
  left.2.kernel.2.requests
    = [.createLink ⟨program, 1, .lircMode2, 0, .none⟩, .linkInfo (nthDescriptor 1)]
  := by
  intro host program left
  obtain ⟨-, hopen⟩ := attach_requests (kernel {} {}) (some program) (.raw 1 .lircMode2 0 0) host
  obtain ⟨-, hfound⟩ := hopen program rfl trivial
  obtain ⟨order, request, s, horder, hasks, -, -, hmade, -⟩ := hfound (by rintro place cause s ⟨⟩)
  cases horder with
  | chain h => cases h
  | raw =>
      cases hasks with
      | link =>
          have hsend : ((LinkRequest.create ⟨program, 1, .lircMode2, 0, .none⟩).send
              (kernel {} {})).run.run (toldOf 7) = (.ok (nthDescriptor 1), _) :=
            Prod.ext (by decide +kernel) rfl
          exact congrArg Log.requests (hmade _ _ hsend).1

end Bpf
