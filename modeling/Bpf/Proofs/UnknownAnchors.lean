import Bpf.Proofs.QueryOrder
import Bpf.Proofs.Refusals

/-!
# Anchors next to what is not there

A program that is to be attached next to a program or a link that a kernel in memory does not have is
refused: it does not end up somewhere else in the chain.  A refusal is looked into before it is given
back, and what comes of that depends on what is known already.  But a host that has been on the kernel
since that was new is `Steady`: it knows nothing but the verdicts of a new kernel.  These say that there
are chains, so the refusal is given back as it is.  Zero is the id of nothing, but also the way to say
that there is no neighbour, so an anchor next to it is taken for one at an end of the chain.
-/

namespace Bpf

open AttachFeature (nowhere nobody)

variable {σ η α : Type}

/-- The anchor is next to a program or a link with an id, not zero, under which there is none. -/
def Anchor.Misses (s : Memory.State) : Anchor → Prop
  | .nextToProgram _ (.id id) => id ≠ 0 ∧ s.programs.get? id = none
  | .nextToLink _ (.id id) => id ≠ 0 ∧ s.links.get? id = none
  | _ => False

/-- An attachment to a place in a chain. -/
inductive Attachment.InChain (place : ChainPlace) : Attachment → Prop
  | tcx : InChain place (.tcx place)
  | netkit : InChain place (.netkit place)

/-! ### Places in chains -/

theorem AttachType.eq_of_linkType_tcx {attachType : AttachType} (h : attachType.linkType = .tcx) :
  attachType = .tcxIngress ∨ attachType = .tcxEgress
  := by
  cases attachType with
  | tcxIngress => exact Or.inl rfl
  | tcxEgress => exact Or.inr rfl
  | _ => cases h

theorem AttachType.eq_of_linkType_netkit {attachType : AttachType}
    (h : attachType.linkType = .netkit) :
  attachType = .netkitPrimary ∨ attachType = .netkitPeer
  := by
  cases attachType with
  | netkitPrimary => exact Or.inl rfl
  | netkitPeer => exact Or.inr rfl
  | _ => cases h

namespace Attachment

variable {place : ChainPlace} {a : Attachment} {d : Demand}

theorem exists_chainDemand {what : String} {feature : AttachFeature}
    (hinterface : place.interface ≠ 0) (program : Descriptor) :
  ∃ d, chainDemand what feature (some program) place = .ok d
  := by
  unfold chainDemand checkInterface
  rw [if_neg hinterface]
  exact ⟨_, rfl⟩

/-- A place breaks no contract if the chain is there for such attachments. -/
theorem InChain.exists_demand (h : a.InChain place) (htype : place.attachType.linkType = a.linkType)
    (hinterface : place.interface ≠ 0) (program : Descriptor) :
  ∃ d, a.demand (some program) = .ok d
  := by
  cases h with
  | tcx =>
      obtain htype | htype := AttachType.eq_of_linkType_tcx htype
      all_goals
        rw [demand, htype]
        apply exists_chainDemand hinterface
  | netkit =>
      obtain htype | htype := AttachType.eq_of_linkType_netkit htype
      all_goals
        rw [demand, htype]
        apply exists_chainDemand hinterface

theorem InChain.of_demand {program : ProgramHandle} (h : a.InChain place)
    (hdemand : a.demand program = .ok d) :
  program = some d.program ∧ d.order = .chain place
  := by
  cases h with
  | tcx =>
      obtain ⟨u, -, hdemand⟩ := exists_of_bind_eq_ok hdemand
      obtain ⟨hprogram, horder, -⟩ := eq_of_chainDemand hdemand
      exact ⟨hprogram, horder⟩
  | netkit =>
      obtain ⟨u, -, hdemand⟩ := exists_of_bind_eq_ok hdemand
      obtain ⟨hprogram, horder, -⟩ := eq_of_chainDemand hdemand
      exact ⟨hprogram, horder⟩

/-- A refusal of a place is explained by whether there are such chains at all. -/
theorem InChain.feature (h : a.InChain place) (refusal : Error) :
  a.missing refusal = none ∧ (a.feature = some .tcx ∨ a.feature = some .netkit)
  := by
  cases h with
  | tcx => exact ⟨rfl, Or.inl rfl⟩
  | netkit => exact ⟨rfl, Or.inr rfl⟩

end Attachment

namespace Memory

variable {settings : Settings} {script : Script η}

/-! ### Refused places -/

theorem State.hasNeighbour_program {s : State} {side : Side} {id : UInt32} (hid : id ≠ 0) :
  s.hasNeighbour (side.flag ||| Flag.id) id = s.programs.contains id
  := by
  rw [State.hasNeighbour, if_neg hid]
  cases side with
  | before => rfl
  | after => rfl

theorem State.hasNeighbour_link {s : State} {side : Side} {id : UInt32} (hid : id ≠ 0) :
  s.hasNeighbour (side.flag ||| Flag.id ||| Flag.link) id = s.links.contains id
  := by
  rw [State.hasNeighbour, if_neg hid]
  cases side with
  | before => rfl
  | after => rfl

/-- The id of what is missing is passed on, and the kernel does not find it. -/
theorem exists_resolve_of_misses {s : State} {anchor : Anchor} (h : anchor.Misses s)
    (K : Kernel σ) (m : σ) :
  ∃ id, (anchor.resolve K).run.run m = (.ok (anchor.flags, id), m)
    ∧ s.hasNeighbour anchor.flags id = false
  := by
  cases anchor with
  | head => cases h
  | tail => cases h
  | nextToProgram side program =>
      cases program with
      | object program => cases h
      | id id =>
          refine ⟨id, rfl, ?_⟩
          obtain ⟨hid, hnone⟩ := h
          rw [Anchor.flags, State.hasNeighbour_program hid, Table.contains, hnone]
          rfl
  | nextToLink side link =>
      cases link with
      | object link => cases h
      | id id =>
          refine ⟨id, rfl, ?_⟩
          obtain ⟨hid, hnone⟩ := h
          rw [Anchor.flags, State.hasNeighbour_link hid, Table.contains, hnone]
          rfl

/-- A link is refused if its place is not there. -/
theorem State.createLink_of_no_place {s : State} {request : LinkCreate}
    (hprogram : s.IsProgram request.program) (htarget : request.target ≠ nowhere)
    (hplace : s.checkPlace request = false) :
  (State.createLink request).run.run s = (.error (.ofErrno Command.linkCreate Errno.enoent), s)
  := by
  obtain ⟨id, hid⟩ := hprogram.exists_programId Command.linkCreate
  have htarget : decide (request.target = 0xffffffff) = false := decide_eq_false htarget
  rw [State.run_createLink, hid, hplace, htarget, Bool.and_false]
  rfl

/-- The kernel is asked for a link next to what it does not have, and answers that there is no such
thing. -/
theorem answered_of_misses (settings : Settings) {m : Machine η} {program : Descriptor}
    {place : ChainPlace} {a : Attachment} {d : Demand} (hprogram : m.state.IsProgram program)
    (hplace : a.InChain place) (hsomewhere : place.interface ≠ nowhere)
    (hmisses : place.anchor.Misses m.state) (hdemand : a.demand (some program) = .ok d) :
  a.Answered (kernel settings {}) m (some program) (.error (.ofErrno Command.linkCreate Errno.enoent))
    (m.counted Command.linkCreate)
  := by
  obtain ⟨hopen, horder⟩ := hplace.of_demand hdemand
  have hd : d.program = program := (Option.some.inj hopen).symm
  obtain ⟨id, hresolve, hnone⟩ := exists_resolve_of_misses hmisses (kernel settings {}) m
  let request : LinkCreate :=
    { program := program
      target := place.interface
      attachType := place.attachType
      flags := place.anchor.flags
      extra := .ordered id place.expectedRevision }
  refine ⟨d, .create request, m, hdemand, ?_, ?_⟩
  · unfold Demand.resolve
    rw [horder, hd]
    dsimp only
    rw [Action.run_bind_of_ok hresolve]
    rfl
  · apply Machine.run_request
    apply State.createLink_of_no_place
    · exact hprogram
    · exact hsomewhere
    · exact hnone

/-! ### Steady hosts -/

/-- As long as it all runs a host knows no other verdicts than the given ones. -/
structure Steady (settings : Settings) (script : Script η) (V : Feature → Verdict)
    (h : Host (Machine η)) : Prop where
  coherent : Coherent (kernel settings script) h.features
  nobody : h.kernel.state.object? nobody = none
  agree : h.kernel.state.Runs → Agree V h.features.verdict?

section Steadiness

variable {V : Feature → Verdict} {h : Host (Machine η)}

theorem steady_new (settings : Settings) (script : Script η) (V : Feature → Verdict) (state : η) :
  Steady settings script V (.new (.fresh state))
  := by
  constructor
  · apply Coherent.unknown
  · rfl
  · intro _ x v hx
    cases x with
    | _ => cases hx

/-- To a host it makes no difference what steps the kernel takes elsewhere. -/
theorem Steady.elsewhere (hsteady : Steady settings script V h) {m : Machine η}
    (hsteps : State.Steps h.kernel.state m.state) :
  Steady settings script V { h with kernel := m }
  := by
  constructor
  · apply hsteady.coherent
  · exact (State.object?_nobody_of_steps hsteps).trans hsteady.nobody
  · intro hruns
    apply hsteady.agree (State.runs_of_steps hsteps hruns)

/-- Steps that give the same answers on all steady hosts leave them steady. -/
theorem Answers.steady {step : StateM (Host (Machine η)) α} {answer : α}
    (hstep : Answers settings script none V step answer) (hsteady : Steady settings script V h) :
  Steady settings script V (step.run h).2
  := by
  obtain ⟨hcoherent, hsteps, hagree⟩ := hstep h hsteady.coherent
  constructor
  · apply hcoherent
  · exact (State.object?_nobody_of_steps hsteps).trans hsteady.nobody
  · intro hruns
    have hbefore := State.runs_of_steps hsteps hruns
    apply (hagree hsteady.nobody (hsteady.agree hbefore) hruns).2

theorem steps_send (settings : Settings) (script : Script η) (request : LinkRequest) (m : Machine η) :
  State.Steps m.state ((request.send (kernel settings script)).run.run m).2.state
  := by
  cases request with
  | create c => exact Machine.steps_afterUnder settings script m (.createLink c)
  | tracepoint name fd => exact Machine.steps_afterUnder settings script m (.openRawTracepoint name fd)

/-- Whether or not it is asked for a link, the kernel takes steps. -/
theorem steps_of_leaves {m m' : Machine η} {program : ProgramHandle} {a : Attachment}
    (hleaves : a.Leaves (kernel settings script) m program m') :
  State.Steps m.state m'.state
  := by
  have hlooks {d : Demand} {answer : Except Error LinkRequest} {t : Machine η}
      (hresolve : (d.resolve (kernel settings script)).run.run m = (answer, t)) :
      State.Steps m.state t.state := by
    have hlooked := Demand.asks_resolve (kernel settings script) d m
    rw [hresolve] at hlooked
    apply (growth_of_looks settings script hlooked).steps
  cases hleaves with
  | broken hdemand => apply Relation.ReflTransGen.refl
  | unresolved hdemand hresolve => apply hlooks hresolve
  | refused hanswer =>
      obtain ⟨d, request, t, -, hresolve, hsend⟩ := hanswer
      have hsent := steps_send settings script request t
      rw [hsend] at hsent
      apply (hlooks hresolve).trans hsent

variable
  (hV : ∀ x, Answers settings script none V ((Probes.ofKernel (kernel settings script)).ask x) (V x))

include hV in
theorem Steady.queried (hsteady : Steady settings script V h) {h' : Host (Machine η)}
    (hqueried : Queried settings script h h') :
  Steady settings script V h'
  := by
  cases hqueried with
  | ask x => apply (hV x).steady hsteady
  | probeAll =>
      rw [Host.probeAll, Probes.probeAll]
      generalize (Probes.ofKernel (kernel settings script)).declared = features
      exact (answers_askAll hV features).steady hsteady
  | attach program a hfd hrefused =>
      obtain ⟨fd, s, d, request, t, hdemand, hresolve, hsend⟩ | ⟨m, hleaves, hleft⟩ :=
        attach_cases (kernel settings script) h program a
      · obtain ⟨hfailed, -⟩ := hrefused d request t hdemand hresolve
        rw [hsend] at hfailed
        cases hfailed
      · have hasked := hsteady.elsewhere (steps_of_leaves hleaves)
        obtain hleft | ⟨feature, hleft⟩ := hleft
        · rw [hleft]
          apply hasked
        · rw [hleft]
          apply (hV (.attachment feature)).steady hasked

include hV in
/-- A host is steady all its life. -/
theorem Life.steady {made : List LinkRecord} (hlife : Life settings script h made) :
  Steady settings script V h
  := by
  induction hlife with
  | new state => apply steady_new
  | queried _ hqueried ih => apply ih.queried hV hqueried
  | @elsewhere h _ _ event ih =>
      obtain hsteps | ⟨id, hremoved⟩ := event.applyUnder_cases settings script h.kernel
      · apply ih.elsewhere hsteps
      · constructor
        · apply ih.coherent
        · rw [hremoved]
          apply ih.nobody
        · rw [hremoved]
          intro hruns
          apply ih.agree ⟨hruns.hasDescriptors, hruns.going⟩

end Steadiness

/-! ### Chains that are there -/

/-- The check for a chain succeeds on a new kernel. -/
theorem check_chain_of_new (settings : Settings) (state : η) {feature : AttachFeature}
    (hfeature : feature = .tcx ∨ feature = .netkit) :
  let checked := (AttachFeature.check (kernel settings {}) feature).run.run (.fresh state)
  checked.1 = .ok () ∧ checked.2.state.Runs
  := by
  obtain rfl | rfl := hfeature
  · exact ⟨by cbv, by cbv, by cbv⟩
  · exact ⟨by cbv, by cbv, by cbv⟩

/-- Whatever else is known, a steady host has no other verdict on a chain than that it is there. -/
theorem verdict_chain {V : Feature → Verdict}
    (hV : ∀ x, Answers settings ({} : Script η) none V
      ((Probes.ofKernel (kernel settings {})).ask x) (V x))
    (state : η) {feature : AttachFeature} (hfeature : feature = .tcx ∨ feature = .netkit) :
  V (.attachment feature) = .ok ()
  := by
  obtain ⟨hcoherent, hunknown, hagree⟩ := steady_new settings ({} : Script η) V state
  obtain ⟨-, -, hanswer⟩ := hV (.attachment feature) _ hcoherent
  obtain ⟨hchecked, hruns⟩ := check_chain_of_new settings state hfeature
  have hrun := Host.run_haveAttachFeature_of_unknown (kernel settings ({} : Script η))
    (show (Host.new (Machine.fresh state)).features.attachments.get? feature = none from rfl)
  have hend : ((Host.haveAttachFeature (kernel settings ({} : Script η)) feature).run
      (.new (.fresh state))).2.kernel.state.Runs := by
    rw [hrun.2]
    exact hruns
  have hv := (hanswer hunknown (hagree ⟨rfl, rfl⟩) hend).1
  rw [← hv]
  apply hrun.1.trans
  rw [Host.new, hchecked]
  rfl

/-! ### Attachments next to what is not there -/

/-- To look into whether there is a chain asks for no link. -/
theorem growth_haveAttachFeature (settings : Settings) (script : Script η) {feature : AttachFeature}
    (hfeature : feature = .tcx ∨ feature = .netkit) {h : Host (Machine η)}
    (hvalid : h.kernel.state.Valid) :
  h.kernel.state.Growth []
    ((Host.haveAttachFeature (kernel settings script) feature).run h).2.kernel.state
  := by
  have hmakes : feature.makes = [] := by
    obtain rfl | rfl := hfeature
    · rfl
    · rfl
  apply growth_nil_result _ h.features.attachments hvalid
  intro p hp
  rw [← hmakes]
  apply grows_probe_attachment settings script feature hp

/-- A program is not attached next to a program or a link with an id, not zero, under which the kernel
has none.  The attachment fails and leaves the links as they were.  If it is one for such a chain, and
the check of the feature runs to its end, the answer is that there is no such thing, whatever has been
asked for and done since the kernel was new.  The check does run to its end if descriptors can be opened
and there is an id for every program that is ever asked for. -/
theorem unknown_anchor_refused {h : Host (Machine η)} {made : List LinkRecord}
    {program : Descriptor} {place : ChainPlace} {a : Attachment}
    (hlife : Life settings {} h made) (hprogram : h.kernel.state.IsProgram program)
    (hplace : a.InChain place) (hinterface : place.interface ≠ 0)
    (hsomewhere : place.interface ≠ nowhere) (hmisses : place.anchor.Misses h.kernel.state) :
  let left := (attach (kernel settings {}) (some program) a).run.run h
  (∃ e, left.1 = .error e)
    ∧ left.2.kernel.state.links = h.kernel.state.links
    ∧ (place.attachType.linkType = a.linkType → left.2.kernel.state.Runs →
      left.1 = .error (.ofErrno Command.linkCreate Errno.enoent))
    ∧ (h.kernel.state.Runs → left.2.kernel.state.callCount Command.progLoad < 0xffffffff →
      left.2.kernel.state.Runs)
  := by
  intro left
  cases hdemand : a.demand (some program) with
  | error e =>
      have hleft : left = (.error e, h) := attach_of_broken hdemand
      rw [hleft]
      refine ⟨⟨e, rfl⟩, rfl, ?_, fun hruns _ => hruns⟩
      intro htype _
      obtain ⟨d, hd⟩ := hplace.exists_demand htype hinterface program
      rw [hdemand] at hd
      cases hd
  | ok d =>
      have hanswer := answered_of_misses settings hprogram hplace hsomewhere hmisses hdemand
      obtain ⟨hmissing, hfeature⟩ := hplace.feature (.ofErrno Command.linkCreate Errno.enoent)
      obtain ⟨feature, hfeature, hchain⟩ :
          ∃ feature, a.feature = some feature ∧ (feature = .tcx ∨ feature = .netkit) := by
        obtain hfeature | hfeature := hfeature
        · exact ⟨.tcx, hfeature, Or.inl rfl⟩
        · exact ⟨.netkit, hfeature, Or.inr rfl⟩
      let counted : Host (Machine η) := { h with kernel := h.kernel.counted Command.linkCreate }
      let asked := (Host.haveAttachFeature (kernel settings {}) feature).run counted
      have hleft :
          left = (.error (asked.1.explain (.ofErrno Command.linkCreate Errno.enoent)), asked.2) :=
        attach_of_feature hanswer hmissing hfeature
      have hcounted : State.Steps h.kernel.state counted.kernel.state :=
        Relation.ReflTransGen.single (State.Step.count Command.linkCreate)
      have haccounted := hlife.accounted
      have hgrowth : counted.kernel.state.Growth [] asked.2.kernel.state :=
        growth_haveAttachFeature settings {} hchain (haccounted.valid.steps hcounted)
      rw [hleft]
      refine ⟨⟨_, rfl⟩, hgrowth.links_eq rfl, ?_, ?_⟩
      · intro _ hruns
        -- The verdict is that of a new kernel, whether it has been known before or not.
        obtain ⟨V, hV⟩ := exists_answers settings isPure_unscripted none
        have hsteady : Steady settings {} V counted := (hlife.steady hV).elsewhere hcounted
        obtain ⟨-, hsteps, hverdict⟩ := hV (.attachment feature) counted hsteady.coherent
        have hbefore := State.runs_of_steps hsteps hruns
        have hthere : asked.1 = .ok () :=
          (hverdict hsteady.nobody (hsteady.agree hbefore) hruns).1.trans
            (verdict_chain hV h.kernel.script hchain)
        rw [hthere]
        rfl
      · intro hruns hloads
        have hlinks := UInt32.le_iff_toNat_le.1 (le_lastId counted.kernel.state.nextLinkId)
        constructor
        · exact hgrowth.device_eq.trans hruns.hasDescriptors
        · exact (hgrowth.stopped_eq (haccounted.paid.steps hcounted) hlinks hloads).trans hruns.going

/-- A link that a check has made is the last one, and nothing is attached next to the one after it. -/
theorem unknown_anchor_refused_next :
  let host := afterAsking (.new (toldOf 7)) .kprobeMulti
  let place : ChainPlace := ⟨1, .netkitPeer, .nextToLink .after (.id 9), 0⟩
  let left := (attach (kernel {} {}) (some (nthDescriptor 0)) (.netkit place)).run.run host
  host.kernel.state.links.keys = [7, 8] ∧ host.kernel.state.IsProgram (nthDescriptor 0)
    ∧ place.anchor.Misses host.kernel.state
    ∧ left.1 = .error (.ofErrno Command.linkCreate Errno.enoent)
    ∧ left.2.kernel.state.links = host.kernel.state.links
  := by
  intro host place left
  have hstart : Life {} {} (.new (toldOf 7)) [] := Life.of_reachableUnder (reachableUnder_toldOf 7)
  have hlife := hstart.queried (queried_afterAsking _ .kprobeMulti)
  have hprogram : host.kernel.state.IsProgram (nthDescriptor 0) :=
    ⟨1, .xdp, none, by decide +kernel⟩
  have hmisses : place.anchor.Misses host.kernel.state := ⟨by decide, by decide +kernel⟩
  have hruns : host.kernel.state.Runs := ⟨by decide +kernel, by decide +kernel⟩
  obtain ⟨-, hlinks, hanswer, hend⟩ :=
    unknown_anchor_refused hlife hprogram .netkit (by decide) (by decide) hmisses
  have hleft : left.2.kernel.state.Runs := hend hruns (by decide +kernel)
  exact ⟨by decide +kernel, hprogram, hmisses, hanswer rfl hleft, hlinks⟩

/-- No program and no link has the id zero, but next to it links are made. -/
theorem zero_anchor_accepted :
  let host : Host (Machine Unit) := .new (toldOf 7)
  let first := (attach (kernel {} {}) (some (nthDescriptor 0))
    (.tcx ⟨1, .tcxIngress, .nextToProgram .before (.id 0), 0⟩)).run.run host
  let second := (attach (kernel {} {}) (some (nthDescriptor 0))
    (.netkit ⟨1, .netkitPeer, .nextToLink .after (.id 0), 0⟩)).run.run host
  Life {} {} host [] ∧ host.kernel.state.IsProgram (nthDescriptor 0)
    ∧ host.kernel.state.programs.get? 0 = none ∧ host.kernel.state.links.get? 0 = none
    ∧ host.kernel.state.links.keys = [7]
    ∧ first.1.isOk = true ∧ first.2.kernel.state.links.keys = [7, 8]
    ∧ second.1.isOk = true ∧ second.2.kernel.state.links.keys = [7, 8]
  := by
  intro host first second
  have hlife : Life {} {} host [] := Life.of_reachableUnder (reachableUnder_toldOf 7)
  have hprogram : host.kernel.state.IsProgram (nthDescriptor 0) := ⟨1, .xdp, none, by decide +kernel⟩
  exact ⟨hlife, hprogram, by decide +kernel, by decide +kernel, by decide +kernel, by decide +kernel,
    by decide +kernel, by decide +kernel, by decide +kernel⟩

end Memory

end Bpf
