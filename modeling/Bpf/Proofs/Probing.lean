import Bpf.Proofs.Attached
import Bpf.Proofs.Failures
import Bpf.Proofs.Growth
import Bpf.Proofs.ProbedOnce

/-!
# What probing adds to a kernel

Features are probed when somebody asks for them, and also when a program cannot be attached and a
verdict is to explain why.  A kernel in memory only grows by that, and since there are just two checks
that may make a link, and a check is run once, no more than two links are ever made.  All others stay
what they were, and with ids left for two links, and for all programs that are asked for, probing does
not stop the program.
-/

namespace Bpf

variable {σ η α β κ : Type}

/-! ### Links by features -/

namespace AttachFeature

variable {feature feature' : AttachFeature} {attachType : AttachType}

theorem of_mem_makes (h : attachType ∈ feature.makes) :
  feature = .kprobeMulti ∧ attachType = .traceKprobeMulti
    ∨ feature = .uprobeMulti ∧ attachType = .traceUprobeMulti
  := by
  cases feature with
  | kprobeMulti => exact Or.inl ⟨rfl, List.mem_singleton.1 h⟩
  | uprobeMulti => exact Or.inr ⟨rfl, List.mem_singleton.1 h⟩
  | _ => cases h

/-- A link tells by its attach type whose check has made it. -/
theorem eq_of_mem_makes (h : attachType ∈ feature.makes) (h' : attachType ∈ feature'.makes) :
  feature = feature'
  := by
  obtain ⟨rfl, rfl⟩ | ⟨rfl, rfl⟩ := of_mem_makes h
  · obtain ⟨rfl, -⟩ | ⟨-, ⟨⟩⟩ := of_mem_makes h'
    rfl
  · obtain ⟨-, ⟨⟩⟩ | ⟨rfl, -⟩ := of_mem_makes h'
    rfl

theorem nodup_makes (feature : AttachFeature) :
  feature.makes.Nodup
  := by
  cases feature with
  | _ => decide

end AttachFeature

/-- The probe for a key is that of an entry with the key. -/
theorem Matrix.exists_entry_of_probe? [DecidableEq κ] {describe : κ → String}
    {entries : List (MatrixEntry κ σ)} {default : κ → Action σ Unit} {key : κ} {p : Probe σ}
    (h : (ofEntries describe entries default).probe? key = some p) :
  ∃ entry ∈ entries, entry.key = key ∧ p = entry.probe default
  := by
  rw [probe?_ofEntries] at h
  obtain ⟨entry, hentry, rfl⟩ := Option.map_eq_some_iff.1 h
  refine ⟨entry, List.mem_reverse.1 (List.mem_of_find?_eq_some hentry), ?_, rfl⟩
  simpa using List.find?_some hentry

/-! ### Attachments without a link -/

theorem Host.run_onKernel {action : Action σ α} {h : Host σ} {answer : Except Error α} {s : σ}
    (hrun : action.run.run h.kernel = (answer, s)) :
  (Host.onKernel action).run.run h = (answer, { h with kernel := s })
  := by
  rw [Host.onKernel, Action.run_onPart]
  exact congrArg (fun r => (r.1, ({ h with kernel := r.2 } : Host σ))) hrun

theorem Action.run_ofExcept {answer answer' : Except Error α} (h : answer = answer') (s : σ) :
  (ofExcept answer).run.run s = (answer', s)
  := by
  rw [h]
  rfl

section Attaching

variable {K : Kernel σ} {program : ProgramHandle} {a : Attachment} {h : Host σ} {d : Demand}
variable {e : Error} {s s' : σ}

/-- The kernel is not asked for the link when the attachment breaks a contract. -/
theorem attach_of_broken (hdemand : a.demand program = .error e) :
  (attach K program a).run.run h = (.error e, h)
  := by
  rw [attach, Action.run_bind_of_error (Action.run_ofExcept hdemand h)]

/-- Nor is it when the place in a chain cannot be resolved. -/
theorem attach_of_not_resolved (hdemand : a.demand program = .ok d)
    (hresolve : (d.resolve K).run.run h.kernel = (.error e, s)) :
  (attach K program a).run.run h = (.error e, { h with kernel := s })
  := by
  rw [attach, Action.run_bind_of_ok (Action.run_ofExcept hdemand h),
    Action.run_bind_of_error (Host.run_onKernel hresolve)]

/-- A request that is refused is explained, and that is all there is left to do. -/
theorem attach_of_refused {request : LinkRequest} (hdemand : a.demand program = .ok d)
    (hresolve : (d.resolve K).run.run h.kernel = (.ok request, s))
    (hsend : (request.send K).run.run s = (.error e, s')) :
  (attach K program a).run.run h
    = (.error ((d.explain K e).run { h with kernel := s' }).1,
        ((d.explain K e).run { h with kernel := s' }).2)
  := by
  have hrefused := Host.run_onKernel (h := { h with kernel := s }) hsend
  rw [attach, Action.run_bind_of_ok (Action.run_ofExcept hdemand h),
    Action.run_bind_of_ok (Host.run_onKernel hresolve), Action.run_attempt_bind, hrefused]
  rfl

/-- A new link is given a handle. -/
theorem attach_of_sent {request : LinkRequest} {fd : Descriptor} (hdemand : a.demand program = .ok d)
    (hresolve : (d.resolve K).run.run h.kernel = (.ok request, s))
    (hsend : (request.send K).run.run s = (.ok fd, s')) :
  (attach K program a).run.run h
    = (Host.onKernel (Link.ofNew K fd d.linkType)).run.run { h with kernel := s' }
  := by
  have hsent := Host.run_onKernel (h := { h with kernel := s }) hsend
  rw [attach, Action.run_bind_of_ok (Action.run_ofExcept hdemand h),
    Action.run_bind_of_ok (Host.run_onKernel hresolve), Action.run_attempt_bind, hsent]

end Attaching

namespace Memory

variable {settings : Settings} {script : Script η}

/-! ### Queries -/

/-- An attachment breaks a contract, or the kernel refuses the link.  To stop the program is no
refusal. -/
def Refuses (settings : Settings) (script : Script η) (m : Machine η) (program : ProgramHandle)
    (a : Attachment) : Prop :=
  ∀ d request m', a.demand program = .ok d →
    (d.resolve (kernel settings script)).run.run m = (.ok request, m') →
    let sent := (request.send (kernel settings script)).run.run m'
    sent.1.isOk = false ∧ sent.2.state.stopped = m'.state.stopped

/-- The host after features were asked for, or after a program could not be attached. -/
inductive Queried (settings : Settings) (script : Script η) (h : Host (Machine η)) :
    Host (Machine η) → Prop
  | ask (x : Feature) :
    Queried settings script h (((Probes.ofKernel (kernel settings script)).ask x).run h).2
  | probeAll : Queried settings script h ((Host.probeAll (kernel settings script)).run h).2
  | attach (program : ProgramHandle) (a : Attachment) (hfd : h.kernel.state.HasDescriptors)
      (hrefused : Refuses settings script h.kernel program a) :
    Queried settings script h ((Bpf.attach (kernel settings script) program a).run.run h).2

/-- The host after any number of queries. -/
abbrev Queries (settings : Settings) (script : Script η) :
    Host (Machine η) → Host (Machine η) → Prop :=
  Relation.ReflTransGen (Queried settings script)

/-! ### What a query makes -/

/-- A query to a matrix that asks for links finds no verdict under its key and leaves one there. -/
theorem growth_result [DecidableEq κ] {m : Matrix κ (Machine η)} {key : κ} {types : List AttachType}
    (hm : ∀ p, m.probe? key = some p → Grows types p.check) (verdicts : Verdicts κ)
    {machine : Machine η} (hvalid : machine.state.Valid) :
  ∃ asked, machine.state.Growth asked ((m.result key).run (verdicts, machine)).2.2.state
    ∧ (asked.map LinkRecord.attachType).Sublist types
    ∧ ∀ link ∈ asked, verdicts.get? key = none
      ∧ ((m.result key).run (verdicts, machine)).2.1.get? key ≠ none
  := by
  cases hanswer : m.answer? verdicts key with
  | some v =>
      rw [Matrix.run_result_of_answer? hanswer]
      refine ⟨[], .same, List.nil_sublist types, ?_⟩
      rintro link ⟨⟩
  | none =>
      obtain ⟨p, hp, hnone, hrun⟩ := Matrix.run_result_of_no_answer hanswer
      obtain ⟨asked, hgrowth, hasked⟩ := hm p hp machine hvalid
      rw [hrun]
      refine ⟨asked, hgrowth, hasked, ?_⟩
      intro link _
      refine ⟨hnone, ?_⟩
      rw [Assoc.get?_insert, if_pos rfl]
      apply Option.some_ne_none

/-- Where the check asks for no link, neither does the query. -/
theorem growth_nil_result [DecidableEq κ] {m : Matrix κ (Machine η)} {key : κ}
    (hm : ∀ p, m.probe? key = some p → Grows [] p.check) (verdicts : Verdicts κ)
    {machine : Machine η} (hvalid : machine.state.Valid) :
  machine.state.Growth [] ((m.result key).run (verdicts, machine)).2.2.state
  := by
  obtain ⟨asked, hgrowth, hasked, -⟩ := growth_result hm verdicts hvalid
  apply hgrowth.of_sublist_nil hasked

/-- Links of features with a verdict are of other attach types than links of features without. -/
theorem nodup_attachTypes_append (known : AttachFeature → Prop) {asked asked' : List LinkRecord}
    (h : (asked.map LinkRecord.attachType).Nodup) (h' : (asked'.map LinkRecord.attachType).Nodup)
    (hknown : ∀ link ∈ asked, ∃ feature : AttachFeature,
      link.attachType ∈ feature.makes ∧ known feature)
    (hunknown : ∀ link ∈ asked', ∃ feature : AttachFeature,
      link.attachType ∈ feature.makes ∧ ¬ known feature) :
  ((asked ++ asked').map LinkRecord.attachType).Nodup
  := by
  rw [List.map_append]
  apply h.append h'
  intro attachType hold hnew
  obtain ⟨link, hlink, rfl⟩ := List.mem_map.1 hold
  obtain ⟨link', hlink', heq⟩ := List.mem_map.1 hnew
  obtain ⟨feature, hmakes, hverdict⟩ := hknown link hlink
  obtain ⟨feature', hmakes', hnone⟩ := hunknown link' hlink'
  rw [heq] at hmakes'
  rw [AttachFeature.eq_of_mem_makes hmakes' hmakes] at hnone
  apply hnone hverdict

/-- Probing has asked for the links, each for a feature that had no verdict before and has one now. -/
structure Probed (K : Kernel (Machine η)) (h : Host (Machine η)) (asked : List LinkRecord)
    (h' : Host (Machine η)) : Prop where
  growth : h.kernel.state.Growth asked h'.kernel.state
  nodup : (asked.map LinkRecord.attachType).Nodup
  checked : ∀ link ∈ asked, ∃ feature : AttachFeature, link.attachType ∈ feature.makes
    ∧ h.features.verdict? (.attachment feature) = none
    ∧ h'.features.verdict? (.attachment feature) ≠ none
  kept : h'.features.Extends h.features
  sound : ∃ executed, Sound K h'.features executed

namespace Probed

variable {K : Kernel (Machine η)} {h h' h'' : Host (Machine η)} {asked asked' : List LinkRecord}

theorem verdict?_ne_none (hprobed : Probed K h asked h') {x : Feature}
    (hknown : h.features.verdict? x ≠ none) :
  h'.features.verdict? x ≠ none
  := by
  obtain ⟨v, hv⟩ := Option.ne_none_iff_exists'.1 hknown
  rw [hprobed.kept.verdict hv]
  apply Option.some_ne_none

/-- What asks for no link. -/
theorem of_growth_nil {m : Machine η} (hsound : ∃ executed, Sound K h.features executed)
    (hgrowth : h.kernel.state.Growth [] m.state) :
  Probed K h [] { h with kernel := m }
  := by
  constructor
  · apply hgrowth
  · apply List.nodup_nil
  · rintro link ⟨⟩
  · apply Features.Extends.refl
  · apply hsound

theorem trans (hfirst : Probed K h asked h') (hsecond : Probed K h' asked' h'') :
  Probed K h (asked ++ asked') h''
  := by
  constructor
  · apply hfirst.growth.trans hsecond.growth
  · apply nodup_attachTypes_append
      (fun feature => h'.features.verdict? (.attachment feature) ≠ none) hfirst.nodup hsecond.nodup
    · intro link hlink
      obtain ⟨feature, hmakes, -, hknown⟩ := hfirst.checked link hlink
      exact ⟨feature, hmakes, hknown⟩
    · intro link hlink
      obtain ⟨feature, hmakes, hnone, -⟩ := hsecond.checked link hlink
      exact ⟨feature, hmakes, not_not.2 hnone⟩
  · intro link hlink
    obtain hold | hnew := List.mem_append.1 hlink
    · obtain ⟨feature, hmakes, hnone, hknown⟩ := hfirst.checked link hold
      exact ⟨feature, hmakes, hnone, hsecond.verdict?_ne_none hknown⟩
    · obtain ⟨feature, hmakes, hnone, hknown⟩ := hsecond.checked link hnew
      refine ⟨feature, hmakes, ?_, hknown⟩
      by_contra hearlier
      apply hfirst.verdict?_ne_none hearlier hnone
  · apply hfirst.kept.trans hsecond.kept
  · apply hsecond.sound

end Probed

/-! ### Queries one by one -/

/-- Whatever a step with a host does is probing. -/
def Probing (K : Kernel (Machine η)) (step : StateM (Host (Machine η)) α) : Prop :=
  ∀ h : Host (Machine η), h.kernel.state.Valid → (∃ executed, Sound K h.features executed) →
    ∃ asked, Probed K h asked (step.run h).2

namespace Probing

variable {K : Kernel (Machine η)}

theorem pure (a : α) :
  Probing K (Pure.pure a)
  := by
  intro h _ hsound
  exact ⟨[], Probed.of_growth_nil hsound .same⟩

theorem bind {x : StateM (Host (Machine η)) α} {f : α → StateM (Host (Machine η)) β}
    (hx : Probing K x) (hf : ∀ a, Probing K (f a)) :
  Probing K (x >>= f)
  := by
  intro h hvalid hsound
  obtain ⟨asked, hfirst⟩ := hx h hvalid hsound
  obtain ⟨asked', hsecond⟩ :=
    hf (x.run h).1 (x.run h).2 (hvalid.steps hfirst.growth.steps) hfirst.sound
  exact ⟨asked ++ asked', hfirst.trans hsecond⟩

theorem discard {x : StateM (Host (Machine η)) α} (hx : Probing K x) :
  Probing K (Functor.discard x)
  := hx.bind fun _ => pure ()

theorem forM {features : List Feature} {f : Feature → StateM (Host (Machine η)) Unit}
    (hf : ∀ x, Probing K (f x)) :
  Probing K (features.forM f)
  := by
  induction features with
  | nil => apply pure
  | cons x features ih =>
      rw [List.forM]
      apply (hf x).bind
      intro _
      apply ih

/-- A query keeps what is known, so what is left to see is what it asks for. -/
theorem of_ask {x : Feature}
    (hask : ∀ h : Host (Machine η), h.kernel.state.Valid → (∃ executed, Sound K h.features executed) →
      ∃ asked, h.kernel.state.Growth asked (((Probes.ofKernel K).ask x).run h).2.kernel.state
        ∧ (asked.map LinkRecord.attachType).Nodup
        ∧ ∀ link ∈ asked, ∃ feature : AttachFeature, link.attachType ∈ feature.makes
          ∧ h.features.verdict? (.attachment feature) = none
          ∧ (((Probes.ofKernel K).ask x).run h).2.features.verdict? (.attachment feature) ≠ none) :
  Probing K ((Probes.ofKernel K).ask x)
  := by
  intro h hvalid hsound
  obtain ⟨asked, hgrowth, hnodup, hchecked⟩ := hask h hvalid hsound
  obtain ⟨executed, hS⟩ := hsound
  obtain ⟨log, -, hS', hextends⟩ := Probes.follows_ask K x h { executed } hS
  exact ⟨asked, hgrowth, hnodup, hchecked, hextends, log.executed, hS'⟩

end Probing

section Asking

variable (settings : Settings) (script : Script η)

theorem grows_probe_programType (t : ProgramType) {p : Probe (Machine η)}
    (h : (ProgramType.matrix (kernel settings script)).probe? t = some p) :
  Grows [] p.check
  := by
  rw [ProgramType.probe?_matrix] at h
  obtain ⟨entry, -, rfl⟩ := Option.map_eq_some_iff.1 h
  apply grows_checkType

theorem grows_probe_insn (feature : InsnFeature) {p : Probe (Machine η)}
    (h : (InsnFeature.matrix (kernel settings script)).probe? feature = some p) :
  Grows [] p.check
  := by
  obtain ⟨entry, hentry, -, rfl⟩ := Matrix.exists_entry_of_probe? h
  obtain ⟨feature', -, rfl⟩ := List.mem_map.1 hentry
  apply grows_checkProgram

theorem grows_probe_attachment (feature : AttachFeature) {p : Probe (Machine η)}
    (h : (AttachFeature.matrix (kernel settings script)).probe? feature = some p) :
  Grows feature.makes p.check
  := by
  obtain ⟨entry, hentry, hkey, rfl⟩ := Matrix.exists_entry_of_probe? h
  obtain ⟨feature', -, rfl⟩ := List.mem_map.1 hentry
  obtain rfl : feature' = feature := hkey
  apply grows_checkAttachment

/-- The check for a call asks for no link. -/
theorem growth_helperCall (call : HelperCall) (verdicts : Verdicts ProgramType) {m : Machine η}
    (hvalid : m.state.Valid) :
  m.state.Growth [] (((Probes.ofKernel (kernel settings script)).helperCall call).run.run
    (verdicts, m)).2.2.state
  := by
  rw [Probe.run_run]
  show m.state.Growth [] ((HelperCall.check (ProgramType.matrix (kernel settings script))
    (HelperCall.tryLoad (kernel settings script) call) call).run.run (verdicts, m)).2.2.state
  have hgrowth := growth_nil_result
    (fun _ => grows_probe_programType settings script call.programType) verdicts hvalid
  rw [HelperCall.run_check]
  rcases hrun : ((ProgramType.matrix (kernel settings script)).result call.programType).run
    (verdicts, m) with ⟨e | _, verdicts', m'⟩
  · rw [hrun] at hgrowth
    apply hgrowth
  · rw [hrun] at hgrowth
    apply hgrowth.trans ((grows_tryLoad call).growth_nil (hvalid.steps hgrowth.steps))

/-- A query about any feature is probing. -/
theorem probing_ask (x : Feature) :
  Probing (kernel settings script) ((Probes.ofKernel (kernel settings script)).ask x)
  := by
  apply Probing.of_ask
  intro h hvalid hsound
  cases x with
  | programType t =>
      refine ⟨[], ?_, List.nodup_nil, by rintro link ⟨⟩⟩
      apply growth_nil_result (fun _ => grows_probe_programType settings script t) _ hvalid
  | insn feature =>
      refine ⟨[], ?_, List.nodup_nil, by rintro link ⟨⟩⟩
      apply growth_nil_result (fun _ => grows_probe_insn settings script feature) _ hvalid
  | attachment feature =>
      obtain ⟨asked, hgrowth, hasked, hknown⟩ := growth_result
        (fun _ => grows_probe_attachment settings script feature) h.features.attachments hvalid
      refine ⟨asked, hgrowth, hasked.nodup feature.nodup_makes, ?_⟩
      intro link hlink
      exact ⟨feature, hasked.subset (List.mem_map_of_mem hlink), hknown link hlink⟩
  | helperCall call =>
      refine ⟨[], ?_, List.nodup_nil, by rintro link ⟨⟩⟩
      obtain ⟨executed, hS⟩ := hsound
      cases hanswer : (Probes.ofKernel (kernel settings script)).answer? h.features
        (.helperCall call) with
      | some v =>
          rw [Probes.run_ask_of_answer? hS.known hanswer]
          apply State.Growth.same
      | none =>
          rw [Probes.answer?] at hanswer
          split at hanswer
          next => cases hanswer
          next hexcluded =>
            rw [Probes.run_ask_helperCall hexcluded hanswer hS.eq_helperCall]
            apply growth_helperCall settings script call h.features.programTypes hvalid

theorem probing_probeAll :
  Probing (kernel settings script) (Host.probeAll (kernel settings script))
  := by
  apply Probing.bind
  · apply Probing.forM
    intro x
    apply (probing_ask settings script x).discard
  · intro _ h _ hsound
    exact ⟨[], Probed.of_growth_nil hsound .same⟩

theorem probing_explain (d : Demand) (refusal : Error) :
  Probing (kernel settings script) (d.explain (kernel settings script) refusal)
  := by
  obtain ⟨program, order, linkType, feature, missing⟩ := d
  have hfeature : Probing (kernel settings script)
      (Demand.explain (kernel settings script) ⟨program, order, linkType, feature, none⟩ refusal) := by
    cases feature with
    | none => apply Probing.pure
    | some feature =>
        apply (probing_ask settings script (.attachment feature)).bind
        intro verdict
        cases verdict with
        | ok _ => apply Probing.pure
        | error e => apply Probing.pure
  cases missing with
  | none => apply hfeature
  | some what =>
      unfold Demand.explain
      dsimp only
      split
      next => apply Probing.pure
      next => apply hfeature

/-- To look counts commands, and that is all. -/
theorem growth_of_looks {m m' : Machine η}
    (h : (kernel settings script).Leads Request.Looks m m') :
  m.state.Growth [] m'.state
  := by
  induction h with
  | refl => apply State.Growth.same
  | tail _ hnext ih =>
      obtain ⟨request, hkind, rfl⟩ := hnext
      cases request with
      | programInfo fd => apply ih
      | objectType fd => apply ih
      | linkInfo fd => apply ih.count
      | _ => cases hkind

/-- A request for a link that is refused although descriptors can be opened is counted, and that is
all. -/
theorem growth_send_of_refused {request : LinkRequest} {m : Machine η}
    (hfd : m.state.HasDescriptors)
    (hfailed : ((request.send (kernel settings script)).run.run m).1.isOk = false)
    (hstopped : ((request.send (kernel settings script)).run.run m).2.state.stopped
      = m.state.stopped) :
  m.state.Growth [] ((request.send (kernel settings script)).run.run m).2.state
  := by
  -- A state that has stopped already may be stopped once more, which changes nothing.
  have hsame {call : String} {s' : State}
      (h : s' = m.state.counted call ∨ s' = (m.state.counted call).halted)
      (hstopped : s'.stopped = m.state.stopped) : m.state.Growth [] s' := by
    have hs' : s' = m.state.counted call := by
      rcases h with rfl | rfl
      · rfl
      · apply State.halted_of_stopped (s := m.state.counted call) hstopped.symm
    rw [hs']
    apply State.Growth.same.count
  cases request with
  | create c =>
      have hsend : (LinkRequest.create c).send (kernel settings script)
          = (do Machine.count Command.linkCreate
                Machine.permit script.createLink c
                Machine.change (State.createLink c)) := rfl
      rw [hsend] at hfailed hstopped ⊢
      obtain ⟨e, state, hrun⟩ | ⟨state, hrun⟩ := Machine.run_permitted_cases Command.linkCreate
        script.createLink c (State.createLink c) m
      · rw [hrun]
        apply State.Growth.same.count
      · rw [hrun] at hfailed hstopped ⊢
        rcases hcreate : (State.createLink c).run.run (m.state.counted Command.linkCreate)
          with ⟨e | fd, s'⟩
        · rw [hcreate] at hstopped
          apply hsame (State.failsUnchanged_createLink c _ e s' hfd hcreate) hstopped
        · rw [hcreate] at hfailed
          cases hfailed
  | tracepoint name fd =>
      have hsend : (LinkRequest.tracepoint name fd).send (kernel settings script)
          = (do Machine.count Command.rawTracepointOpen
                Machine.change (State.openRawTracepoint name fd)) := rfl
      rw [hsend] at hfailed hstopped ⊢
      rcases hopen : (State.openRawTracepoint name fd).run.run
        (m.state.counted Command.rawTracepointOpen) with ⟨e | fd', s'⟩
      · rw [Machine.run_request hopen] at hstopped ⊢
        apply hsame (State.failsUnchanged_openRawTracepoint name fd _ e s' hfd hopen) hstopped
      · rw [Machine.run_request hopen] at hfailed
        cases hfailed

/-- An attachment for which no link is made is nothing but probing. -/
theorem probed_attach {h : Host (Machine η)} (hvalid : h.kernel.state.Valid)
    (hsound : ∃ executed, Sound (kernel settings script) h.features executed)
    (hfd : h.kernel.state.HasDescriptors) {program : ProgramHandle} {a : Attachment}
    (hrefused : Refuses settings script h.kernel program a) :
  ∃ asked, Probed (kernel settings script) h asked
    ((attach (kernel settings script) program a).run.run h).2
  := by
  cases hdemand : a.demand program with
  | error e =>
      rw [attach_of_broken hdemand]
      exact ⟨[], Probed.of_growth_nil hsound .same⟩
  | ok d =>
      have hlooked := Demand.asks_resolve (kernel settings script) d h.kernel
      rcases hresolve : (d.resolve (kernel settings script)).run.run h.kernel with ⟨e | request, m⟩
      · rw [hresolve] at hlooked
        rw [attach_of_not_resolved hdemand hresolve]
        exact ⟨[], Probed.of_growth_nil hsound (growth_of_looks settings script hlooked)⟩
      · rw [hresolve] at hlooked
        have hgrowth := growth_of_looks settings script hlooked
        obtain ⟨hfailed, hstopped⟩ := hrefused d request m hdemand hresolve
        have hsent := growth_send_of_refused settings script (hgrowth.device_eq.trans hfd) hfailed
          hstopped
        rcases hsend : (request.send (kernel settings script)).run.run m with ⟨refusal | fd, m'⟩
        · rw [hsend] at hsent
          rw [attach_of_refused hdemand hresolve hsend]
          have hfirst : Probed (kernel settings script) h [] { h with kernel := m' } :=
            Probed.of_growth_nil hsound (hgrowth.trans hsent)
          obtain ⟨asked, hsecond⟩ := probing_explain settings script d refusal
            { h with kernel := m' } (hvalid.steps hfirst.growth.steps) hfirst.sound
          exact ⟨[] ++ asked, hfirst.trans hsecond⟩
        · rw [hsend] at hfailed
          cases hfailed

theorem probed_of_queried {h h' : Host (Machine η)} (hvalid : h.kernel.state.Valid)
    (hsound : ∃ executed, Sound (kernel settings script) h.features executed)
    (hqueried : Queried settings script h h') :
  ∃ asked, Probed (kernel settings script) h asked h'
  := by
  cases hqueried with
  | ask x => apply probing_ask settings script x h hvalid hsound
  | probeAll => apply probing_probeAll settings script h hvalid hsound
  | attach program a hfd hrefused =>
      apply probed_attach settings script hvalid hsound hfd hrefused

/-- Any number of queries. -/
theorem probed_of_queries {h h' : Host (Machine η)} (hvalid : h.kernel.state.Valid)
    (hsound : ∃ executed, Sound (kernel settings script) h.features executed)
    (hqueries : Queries settings script h h') :
  ∃ asked, Probed (kernel settings script) h asked h'
  := by
  induction hqueries with
  | refl => exact ⟨[], Probed.of_growth_nil hsound .same⟩
  | tail _ hqueried ih =>
      obtain ⟨asked, hfirst⟩ := ih
      obtain ⟨asked', hsecond⟩ :=
        probed_of_queried settings script (hvalid.steps hfirst.growth.steps) hfirst.sound hqueried
      exact ⟨asked ++ asked', hfirst.trans hsecond⟩

end Asking

/-! ### The life of a host -/

/-- A host has been on a kernel in memory since that was new.  Features were asked for and refusals
explained, in between anything could happen to the kernel, and all links that probing has added are
listed. -/
inductive Life (settings : Settings) (script : Script η) :
    Host (Machine η) → List LinkRecord → Prop
  | new (state : η) : Life settings script (.new (.fresh state)) []
  | queried {h h' : Host (Machine η)} {made : List LinkRecord} (hlife : Life settings script h made)
      (hqueried : Queried settings script h h') :
    Life settings script h' (made ++ h.kernel.state.added h'.kernel.state)
  | elsewhere {h : Host (Machine η)} {made : List LinkRecord} (hlife : Life settings script h made)
      (event : Event) :
    Life settings script { h with kernel := event.applyUnder settings script h.kernel } made

/-- The links that probing has added are of different attach types, each of a feature with a
verdict. -/
structure Accounted (K : Kernel (Machine η)) (h : Host (Machine η)) (made : List LinkRecord) :
    Prop where
  valid : h.kernel.state.Valid
  ahead : h.kernel.state.Ahead
  numbered : h.kernel.state.Numbered
  paid : h.kernel.state.Paid
  sound : ∃ executed, Sound K h.features executed
  nodup : (made.map LinkRecord.attachType).Nodup
  checked : ∀ link ∈ made, ∃ feature : AttachFeature, link.attachType ∈ feature.makes
    ∧ h.features.verdict? (.attachment feature) ≠ none

/-- Links of different attach types that are made for features are at most two. -/
theorem length_le_two {made : List LinkRecord} (hnodup : (made.map LinkRecord.attachType).Nodup)
    (hmakes : ∀ link ∈ made, ∃ feature : AttachFeature, link.attachType ∈ feature.makes) :
  made.length ≤ 2
  := by
  have hsubset : made.map LinkRecord.attachType ⊆ [.traceKprobeMulti, .traceUprobeMulti] := by
    intro attachType hmem
    obtain ⟨link, hlink, rfl⟩ := List.mem_map.1 hmem
    obtain ⟨feature, hfeature⟩ := hmakes link hlink
    obtain ⟨-, heq⟩ | ⟨-, heq⟩ := AttachFeature.of_mem_makes hfeature
    · rw [heq]
      apply List.mem_cons_self
    · rw [heq]
      apply List.mem_cons_of_mem _ List.mem_cons_self
  have hle := (List.subperm_of_subset hnodup hsubset).length_le
  rwa [List.length_map] at hle

/-- Probing asks for at most two links. -/
theorem Probed.length_le_two {K : Kernel (Machine η)} {h h' : Host (Machine η)}
    {asked : List LinkRecord} (hprobed : Probed K h asked h') :
  asked.length ≤ 2
  := by
  apply Memory.length_le_two hprobed.nodup
  intro link hlink
  obtain ⟨feature, hfeature, -⟩ := hprobed.checked link hlink
  exact ⟨feature, hfeature⟩

/-- With ids left for two links, and for all programs that are asked for, probing does not stop the
program. -/
theorem Probed.stopped_eq {K : Kernel (Machine η)} {h h' : Host (Machine η)}
    {asked : List LinkRecord} (hprobed : Probed K h asked h') (hpaid : h.kernel.state.Paid)
    (hlinks : h.kernel.state.nextLinkId ≤ 0xfffffffd)
    (hloads : h'.kernel.state.callCount Command.progLoad < 0xffffffff) :
  h'.kernel.state.stopped = h.kernel.state.stopped
  := by
  apply hprobed.growth.stopped_eq hpaid _ hloads
  have hlength := hprobed.length_le_two
  have hnext := UInt32.le_iff_toNat_le.1 hlinks
  have hbound : (0xfffffffd : UInt32).toNat = 4294967293 := rfl
  have hlast : lastId.toNat = 4294967295 := rfl
  omega

theorem Accounted.after {K : Kernel (Machine η)} {h h' : Host (Machine η)}
    {made asked : List LinkRecord} (haccounted : Accounted K h made)
    (hprobed : Probed K h asked h') :
  Accounted K h' (made ++ h.kernel.state.added h'.kernel.state)
  := by
  have hadded := hprobed.growth.subperm_added haccounted.valid
  have hsteps := hprobed.growth.steps
  constructor
  · apply haccounted.valid.steps hsteps
  · apply haccounted.ahead.steps hsteps
  · apply haccounted.numbered.steps hsteps
  · apply haccounted.paid.steps hsteps
  · apply hprobed.sound
  · apply nodup_attachTypes_append
      (fun feature => h.features.verdict? (.attachment feature) ≠ none) haccounted.nodup
    · obtain ⟨asked', hperm, hsublist⟩ := hadded
      apply (hperm.map LinkRecord.attachType).nodup_iff.1
      apply (hsublist.map LinkRecord.attachType).nodup hprobed.nodup
    · apply haccounted.checked
    · intro link hlink
      obtain ⟨feature, hmakes, hnone, -⟩ := hprobed.checked link (hadded.subset hlink)
      exact ⟨feature, hmakes, not_not.2 hnone⟩
  · intro link hlink
    obtain hold | hnew := List.mem_append.1 hlink
    · obtain ⟨feature, hmakes, hknown⟩ := haccounted.checked link hold
      exact ⟨feature, hmakes, hprobed.verdict?_ne_none hknown⟩
    · obtain ⟨feature, hmakes, -, hknown⟩ := hprobed.checked link (hadded.subset hnew)
      exact ⟨feature, hmakes, hknown⟩

theorem Life.accounted {h : Host (Machine η)} {made : List LinkRecord}
    (hlife : Life settings script h made) :
  Accounted (kernel settings script) h made
  := by
  induction hlife with
  | new state =>
      constructor
      · apply State.valid_initial
      · apply State.ahead_initial
      · rintro id programType ⟨⟩
      · have hfresh : (Machine.fresh state).ReachableUnder settings script := .fresh state
        apply hfresh.paid
      · exact ⟨[], Sound.unknown _⟩
      · apply List.nodup_nil
      · rintro link ⟨⟩
  | queried _ hqueried ih =>
      obtain ⟨asked, hprobed⟩ := probed_of_queried settings script ih.valid ih.sound hqueried
      apply ih.after hprobed
  | elsewhere _ event ih =>
      constructor
      · apply event.valid_applyUnder settings script ih.valid
      · apply event.ahead_applyUnder ih.ahead
      · apply event.numbered_applyUnder ih.numbered
      · apply event.paid_applyUnder ih.paid
      · apply ih.sound
      · apply ih.nodup
      · apply ih.checked

/-- Every state that can be reached is one in which a life can begin. -/
theorem Life.of_reachableUnder {m : Machine η} (hm : m.ReachableUnder settings script) :
  Life settings script (.new m) []
  := by
  induction hm with
  | fresh state => apply Life.new
  | after _ event ih => apply ih.elsewhere event

/-- Probing adds at most two links in the life of a host, one of each of two attach types, whatever the
script does.  Queries about features, also those that explain why no link could be made for an
attachment, leave everything as it was, and what they add has ids from the next ones on.  With ids left
for two links, and for all programs that are ever asked for, they do not stop the program. -/
theorem probing_only_adds (settings : Settings) (script : Script η) :
  (∀ host made, Life settings script host made →
    made.length ≤ 2 ∧ (made.map LinkRecord.attachType).Nodup
      ∧ ∀ link ∈ made, link.attachType = .traceKprobeMulti ∨ link.attachType = .traceUprobeMulti)
  ∧ (∀ host host' made, Life settings script host made → Queries settings script host host' →
    host.kernel.state.Within host'.kernel.state
      ∧ (host.kernel.state.nextLinkId ≤ 0xfffffffd →
        host'.kernel.state.callCount Command.progLoad < 0xffffffff →
        host'.kernel.state.stopped = host.kernel.state.stopped))
  := by
  constructor
  · intro host made hlife
    have haccounted := hlife.accounted
    have hmakes (link : LinkRecord) (hlink : link ∈ made) :
        ∃ feature : AttachFeature, link.attachType ∈ feature.makes := by
      obtain ⟨feature, hfeature, -⟩ := haccounted.checked link hlink
      exact ⟨feature, hfeature⟩
    refine ⟨length_le_two haccounted.nodup hmakes, haccounted.nodup, ?_⟩
    intro link hlink
    obtain ⟨feature, hfeature⟩ := hmakes link hlink
    obtain ⟨-, heq⟩ | ⟨-, heq⟩ := AttachFeature.of_mem_makes hfeature
    · exact .inl heq
    · exact .inr heq
  · intro host host' made hlife hqueries
    have haccounted := hlife.accounted
    obtain ⟨asked, hprobed⟩ :=
      probed_of_queries settings script haccounted.valid haccounted.sound hqueries
    exact ⟨hprobed.growth.within haccounted.ahead haccounted.numbered,
      hprobed.stopped_eq haccounted.paid⟩

/-- The host after a query about a feature. -/
def afterAsking (host : Host (Machine Unit)) (feature : AttachFeature) : Host (Machine Unit) :=
  (((Probes.ofKernel (kernel {} {})).ask (.attachment feature)).run host).2

theorem queried_afterAsking (host : Host (Machine Unit)) (feature : AttachFeature) :
  Queried {} {} host (afterAsking host feature)
  := .ask (.attachment feature)

/-- On a kernel that was told of a link, and has ids left for just two more, both features are asked
for. -/
theorem probing_only_adds_two :
  let start : Host (Machine Unit) := .new (toldOf 0xfffffffc)
  let first := afterAsking start .kprobeMulti
  let second := afterAsking first .uprobeMulti
  let made := start.kernel.state.added first.kernel.state
    ++ first.kernel.state.added second.kernel.state
  Life {} {} start [] ∧ Life {} {} second made
    ∧ made.map (fun link => (link.id, link.attachType))
      = [(0xfffffffd, .traceKprobeMulti), (0xfffffffe, .traceUprobeMulti)]
    ∧ made.length ≤ 2
    ∧ start.kernel.state.Within second.kernel.state
    ∧ second.kernel.state.stopped = false
  := by
  intro start first second made
  have hstart : Life {} {} start [] := Life.of_reachableUnder (reachableUnder_toldOf _)
  have hsecond : Life {} {} second made :=
    (hstart.queried (queried_afterAsking start .kprobeMulti)).queried
      (queried_afterAsking first .uprobeMulti)
  have hqueries : Queries {} {} start second :=
    (Relation.ReflTransGen.single (queried_afterAsking start .kprobeMulti)).tail
      (queried_afterAsking first .uprobeMulti)
  obtain ⟨hcount, hkept⟩ := probing_only_adds {} ({} : Script Unit)
  obtain ⟨hwithin, hstopped⟩ := hkept start second [] hstart hqueries
  refine ⟨hstart, hsecond, by decide +kernel, (hcount second made hsecond).1, hwithin, ?_⟩
  apply hstopped (by decide +kernel) (by decide +kernel)

end Memory

end Bpf
