import Bpf.Proofs.Probing

/-!
# Refused attachments

When a kernel refuses an attachment, the error number alone seldom tells why.  `Attachment.feature`
lists the features that are looked up then, and `Attachment.missing` the one refusal that needs no
looking up.  What is found out about a feature stays known, whatever a host does later
(`Host.Move`), so a feature is probed at the first refusal that it has to explain, if nobody has asked
for it before, and explains all later ones in the same way.  All of this holds of every kernel.
-/

namespace Bpf

variable {σ : Type}

/-! ### What explains a refusal -/

namespace Attachment

/-- The feature that is looked up when the kernel refuses an attachment. -/
def feature : Attachment → Option AttachFeature
  | .raw .. => some .bpfLink
  | .cgroup .. => some .bpfLink
  | .netNs .. => some .bpfLink
  | .xdp .. => some .bpfLink
  | .netfilter .. => some .bpfLink
  | .perfEvent .. => some .bpfLink
  | .tcx _ => some .tcx
  | .netkit _ => some .netkit
  | .kprobeMulti _ => some .kprobeMulti
  | .uprobeMulti _ => some .uprobeMulti
  | .rawTracepoint _ => none
  | .tracing _ cookie => if cookie = 0 then none else some .bpfLink

/-- What there is none of when the kernel refuses an attachment with that error number. -/
def missing (refusal : Error) : Attachment → Option String
  | .kprobeMulti _ =>
    if refusal.isErrno Errno.esrch then some "attach kprobe multi: one or more symbols" else none
  | _ => none

/-- The kernel is asked for a link for an attachment, and that is its answer. -/
def Answered (K : Kernel σ) (s : σ) (program : ProgramHandle) (a : Attachment)
    (answer : Except Error Descriptor) (s' : σ) : Prop :=
  ∃ d request t, a.demand program = .ok d ∧ (d.resolve K).run.run s = (.ok request, t)
    ∧ (request.send K).run.run t = (answer, s')

end Attachment

/-- The error for a refusal once there is a verdict on the feature behind it. -/
def Verdict.explain (refusal : Error) : Verdict → Error
  | .ok () => refusal
  | .error e => .feature e

namespace Attachment

section Demands

variable {program : ProgramHandle} {a : Attachment} {d : Demand}

theorem feature_of_rawDemand {target : UInt32} {attachType : AttachType} {targetBtfId flags : UInt32}
    (h : rawDemand program target attachType targetBtfId flags = .ok d) :
  d.feature = some .bpfLink ∧ d.missing = none
  := by
  obtain ⟨fd, -, h⟩ := exists_of_bind_eq_ok h
  cases h
  exact ⟨rfl, rfl⟩

theorem feature_of_chainDemand {what : String} {feature : AttachFeature} {place : ChainPlace}
    (h : chainDemand what feature program place = .ok d) :
  d.feature = some feature ∧ d.missing = none
  := by
  obtain ⟨u, -, h⟩ := exists_of_bind_eq_ok h
  obtain ⟨fd, -, h⟩ := exists_of_bind_eq_ok h
  cases h
  exact ⟨rfl, rfl⟩

theorem feature_of_kprobeDemand {probes : KprobeMulti} (h : kprobeDemand program probes = .ok d) :
  d.feature = some .kprobeMulti ∧ d.missing = some "attach kprobe multi: one or more symbols"
  := by
  obtain ⟨count, -, h⟩ := exists_of_bind_eq_ok h
  obtain ⟨u, -, h⟩ := exists_of_bind_eq_ok h
  obtain ⟨symbols, -, h⟩ := exists_of_bind_eq_ok h
  obtain ⟨fd, -, h⟩ := exists_of_bind_eq_ok h
  cases h
  exact ⟨rfl, rfl⟩

theorem feature_of_uprobeDemand {probes : UprobeMulti} (h : uprobeDemand program probes = .ok d) :
  d.feature = some .uprobeMulti ∧ d.missing = none
  := by
  unfold uprobeDemand at h
  dsimp only at h
  split at h
  next => cases h
  next =>
    obtain ⟨u, -, h⟩ := exists_of_bind_eq_ok h
    obtain ⟨u, -, h⟩ := exists_of_bind_eq_ok h
    obtain ⟨path, -, h⟩ := exists_of_bind_eq_ok h
    obtain ⟨fd, -, h⟩ := exists_of_bind_eq_ok h
    cases h
    exact ⟨rfl, rfl⟩

theorem feature_of_tracingDemand {attachType : AttachType} {cookie : UInt64}
    (h : tracingDemand program attachType cookie = .ok d) :
  d.feature = (if cookie = 0 then none else some .bpfLink) ∧ d.missing = none
  := by
  obtain ⟨u, -, h⟩ := exists_of_bind_eq_ok h
  obtain ⟨fd, -, h⟩ := exists_of_bind_eq_ok h
  split at h
  next hcookie =>
    cases h
    exact ⟨(if_pos hcookie).symm, rfl⟩
  next hcookie =>
    cases h
    exact ⟨(if_neg hcookie).symm, rfl⟩

/-- The demand of an attachment names the feature, and what is missing if that is how the kernel
refuses. -/
theorem feature_of_demand (h : a.demand program = .ok d) :
  d.feature = a.feature
    ∧ ∀ refusal, a.missing refusal = d.missing.filter fun _ => refusal.isErrno Errno.esrch
  := by
  have hnothing (feature : Option AttachFeature) (hd : d.feature = feature ∧ d.missing = none) :
      d.feature = feature
        ∧ ∀ refusal : Error, none = d.missing.filter fun _ => refusal.isErrno Errno.esrch := by
    refine ⟨hd.1, ?_⟩
    intro refusal
    rw [hd.2]
    rfl
  cases a with
  | raw target attachType targetBtfId flags => exact hnothing _ (feature_of_rawDemand h)
  | cgroup group attachType =>
      obtain ⟨u, -, h⟩ := exists_of_bind_eq_ok h
      exact hnothing _ (feature_of_rawDemand h)
  | netNs space attachType =>
      obtain ⟨u, -, h⟩ := exists_of_bind_eq_ok h
      exact hnothing _ (feature_of_rawDemand h)
  | xdp interface flags =>
      obtain ⟨u, -, h⟩ := exists_of_bind_eq_ok h
      exact hnothing _ (feature_of_rawDemand h)
  | tcx place =>
      obtain ⟨u, -, h⟩ := exists_of_bind_eq_ok h
      exact hnothing _ (feature_of_chainDemand h)
  | netkit place =>
      obtain ⟨u, -, h⟩ := exists_of_bind_eq_ok h
      exact hnothing _ (feature_of_chainDemand h)
  | kprobeMulti probes =>
      obtain ⟨hfeature, hmissing⟩ := feature_of_kprobeDemand h
      refine ⟨hfeature, ?_⟩
      intro refusal
      rw [hmissing, missing, Option.filter_some]
  | uprobeMulti probes => exact hnothing _ (feature_of_uprobeDemand h)
  | netfilter family hook priority flags =>
      obtain ⟨fd, -, h⟩ := exists_of_bind_eq_ok h
      cases h
      exact hnothing _ ⟨rfl, rfl⟩
  | perfEvent event cookie =>
      obtain ⟨fd, -, h⟩ := exists_of_bind_eq_ok h
      cases h
      exact hnothing _ ⟨rfl, rfl⟩
  | rawTracepoint name =>
      rw [demand] at h
      split at h
      next => cases h
      next =>
        obtain ⟨tracepoint, -, h⟩ := exists_of_bind_eq_ok h
        obtain ⟨fd, -, h⟩ := exists_of_bind_eq_ok h
        cases h
        exact hnothing _ ⟨rfl, rfl⟩
  | tracing attachType cookie => exact hnothing _ (feature_of_tracingDemand h)

end Demands

end Attachment

/-! ### Explanations -/

/-- What is missing explains a refusal, or else the verdict on the feature, if there is one behind the
attachment. -/
theorem Demand.explain_eq (K : Kernel σ) (d : Demand) (refusal : Error) :
  d.explain K refusal
    = match d.missing.filter fun _ => refusal.isErrno Errno.esrch with
      | some what => pure (.notFound what)
      | none =>
        match d.feature with
        | none => pure refusal
        | some feature => (Verdict.explain refusal) <$> Host.haveAttachFeature K feature
  := by
  obtain ⟨program, order, linkType, feature, missing⟩ := d
  have hfeature : explain K ⟨program, order, linkType, feature, none⟩ refusal
      = match feature with
        | none => pure refusal
        | some feature => (Verdict.explain refusal) <$> Host.haveAttachFeature K feature := by
    cases feature with
    | none => rfl
    | some feature =>
        dsimp only
        rw [map_eq_pure_bind]
        unfold explain
        dsimp only
        apply bind_congr
        intro verdict
        cases verdict with
        | ok _ => rfl
        | error e => rfl
  cases missing with
  | none => apply hfeature
  | some what =>
      cases hmissing : refusal.isErrno Errno.esrch with
      | true =>
          simp only [explain, hmissing, if_true, Option.filter_some]
      | false =>
          simp only [Option.filter_some, Bool.false_eq_true, if_false]
          rw [← hfeature]
          simp only [explain, hmissing, Bool.false_eq_true, if_false]

section Attaching

variable {K : Kernel σ} {h : Host σ} {program : ProgramHandle} {a : Attachment} {e : Error} {s : σ}

theorem attach_of_missing {what : String} (hanswer : a.Answered K h.kernel program (.error e) s)
    (hmissing : a.missing e = some what) :
  (attach K program a).run.run h = (.error (.notFound what), { h with kernel := s })
  := by
  obtain ⟨d, request, t, hdemand, hresolve, hsend⟩ := hanswer
  rw [attach_of_refused hdemand hresolve hsend, Demand.explain_eq,
    ← (Attachment.feature_of_demand hdemand).2, hmissing]
  rfl

theorem attach_of_no_feature (hanswer : a.Answered K h.kernel program (.error e) s)
    (hmissing : a.missing e = none) (hfeature : a.feature = none) :
  (attach K program a).run.run h = (.error e, { h with kernel := s })
  := by
  obtain ⟨d, request, t, hdemand, hresolve, hsend⟩ := hanswer
  obtain ⟨hd, hwhat⟩ := Attachment.feature_of_demand hdemand
  rw [attach_of_refused hdemand hresolve hsend, Demand.explain_eq, ← hwhat, hmissing, hd, hfeature]
  rfl

/-- A refusal is explained by a query about the feature, which goes on from where the kernel is. -/
theorem attach_of_feature {feature : AttachFeature}
    (hanswer : a.Answered K h.kernel program (.error e) s) (hmissing : a.missing e = none)
    (hfeature : a.feature = some feature) :
  (attach K program a).run.run h
    = (.error (((Host.haveAttachFeature K feature).run { h with kernel := s }).1.explain e),
        ((Host.haveAttachFeature K feature).run { h with kernel := s }).2)
  := by
  obtain ⟨d, request, t, hdemand, hresolve, hsend⟩ := hanswer
  obtain ⟨hd, hwhat⟩ := Attachment.feature_of_demand hdemand
  rw [attach_of_refused hdemand hresolve hsend, Demand.explain_eq, ← hwhat, hmissing, hd, hfeature]
  rfl

/-- The kernel is left in a state after it was not asked for a link, or has refused to make one. -/
inductive Attachment.Leaves (K : Kernel σ) (s : σ) (program : ProgramHandle) (a : Attachment) :
    σ → Prop
  | broken {e : Error} (hdemand : a.demand program = .error e) : Leaves K s program a s
  | unresolved {d : Demand} {e : Error} {s' : σ} (hdemand : a.demand program = .ok d)
      (hresolve : (d.resolve K).run.run s = (.error e, s')) :
    Leaves K s program a s'
  | refused {e : Error} {s' : σ} (hanswer : a.Answered K s program (.error e) s') :
    Leaves K s program a s'

/-- Unless a link is made, a host is left as it was but for its kernel, which may have been asked for the
feature behind the attachment. -/
theorem attach_cases (K : Kernel σ) (h : Host σ) (program : ProgramHandle) (a : Attachment) :
  (∃ fd s, a.Answered K h.kernel program (.ok fd) s)
    ∨ ∃ s, a.Leaves K h.kernel program s
      ∧ (((attach K program a).run.run h).2 = { h with kernel := s }
        ∨ ∃ feature, ((attach K program a).run.run h).2
          = ((Host.haveAttachFeature K feature).run { h with kernel := s }).2)
  := by
  cases hdemand : a.demand program with
  | error e =>
      rw [attach_of_broken hdemand]
      exact Or.inr ⟨h.kernel, .broken hdemand, Or.inl rfl⟩
  | ok d =>
      rcases hresolve : (d.resolve K).run.run h.kernel with ⟨e | request, t⟩
      · rw [attach_of_not_resolved hdemand hresolve]
        exact Or.inr ⟨t, .unresolved hdemand hresolve, Or.inl rfl⟩
      · rcases hsend : (request.send K).run.run t with ⟨e | fd, s⟩
        · apply Or.inr
          have hanswer : a.Answered K h.kernel program (.error e) s :=
            ⟨d, request, t, hdemand, hresolve, hsend⟩
          refine ⟨s, .refused hanswer, ?_⟩
          cases hmissing : a.missing e with
          | some what =>
              rw [attach_of_missing hanswer hmissing]
              apply Or.inl rfl
          | none =>
              cases hfeature : a.feature with
              | none =>
                  rw [attach_of_no_feature hanswer hmissing hfeature]
                  apply Or.inl rfl
              | some feature =>
                  rw [attach_of_feature hanswer hmissing hfeature]
                  exact Or.inr ⟨feature, rfl⟩
        · exact Or.inl ⟨fd, s, d, request, t, hdemand, hresolve, hsend⟩

end Attaching

/-! ### What stays known -/

/-- The answer to a query about a feature that takes no check. -/
def Host.known (K : Kernel σ) (h : Host σ) (feature : AttachFeature) : Option Verdict :=
  (AttachFeature.matrix K).answer? h.features.attachments feature

/-- Anything that can happen to a host: a feature is asked for, all of them are probed, a program is
attached, or somebody else uses the kernel. -/
inductive Host.Move (K : Kernel σ) (h : Host σ) : Host σ → Prop
  | ask (x : Feature) : Move K h (((Probes.ofKernel K).ask x).run h).2
  | probeAll : Move K h ((Host.probeAll K).run h).2
  | attach (program : ProgramHandle) (a : Attachment) : Move K h ((attach K program a).run.run h).2
  | elsewhere (s : σ) : Move K h { h with kernel := s }

/-- Verdicts on ways to attach programs are kept. -/
def Host.Keeps (h h' : Host σ) : Prop :=
  ∀ feature v, h.features.attachments.get? feature = some v →
    h'.features.attachments.get? feature = some v

namespace Host

variable {K : Kernel σ} {h h' h'' : Host σ} {feature : AttachFeature} {v : Verdict}

theorem Keeps.refl (h : Host σ) :
  h.Keeps h
  := by
  intro feature v hv
  exact hv

theorem Keeps.trans (hfirst : h.Keeps h') (hsecond : h'.Keeps h'') :
  h.Keeps h''
  := by
  intro feature v hv
  apply hsecond feature v (hfirst feature v hv)

theorem Keeps.known (hkeeps : h.Keeps h') (hv : h.known K feature = some v) :
  h'.known K feature = some v
  := by
  apply Matrix.answer?_mono _ hv
  intro v hv
  apply hkeeps feature v hv

theorem keeps_ask (K : Kernel σ) (x : Feature) (h : Host σ) :
  h.Keeps (((Probes.ofKernel K).ask x).run h).2
  := by
  intro feature v hv
  cases x with
  | programType t => exact hv
  | insn insn => exact hv
  | attachment asked =>
      exact Matrix.get?_result_of_some (AttachFeature.matrix K) asked hv h.kernel
  | helperCall call =>
      rw [Probes.ask]
      split
      next => exact hv
      next => exact hv

theorem keeps_askAll (K : Kernel σ) (features : List Feature) (h : Host σ) :
  h.Keeps ((features.forM fun x => discard ((Probes.ofKernel K).ask x)).run h).2
  := by
  induction features generalizing h with
  | nil => apply Keeps.refl
  | cons x features ih =>
      apply (keeps_ask K x h).trans
      apply ih

theorem keeps_attach (K : Kernel σ) (program : ProgramHandle) (a : Attachment) (h : Host σ) :
  h.Keeps ((Bpf.attach K program a).run.run h).2
  := by
  obtain ⟨fd, s, d, request, t, hdemand, hresolve, hsend⟩ | ⟨s, -, hleft | ⟨feature, hleft⟩⟩ :=
    attach_cases K h program a
  · rw [attach_of_sent hdemand hresolve hsend]
    apply Keeps.refl
  · rw [hleft]
    apply Keeps.refl
  · rw [hleft]
    apply keeps_ask K (.attachment feature) { h with kernel := s }

theorem Move.keeps (hmove : h.Move K h') :
  h.Keeps h'
  := by
  cases hmove with
  | ask x => apply keeps_ask
  | probeAll =>
      rw [Host.probeAll, Probes.probeAll]
      generalize (Probes.ofKernel K).declared = features
      exact keeps_askAll K features h
  | attach program a => apply keeps_attach
  | elsewhere s => apply Keeps.refl

theorem keeps_of_moves (hmoves : Relation.ReflTransGen (Move K) h h') :
  h.Keeps h'
  := by
  induction hmoves with
  | refl => apply Keeps.refl
  | tail _ hmove ih => apply ih.trans hmove.keeps

/-- A known verdict is given as it is, and the kernel is not asked. -/
theorem run_haveAttachFeature_of_known (hv : h.known K feature = some v) :
  (haveAttachFeature K feature).run h = (v, h)
  := by
  apply Matrix.run_onPart_result_of_answer? rfl
  exact hv

/-- After a query its verdict is known. -/
theorem known_haveAttachFeature (K : Kernel σ) (feature : AttachFeature) (h : Host σ) :
  ((haveAttachFeature K feature).run h).2.known K feature
    = some ((haveAttachFeature K feature).run h).1
  := by
  apply Matrix.answer?_result

end Host

/-- How a refused attachment is explained, whatever the kernel.  If a link is made nothing is probed, and
what is left to do is to make its handle.  A refusal that says what is missing, or that no feature stands
behind, is not looked into.  Any other one is explained by the verdict on the feature behind the
attachment.  Once that has been asked for, by an earlier refusal or directly, it explains all refusals
that follow, and the kernel is not asked again, whatever is done in between. -/
theorem refusal_explained (K : Kernel σ) (h : Host σ) :
  (∀ program a fd s, a.Answered K h.kernel program (.ok fd) s →
    ∃ linkType, (attach K program a).run.run h
      = (Host.onKernel (Link.ofNew K fd linkType)).run.run { h with kernel := s })
  ∧ (∀ program a e s, a.Answered K h.kernel program (.error e) s →
    (∀ what, a.missing e = some what →
      (attach K program a).run.run h = (.error (.notFound what), { h with kernel := s }))
    ∧ (a.missing e = none → a.feature = none →
      (attach K program a).run.run h = (.error e, { h with kernel := s }))
    ∧ ∀ feature, a.missing e = none → a.feature = some feature →
      let asked := (Host.haveAttachFeature K feature).run { h with kernel := s }
      (attach K program a).run.run h = (.error (asked.1.explain e), asked.2))
  ∧ ∀ feature s later,
    let asked := (Host.haveAttachFeature K feature).run { h with kernel := s }
    Relation.ReflTransGen (Host.Move K) asked.2 later →
      ∀ program a e s', a.Answered K later.kernel program (.error e) s' → a.missing e = none →
        a.feature = some feature →
        (attach K program a).run.run later
          = (.error (asked.1.explain e), { later with kernel := s' })
  := by
  refine ⟨?_, ?_, ?_⟩
  · rintro program a fd s ⟨d, request, t, hdemand, hresolve, hsend⟩
    exact ⟨d.linkType, attach_of_sent hdemand hresolve hsend⟩
  · intro program a e s hanswer
    refine ⟨?_, ?_, ?_⟩
    · intro what hmissing
      apply attach_of_missing hanswer hmissing
    · intro hmissing hfeature
      apply attach_of_no_feature hanswer hmissing hfeature
    · intro feature hmissing hfeature
      apply attach_of_feature hanswer hmissing hfeature
  · intro feature s later asked hmoves program a e s' hanswer hmissing hfeature
    have hknown := Host.known_haveAttachFeature K feature { h with kernel := s }
    have hlater : ({ later with kernel := s' } : Host σ).known K feature = some asked.1 :=
      (Host.keeps_of_moves hmoves).known hknown
    rw [attach_of_feature hanswer hmissing hfeature, Host.run_haveAttachFeature_of_known hlater]

open Memory in
/-- A script without links, which refuses them as if there were no such command. -/
def withoutLinks : Script Unit where
  createLink := some fun _ => throw (.ofErrno Command.linkCreate Errno.einval)

open Memory in
/-- A kernel without links refuses two attachments; it is asked for a link three times, once for each of
them and once by the check. -/
theorem refusal_explained_twice :
  let K := kernel {} withoutLinks
  let h : Host (Machine Unit) := .new (.fresh ())
  let verdict : FeatureError := .notSupported "bpf_link" (some (.release 5 7)) none
  let first := (attach K (some { number := 3 }) (.xdp 1 0)).run.run h
  let second := (attach K (some { number := 3 }) (.perfEvent 9 0)).run.run first.2
  first.1 = .error (.feature verdict) ∧ second.1 = .error (.feature verdict)
    ∧ second.2.kernel.state.callCount Command.linkCreate = 3
  := by
  intro K h verdict first second
  let refusal : Error := .ofErrno Command.linkCreate Errno.einval
  let asked := (Host.haveAttachFeature K .bpfLink).run
    { h with kernel := h.kernel.counted Command.linkCreate }
  have hanswer (m : Machine Unit) (a : Attachment) (ha : a = .xdp 1 0 ∨ a = .perfEvent 9 0) :
      a.Answered K m (some { number := 3 }) (.error refusal) (m.counted Command.linkCreate) := by
    rcases ha with rfl | rfl
    · exact ⟨_, _, _, rfl, rfl, rfl⟩
    · exact ⟨_, _, _, rfl, rfl, rfl⟩
  obtain ⟨-, hrefused, hlater⟩ := refusal_explained K h
  have hverdict : asked.1 = .error verdict := by decide +kernel
  have hfirst : first = (.error (asked.1.explain refusal), asked.2) :=
    (hrefused _ _ _ _ (hanswer h.kernel (.xdp 1 0) (Or.inl rfl))).2.2 .bpfLink rfl rfl
  have hsecond : second = (.error (asked.1.explain refusal),
      { asked.2 with kernel := asked.2.kernel.counted Command.linkCreate }) := by
    show (attach K (some { number := 3 }) (.perfEvent 9 0)).run.run first.2 = _
    rw [hfirst]
    apply hlater .bpfLink _ asked.2 .refl (some { number := 3 }) (.perfEvent 9 0) refusal _ _ rfl rfl
    apply hanswer asked.2.kernel (.perfEvent 9 0) (Or.inr rfl)
  refine ⟨?_, ?_, ?_⟩
  · rw [hfirst, hverdict]
    rfl
  · rw [hsecond, hverdict]
    rfl
  · decide +kernel

end Bpf
