import Bpf.Proofs.Probing
import Bpf.Proofs.ReportRows

/-!
# The order of queries

On a kernel in memory whose script always answers a request in the same way, each feature has a verdict
of its own, whatever was asked before.  So queries can be made in any order: each is answered as in any
other order, and the reports are the same.  That needs descriptors that can be opened and an id for
every program and link that is asked for, which there is as long as few enough are.
-/

namespace Bpf

variable {η α β κ : Type}

open AttachFeature (nobody)

namespace Memory

/-! ### Verdicts of probes -/

/-- A probe always gives the same verdict if it all runs. -/
def GivesVerdict (o : Option Object) (p : Probe (Machine η)) (v : Verdict) : Prop :=
  ∀ m, State.Steps m.state (p.run.run m).2.state
    ∧ (m.state.object? nobody = o → (p.run.run m).2.state.Runs → (p.run.run m).1 = v)

theorem exists_givesVerdict {o : Option Object} {p : Probe (Machine η)}
    (h : ∃ answer, Settles o p.check answer) :
  ∃ v, GivesVerdict o p v
  := by
  obtain ⟨answer, hanswer⟩ := h
  refine ⟨Probe.judge p.name p.version answer, ?_⟩
  intro m
  rw [Probe.run_run]
  refine ⟨(hanswer m).1, ?_⟩
  intro ho hruns
  dsimp only
  rw [(hanswer m).2 ho trivial hruns]

/-! ### Verdicts of matrices -/

/-- The verdicts that can be looked up are the given ones. -/
def Agree (V : κ → Verdict) (lookup : κ → Option Verdict) : Prop :=
  ∀ key v, lookup key = some v → v = V key

section Matrices

variable [DecidableEq κ] {o : Option Object}

/-- A query to a matrix is answered with a verdict that is always the same if it all
runs. -/
def GivesVerdicts (o : Option Object) (m : Matrix κ (Machine η)) (V : κ → Verdict) : Prop :=
  ∀ key verdicts machine,
    State.Steps machine.state ((m.result key).run (verdicts, machine)).2.2.state
    ∧ (machine.state.object? nobody = o → Agree V verdicts.get? →
      ((m.result key).run (verdicts, machine)).2.2.state.Runs →
      ((m.result key).run (verdicts, machine)).1 = V key
        ∧ Agree V ((m.result key).run (verdicts, machine)).2.1.get?)

theorem exists_givesVerdicts {m : Matrix κ (Machine η)}
    (h : ∀ key p, m.probe? key = some p → ∃ v, GivesVerdict o p v) :
  ∃ V, GivesVerdicts o m V
  := by
  have hverdict (key : κ) : ∃ v, (∀ p, m.probe? key = some p → GivesVerdict o p v)
      ∧ (m.probe? key = none → v = .error (.noProbe (m.describe key))) := by
    cases hprobe : m.probe? key with
    | none => exact ⟨_, by rintro p ⟨⟩, fun _ => rfl⟩
    | some p =>
        obtain ⟨v, hv⟩ := h key p hprobe
        refine ⟨v, ?_, by rintro ⟨⟩⟩
        rintro q ⟨⟩
        exact hv
  choose V hprobe hnone using hverdict
  refine ⟨V, ?_⟩
  intro key verdicts machine
  cases hanswer : m.answer? verdicts key with
  | some v =>
      rw [Matrix.run_result_of_answer? hanswer]
      refine ⟨Relation.ReflTransGen.refl, ?_⟩
      intro _ hagree _
      refine ⟨?_, hagree⟩
      rw [Matrix.answer?] at hanswer
      cases hp : m.probe? key with
      | none =>
          rw [hp] at hanswer
          cases hanswer
          rw [hnone key hp]
      | some p =>
          rw [hp] at hanswer
          exact hagree key v hanswer
  | none =>
      obtain ⟨p, hp, -, hrun⟩ := Matrix.run_result_of_no_answer hanswer
      rw [hrun]
      obtain ⟨hsteps, hgives⟩ := hprobe key p hp machine
      refine ⟨hsteps, ?_⟩
      intro ho hagree hruns
      have hv := hgives ho hruns
      refine ⟨hv, ?_⟩
      intro k v hk
      rw [Assoc.get?_insert] at hk
      split at hk
      next heq =>
        cases hk
        rw [heq, hv]
      next => exact hagree k v hk

/-- A matrix gives verdicts if its checks settle. -/
theorem exists_givesVerdicts_ofEntries {entries : List (MatrixEntry κ (Machine η))}
    {default : κ → Action (Machine η) Unit} (describe : κ → String)
    (h : ∀ entry ∈ entries, ∃ answer, Settles o (entry.probe default).check answer) :
  ∃ V, GivesVerdicts o (Matrix.ofEntries describe entries default) V
  := by
  apply exists_givesVerdicts
  intro key p hp
  rw [Matrix.probe?_ofEntries] at hp
  obtain ⟨entry, hentry, rfl⟩ := Option.map_eq_some_iff.1 hp
  apply exists_givesVerdict
  apply h entry
  exact List.mem_reverse.1 (List.mem_of_find?_eq_some hentry)

end Matrices

/-! ### Verdicts of a host -/

section Hosts

variable {settings : Settings} {script : Script η} {o : Option Object} {V : Feature → Verdict}

/-- A step with a host gives an answer that is always the same if it all runs, and so
are the verdicts that it brings. -/
def Answers (settings : Settings) (script : Script η) (o : Option Object) (V : Feature → Verdict)
    (step : StateM (Host (Machine η)) α) (answer : α) : Prop :=
  ∀ h : Host (Machine η), Coherent (kernel settings script) h.features →
    Coherent (kernel settings script) (step.run h).2.features
    ∧ State.Steps h.kernel.state (step.run h).2.kernel.state
    ∧ (h.kernel.state.object? nobody = o → Agree V h.features.verdict? →
      (step.run h).2.kernel.state.Runs →
      (step.run h).1 = answer ∧ Agree V (step.run h).2.features.verdict?)

theorem answers_pure (a : α) :
  Answers settings script o V (pure a) a
  := by
  intro h hcoherent
  refine ⟨hcoherent, Relation.ReflTransGen.refl, ?_⟩
  intro _ hagree _
  exact ⟨rfl, hagree⟩

theorem Answers.bind {x : StateM (Host (Machine η)) α} {f : α → StateM (Host (Machine η)) β}
    {a : α} {b : α → β} (hx : Answers settings script o V x a)
    (hf : ∀ a, Answers settings script o V (f a) (b a)) :
  Answers settings script o V (x >>= f) (b a)
  := by
  intro h hcoherent
  obtain ⟨hcoherent', hsteps, hanswer⟩ := hx h hcoherent
  obtain ⟨hcoherent'', hsteps', hanswer'⟩ := hf (x.run h).1 (x.run h).2 hcoherent'
  rw [StateT.run_bind]
  refine ⟨hcoherent'', hsteps.trans hsteps', ?_⟩
  intro ho hagree hruns
  have hmiddle := State.runs_of_steps hsteps' hruns
  obtain ⟨ha, hagree'⟩ := hanswer ho hagree hmiddle
  obtain ⟨hb, hagree''⟩ := hanswer' ((State.object?_nobody_of_steps hsteps).trans ho) hagree' hruns
  rw [← ha]
  exact ⟨hb, hagree''⟩

/-- A query to one of the matrices of a host. -/
theorem answers_result [DecidableEq κ] {feature : κ → Feature}
    {part : Part (Host (Machine η)) (Verdicts κ × Machine η)}
    {part' : Part (Host (Machine η × Log)) (Verdicts κ × Machine η × Log)}
    (hpart : VerdictPart (kernel settings script) feature part part')
    (hget : ∀ h, (part.get h).2 = h.kernel) (hset : ∀ h v, (part.set h v).kernel = v.2)
    {m : Matrix κ (Machine η)} (hm : GivesVerdicts o m fun key => V (feature key)) (key : κ)
    (hcoherent : ∀ h, Coherent (kernel settings script) h.features →
      Coherent (kernel settings script) ((onPart part (m.result key)).run h).2.features) :
  Answers settings script o V (onPart part (m.result key)) (V (feature key))
  := by
  intro h hkept
  refine ⟨hcoherent h hkept, ?_⟩
  obtain ⟨hsteps, hanswer⟩ := hm key (part.get h).1 (part.get h).2
  rw [run_onPart]
  dsimp only
  rw [hset, ← hget h]
  refine ⟨hsteps, ?_⟩
  intro ho hagree hruns
  have hbefore : Agree (fun key => V (feature key)) (part.get h).1.get? := by
    intro k v hk
    apply hagree
    rw [hpart.verdict]
    exact hk
  obtain ⟨hv, hafter⟩ := hanswer ho hbefore hruns
  refine ⟨hv, ?_⟩
  intro x v hx
  by_cases hfeature : ∃ k, x = feature k
  · obtain ⟨k, rfl⟩ := hfeature
    rw [hpart.verdict_set] at hx
    exact hafter k v hx
  · rw [not_exists] at hfeature
    rw [hpart.other _ _ hfeature] at hx
    exact hagree x v hx

/-- The verdict on a call is that on its type, if that is no success, and otherwise that of the load. -/
def callVerdict (type : Verdict) (load : Except Error Unit) (call : HelperCall) : Verdict :=
  if HelperCall.isExcluded call.programType then
    .error (.noProbe s!"helper {call.helper.text} for {Code.text call.programType} programs")
  else
    Probe.judge s!"{call.helper.text} for {Code.text call.programType} program" none
      (match type with
        | .error e => .error (.feature e)
        | .ok () => load)

theorem callVerdict_of_excluded {call : HelperCall}
    (h : HelperCall.isExcluded call.programType = true) (type : Verdict) (load : Except Error Unit) :
  callVerdict type load call
    = .error (.noProbe s!"helper {call.helper.text} for {Code.text call.programType} programs")
  := if_pos h

theorem callVerdict_of_not_excluded {call : HelperCall}
    (h : ¬ HelperCall.isExcluded call.programType = true) (type : Verdict)
    (load : Except Error Unit) :
  callVerdict type load call
    = Probe.judge s!"{call.helper.text} for {Code.text call.programType} program" none
        (match type with
          | .error e => .error (.feature e)
          | .ok () => load)
  := if_neg h

/-- What the probe for a call does. -/
theorem answers_helperProbe {T : ProgramType → Verdict}
    (hT : GivesVerdicts o (ProgramType.matrix (kernel settings script)) T) {call : HelperCall}
    (hexcluded : ¬ HelperCall.isExcluded call.programType = true) {load : Except Error Unit}
    (hload : Settles o (HelperCall.tryLoad (kernel settings script) call) load)
    (verdicts : Verdicts ProgramType) (m : Machine η) :
  let r := ((Probes.ofKernel (kernel settings script)).helperCall call).run.run (verdicts, m)
  State.Steps m.state r.2.2.state
    ∧ (m.state.object? nobody = o → Agree T verdicts.get? → r.2.2.state.Runs →
      r.1 = callVerdict (T call.programType) load call ∧ Agree T r.2.1.get?)
  := by
  intro r
  obtain ⟨hsteps, htype⟩ := hT call.programType verdicts m
  have hr : r = (Probe.judge s!"{call.helper.text} for {Code.text call.programType} program" none
      ((HelperCall.check (ProgramType.matrix (kernel settings script))
        (HelperCall.tryLoad (kernel settings script) call) call).run.run (verdicts, m)).1,
      ((HelperCall.check (ProgramType.matrix (kernel settings script))
        (HelperCall.tryLoad (kernel settings script) call) call).run.run (verdicts, m)).2) := rfl
  rw [hr, HelperCall.run_check, callVerdict_of_not_excluded hexcluded]
  rcases hrun : ((ProgramType.matrix (kernel settings script)).result call.programType).run
    (verdicts, m) with ⟨e | _, verdicts', m'⟩
  · rw [hrun] at hsteps htype
    refine ⟨hsteps, ?_⟩
    intro ho hagree hruns
    obtain ⟨hv, hafter⟩ := htype ho hagree hruns
    dsimp only at hv ⊢
    rw [← hv]
    exact ⟨rfl, hafter⟩
  · rw [hrun] at hsteps htype
    obtain ⟨hsteps', hanswer⟩ := hload m'
    refine ⟨hsteps.trans hsteps', ?_⟩
    intro ho hagree hruns
    obtain ⟨hv, hafter⟩ := htype ho hagree (State.runs_of_steps hsteps' hruns)
    have hv' := hanswer ((State.object?_nobody_of_steps hsteps).trans ho) trivial hruns
    dsimp only at hv hv' ⊢
    rw [← hv, hv']
    exact ⟨rfl, hafter⟩

/-- A query about a call. -/
theorem answers_helperCall
    (hT : GivesVerdicts o (ProgramType.matrix (kernel settings script)) fun t => V (.programType t))
    {call : HelperCall} {load : Except Error Unit}
    (hload : Settles o (HelperCall.tryLoad (kernel settings script) call) load)
    (hV : V (.helperCall call) = callVerdict (V (.programType call.programType)) load call) :
  Answers settings script o V ((Probes.ofKernel (kernel settings script)).ask (.helperCall call))
    (V (.helperCall call))
  := by
  by_cases hexcluded : HelperCall.isExcluded call.programType = true
  · rw [Probes.ask, if_pos hexcluded, hV, callVerdict_of_excluded hexcluded]
    apply answers_pure
  intro h hcoherent
  refine ⟨(Probes.touches_ask _ (.helperCall call) h hcoherent).1, ?_⟩
  obtain ⟨⟨executed, hS⟩, -⟩ := hcoherent
  cases hverdict : h.features.helperCalls.verdicts.get? call with
  | some v =>
      have hanswer : (Probes.ofKernel (kernel settings script)).answer? h.features (.helperCall call)
          = some v := by
        rw [Probes.answer?, if_neg hexcluded, hverdict]
      rw [Probes.run_ask_of_answer? hS.known hanswer]
      refine ⟨Relation.ReflTransGen.refl, ?_⟩
      intro _ hagree _
      exact ⟨hagree (.helperCall call) v hverdict, hagree⟩
  | none =>
      rw [Probes.run_ask_helperCall hexcluded hverdict hS.eq_helperCall]
      obtain ⟨hsteps, hanswer⟩ :=
        answers_helperProbe hT hexcluded hload h.features.programTypes h.kernel
      refine ⟨hsteps, ?_⟩
      intro ho hagree hruns
      have htypes : Agree (fun t => V (.programType t)) h.features.programTypes.get? := by
        intro t v ht
        exact hagree (.programType t) v ht
      obtain ⟨hv, hafter⟩ := hanswer ho htypes hruns
      rw [hV]
      refine ⟨hv, ?_⟩
      intro x v hx
      cases x with
      | programType t => exact hafter t v hx
      | insn feature => exact hagree (.insn feature) v hx
      | attachment feature => exact hagree (.attachment feature) v hx
      | helperCall call' =>
          have hx : (h.features.helperCalls.verdicts.insert call _).get? call' = some v := hx
          rw [Assoc.get?_insert] at hx
          split at hx
          next heq =>
            cases hx
            rw [heq, hV]
            exact hv
          next => exact hagree (.helperCall call') v hx

/-- The verdicts on all features, from those of the three matrices and from what loads answer. -/
def verdictOf (T : ProgramType → Verdict) (I : InsnFeature → Verdict) (A : AttachFeature → Verdict)
    (L : HelperCall → Except Error Unit) : Feature → Verdict
  | .programType t => T t
  | .insn feature => I feature
  | .attachment feature => A feature
  | .helperCall call => callVerdict (T call.programType) (L call) call

/-- Each feature has a verdict of its own. -/
theorem exists_answers (settings : Settings) (hpure : script.IsPure) (o : Option Object) :
  ∃ V, ∀ x, Answers settings script o V ((Probes.ofKernel (kernel settings script)).ask x) (V x)
  := by
  have htypes : ∃ T, GivesVerdicts o (ProgramType.matrix (kernel settings script)) T := by
    apply exists_givesVerdicts_ofEntries
    intro entry hentry
    obtain ⟨⟨t, major, minor⟩, -, rfl⟩ := List.mem_map.1 hentry
    exact exists_settles_programType hpure t
  have hinsns : ∃ I, GivesVerdicts o (InsnFeature.matrix (kernel settings script)) I := by
    apply exists_givesVerdicts_ofEntries
    intro entry hentry
    obtain ⟨feature, -, rfl⟩ := List.mem_map.1 hentry
    exact exists_settles_checkProgram hpure _
  have hattachments : ∃ A, GivesVerdicts o (AttachFeature.matrix (kernel settings script)) A := by
    apply exists_givesVerdicts_ofEntries
    intro entry hentry
    obtain ⟨feature, -, rfl⟩ := List.mem_map.1 hentry
    exact exists_settles_attachment hpure feature
  obtain ⟨T, hT⟩ := htypes
  obtain ⟨I, hI⟩ := hinsns
  obtain ⟨A, hA⟩ := hattachments
  have hloads (call : HelperCall) :
      ∃ load, Settles o (HelperCall.tryLoad (kernel settings script) call) load :=
    exists_settles_tryLoad hpure call
  choose L hL using hloads
  refine ⟨verdictOf T I A L, ?_⟩
  intro x
  have hcoherent (h : Host (Machine η)) (hkept : Coherent (kernel settings script) h.features) :=
    (Probes.touches_ask (kernel settings script) x h hkept).1
  cases x with
  | programType t =>
      exact answers_result (verdictPart_programTypes _) (fun _ => rfl) (fun _ _ => rfl) hT t hcoherent
  | insn feature =>
      exact answers_result (verdictPart_insns _) (fun _ => rfl) (fun _ _ => rfl) hI feature hcoherent
  | attachment feature =>
      exact answers_result (verdictPart_attachments _) (fun _ => rfl) (fun _ _ => rfl) hA feature
        hcoherent
  | helperCall call => exact answers_helperCall hT (hL call) rfl

/-- Queries one after another. -/
theorem answers_performAll
    (hV : ∀ x, Answers settings script o V ((Probes.ofKernel (kernel settings script)).ask x) (V x))
    (queries : List Feature) :
  Answers settings script o V
    ((Probes.ofKernel (kernel settings script)).performAll (queries.map .ask))
    (queries.map fun x => .verdict (V x))
  := by
  induction queries with
  | nil => apply answers_pure
  | cons x queries ih =>
      rw [List.map_cons, List.map_cons, Probes.performAll]
      have hask := (hV x).bind fun v => answers_pure (Reply.verdict v)
      exact hask.bind fun reply => ih.bind fun replies => answers_pure (reply :: replies)

/-- Whatever is asked for one after another, the answers are not looked at. -/
theorem answers_askAll
    (hV : ∀ x, Answers settings script o V ((Probes.ofKernel (kernel settings script)).ask x) (V x))
    (features : List Feature) :
  Answers settings script o V
    (features.forM fun x => discard ((Probes.ofKernel (kernel settings script)).ask x)) ()
  := by
  induction features with
  | nil => apply answers_pure
  | cons x features ih =>
      rw [List.forM]
      exact ((hV x).bind fun _ => answers_pure ()).bind fun _ => ih

end Hosts

/-! ### Orders of queries -/

section Orders

variable {settings : Settings} {script : Script η}

/-- What is asked of a new host on a machine, and the host that is left. -/
def afterQueries (settings : Settings) (script : Script η) (m : Machine η) (queries : List Feature) :
    List Reply × Host (Machine η) :=
  Probes.afterAll (kernel settings script) m (queries.map .ask)

/-- The answers to queries are the verdicts on their features, and so is all that is known. -/
theorem answers_afterQueries {m : Machine η} {V : Feature → Verdict}
    (hV : ∀ x, Answers settings script (m.state.object? nobody) V
      ((Probes.ofKernel (kernel settings script)).ask x) (V x))
    {queries : List Feature}
    (hruns : (afterQueries settings script m queries).2.kernel.state.Runs) :
  (afterQueries settings script m queries).1 = queries.map (fun x => .verdict (V x))
    ∧ Agree V (afterQueries settings script m queries).2.features.verdict?
  := by
  obtain ⟨-, -, hanswer⟩ := answers_performAll hV queries (.new m) (Coherent.unknown _)
  apply hanswer rfl _ hruns
  intro x v hx
  cases x with
  | _ => cases hx

/-- Whether there is a verdict on a feature does not depend on the order of queries. -/
theorem verdict?_afterQueries_ne_none_iff (settings : Settings) (script : Script η) (m : Machine η)
    {first second : List Feature} (hperm : first.Perm second) (x : Feature) :
  (afterQueries settings script m first).2.features.verdict? x ≠ none
    ↔ (afterQueries settings script m second).2.features.verdict? x ≠ none
  := by
  have hmem (operation : Operation (Machine η)) :
      operation ∈ first.map .ask ↔ operation ∈ second.map .ask := (hperm.map _).mem_iff
  rw [afterQueries, afterQueries, Probes.verdict?_afterAll, Probes.verdict?_afterAll]
  simp only [hmem]

/-- What is asked one after another are queries. -/
theorem queries_performAll (settings : Settings) (script : Script η) (queries : List Feature)
    (h : Host (Machine η)) :
  Queries settings script h
    (((Probes.ofKernel (kernel settings script)).performAll (queries.map .ask)).run h).2
  := by
  induction queries generalizing h with
  | nil => apply Relation.ReflTransGen.refl
  | cons x queries ih => apply Relation.ReflTransGen.head (Queried.ask x) (ih _)

/-- With ids left for two links, and for all programs that are ever asked for, all of it runs to the
end. -/
theorem runs_afterQueries {m : Machine η} (hm : m.ReachableUnder settings script)
    (hruns : m.state.Runs) (hlinks : m.state.nextLinkId ≤ 0xfffffffd) {queries : List Feature}
    (hloads : (afterQueries settings script m queries).2.kernel.state.callCount Command.progLoad
      < 0xffffffff) :
  (afterQueries settings script m queries).2.kernel.state.Runs
  := by
  have hqueries := queries_performAll settings script queries (.new m)
  obtain ⟨asked, hprobed⟩ :=
    probed_of_queries settings script hm.valid ⟨[], Sound.unknown _⟩ hqueries
  constructor
  · exact hprobed.growth.device_eq.trans hruns.hasDescriptors
  · exact (hprobed.stopped_eq hm.paid hlinks hloads).trans hruns.going

/-- Queries on a kernel in memory can be made in any order, if its script always answers a request in
the same way and all of it runs to the end.  Each is answered with the verdict on its feature, and the
report is the same.  It does run to the end, from any state on that can be reached, if there are ids
left for two links and for all programs that are ever asked for. -/
theorem query_order (hpure : script.IsPure) {m : Machine η} {first second : List Feature}
    (hperm : first.Perm second)
    (hraw : ∀ call, .helperCall call ∈ first → ∃ raw, call.programType = Code.ofRaw raw) :
  ((afterQueries settings script m first).2.kernel.state.Runs →
    (afterQueries settings script m second).2.kernel.state.Runs →
    (∃ verdict : Feature → Verdict,
      (afterQueries settings script m first).1 = first.map (fun x => .verdict (verdict x))
        ∧ (afterQueries settings script m second).1 = second.map fun x => .verdict (verdict x))
    ∧ (Probes.ofKernel (kernel settings script)).report
          (afterQueries settings script m first).2.features
        = (Probes.ofKernel (kernel settings script)).report
          (afterQueries settings script m second).2.features)
  ∧ (m.ReachableUnder settings script → m.state.Runs → m.state.nextLinkId ≤ 0xfffffffd →
    ∀ queries,
      (afterQueries settings script m queries).2.kernel.state.callCount Command.progLoad
        < 0xffffffff →
      (afterQueries settings script m queries).2.kernel.state.Runs)
  := by
  refine ⟨?_, fun hm hruns hlinks queries => runs_afterQueries hm hruns hlinks⟩
  intro hfirst hsecond
  obtain ⟨V, hV⟩ := exists_answers settings hpure (m.state.object? nobody)
  obtain ⟨hreplies, hagree⟩ := answers_afterQueries hV hfirst
  obtain ⟨hreplies', hagree'⟩ := answers_afterQueries hV hsecond
  have hverdict (x : Feature) : (afterQueries settings script m first).2.features.verdict? x
      = (afterQueries settings script m second).2.features.verdict? x := by
    have hknown := verdict?_afterQueries_ne_none_iff settings script m hperm x
    cases hx : (afterQueries settings script m first).2.features.verdict? x with
    | none =>
        rw [hx] at hknown
        exact (not_not.1 (hknown.not.1 (not_not.2 rfl))).symm
    | some v =>
        rw [hx] at hknown
        obtain ⟨v', hx'⟩ := Option.ne_none_iff_exists'.1 (hknown.1 (Option.some_ne_none v))
        rw [hx', hagree x v hx, hagree' x v' hx']
  refine ⟨⟨V, hreplies, hreplies'⟩, ?_⟩
  apply (Probes.coherent_afterAll _ _ _).report_congr (Probes.coherent_afterAll _ _ _) _ hverdict
  intro call hcall
  obtain ⟨⟨operation, hoperation, htouched⟩, hprobe⟩ := (Probes.verdict?_afterAll _ _ _ _).1 hcall
  rw [Probes.touched_helperCall_iff hprobe] at htouched
  rw [htouched] at hoperation
  obtain ⟨x, hx, heq⟩ := List.mem_map.1 hoperation
  cases heq
  exact hraw call hx

/-- The script of a kernel that has no programs on tracepoints. -/
def withoutTracepoints : Script Unit where
  loadProgram := some fun load =>
    if load.programType = .tracepoint then .ofExcept (.error (.ofErrno Command.progLoad Errno.einval))
    else pure ()

theorem isPure_withoutTracepoints :
  withoutTracepoints.IsPure
  := by
  constructor
  · rintro f ⟨⟩ load a b
    rfl
  · rintro f ⟨⟩
  · rintro f ⟨⟩

/-- Queries of which the first makes one for the last feature of its own. -/
def mixedQueries : List Feature :=
  [.helperCall ⟨.tracepoint, ⟨51⟩⟩, .attachment .tcx, .programType .tracepoint]

theorem query_order_reversed :
  let m : Machine Unit := .fresh ()
  (∃ verdict : Feature → Verdict,
    (afterQueries {} withoutTracepoints m mixedQueries).1
      = mixedQueries.map (fun x => .verdict (verdict x))
    ∧ (afterQueries {} withoutTracepoints m mixedQueries.reverse).1
      = mixedQueries.reverse.map fun x => .verdict (verdict x))
  ∧ (Probes.ofKernel (kernel {} withoutTracepoints)).report
      (afterQueries {} withoutTracepoints m mixedQueries).2.features
    = (Probes.ofKernel (kernel {} withoutTracepoints)).report
        (afterQueries {} withoutTracepoints m mixedQueries.reverse).2.features
  := by
  intro m
  have hraw (call : HelperCall) (hcall : .helperCall call ∈ mixedQueries) :
      ∃ raw, call.programType = Code.ofRaw raw := by
    have hcall : call = ⟨.tracepoint, ⟨51⟩⟩ := by
      simpa [mixedQueries] using hcall
    refine ⟨5, ?_⟩
    rw [hcall]
    rfl
  have hloads : (afterQueries {} withoutTracepoints m mixedQueries).2.kernel.state.callCount
      Command.progLoad < 0xffffffff := by decide +kernel
  have hloads' : (afterQueries {} withoutTracepoints m mixedQueries.reverse).2.kernel.state.callCount
      Command.progLoad < 0xffffffff := by decide +kernel
  obtain ⟨horder, hruns⟩ :=
    @query_order _ {} _ isPure_withoutTracepoints m _ _ mixedQueries.reverse_perm.symm hraw
  have hends := hruns (Machine.ReachableUnder.fresh ()) ⟨rfl, rfl⟩ (by decide)
  exact horder (hends _ hloads) (hends _ hloads')

end Orders

end Memory

end Bpf
