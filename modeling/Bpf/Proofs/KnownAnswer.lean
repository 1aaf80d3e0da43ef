import Bpf.Host
import Mathlib.Data.List.Nodup

/-!
# Known answers

The answer to a query is known once there is a verdict, and for what has no probe at all.  A query
with a known answer gives that answer and changes nothing; every other query runs a check, keeps the
verdict, and leaves the verdicts that were there before.  So what is known stays known.
-/

namespace Bpf

variable {σ κ : Type}

/-! ### Rows of reports -/

theorem Outcome.ofVerdict_eq_notRun_iff (v : Option Verdict) :
  ofVerdict v = .notRun ↔ v = none
  := by
  rcases v with _ | (⟨_, _, _⟩ | ⟨_, _⟩ | _) | _
  all_goals simp [ofVerdict]

/-- A row whose outcome is known does not change while the verdict is kept. -/
theorem FeatureRow.ofProbe_mono {p : Probe σ} {earlier later : Option Verdict}
    (h : ∀ {v}, earlier = some v → later = some v) (hknown : (ofProbe p earlier).outcome ≠ .notRun) :
  ofProbe p later = ofProbe p earlier
  := by
  cases earlier with
  | none => apply absurd rfl hknown
  | some v => rw [h rfl]

/-! ### Queries to a matrix -/

namespace Matrix

variable [DecidableEq κ]

/-- The answer that takes no check: a verdict, or that there is no probe. -/
def answer? (m : Matrix κ σ) (verdicts : Verdicts κ) (key : κ) : Option Verdict :=
  match m.probe? key with
  | none => some (.error (.noProbe (m.describe key)))
  | some _ => verdicts.get? key

/-- A known answer is given as it is. -/
theorem run_result_of_answer? {m : Matrix κ σ} {verdicts : Verdicts κ} {key : κ} {v : Verdict}
    (h : m.answer? verdicts key = some v) (s : σ) :
  (m.result key).run (verdicts, s) = (v, (verdicts, s))
  := by
  rw [run_result]
  unfold answer? at h
  cases hp : m.probe? key with
  | none =>
      rw [hp] at h
      cases h
      rfl
  | some p =>
      rw [hp] at h
      dsimp only at h ⊢
      rw [Verdicts.run_ask, h]

theorem run_onPart_result_of_answer? {τ : Type} {part : Part τ (Verdicts κ × σ)} {whole : τ}
    (hpart : part.set whole (part.get whole) = whole) {m : Matrix κ σ} {key : κ} {v : Verdict}
    (h : m.answer? (part.get whole).1 key = some v) :
  (onPart part (m.result key)).run whole = (v, whole)
  := by
  rw [run_onPart, ← Prod.eta (part.get whole), run_result_of_answer? h, Prod.eta, hpart]

/-- Without a known answer the check is run, and its verdict kept. -/
theorem run_result_of_no_answer {m : Matrix κ σ} {verdicts : Verdicts κ} {key : κ}
    (h : m.answer? verdicts key = none) :
  ∃ p, m.probe? key = some p ∧ verdicts.get? key = none ∧ ∀ s, (m.result key).run (verdicts, s)
    = ((p.run.run s).1, (verdicts.insert key (p.run.run s).1, (p.run.run s).2))
  := by
  unfold answer? at h
  cases hp : m.probe? key with
  | none =>
      rw [hp] at h
      cases h
  | some p =>
      rw [hp] at h
      apply Exists.intro p
      constructor
      · rfl
      constructor
      · apply h
      · intro s
        rw [run_result, hp]
        dsimp only at h ⊢
        rw [Verdicts.run_ask, h]

/-- A known answer stays known while verdicts are kept. -/
theorem answer?_mono {m : Matrix κ σ} {earlier later : Verdicts κ} {key : κ}
    (h : ∀ {v}, earlier.get? key = some v → later.get? key = some v) {v : Verdict}
    (hv : m.answer? earlier key = some v) :
  m.answer? later key = some v
  := by
  unfold answer? at hv ⊢
  cases hp : m.probe? key with
  | none =>
      rw [hp] at hv
      apply hv
  | some p =>
      rw [hp] at hv
      apply h hv

/-- The features whose checks are run by a query. -/
def executed (feature : κ → Feature) (m : Matrix κ σ) (verdicts : Verdicts κ) (key : κ) :
    List Feature :=
  match m.answer? verdicts key with
  | some _ => []
  | none => [feature key]

theorem nodup_executed (feature : κ → Feature) (m : Matrix κ σ) (verdicts : Verdicts κ) (key : κ) :
  (m.executed feature verdicts key).Nodup
  := by
  unfold executed
  cases m.answer? verdicts key with
  | some v => apply List.nodup_nil
  | none => apply List.nodup_singleton

/-- Only the check for a feature without a verdict is run. -/
theorem eq_of_mem_executed {feature : κ → Feature} {m : Matrix κ σ} {verdicts : Verdicts κ} {key : κ}
    {x : Feature} (h : x ∈ m.executed feature verdicts key) :
  x = feature key ∧ verdicts.get? key = none
  := by
  unfold executed at h
  cases hanswer : m.answer? verdicts key with
  | some v =>
      rw [hanswer] at h
      cases h
  | none =>
      rw [hanswer] at h
      obtain ⟨-, -, hnone, -⟩ := run_result_of_no_answer hanswer
      constructor
      · apply List.mem_singleton.1 h
      · apply hnone

theorem not_mem_executed {feature : κ → Feature} {x : Feature} (h : ∀ k, x ≠ feature k)
    (m : Matrix κ σ) (verdicts : Verdicts κ) (key : κ) :
  x ∉ m.executed feature verdicts key
  := by
  intro hmem
  apply h key (eq_of_mem_executed hmem).1

/-- Verdicts are kept. -/
theorem get?_result_of_some (m : Matrix κ σ) {verdicts : Verdicts κ} (key : κ) {k : κ} {v : Verdict}
    (h : verdicts.get? k = some v) (s : σ) :
  ((m.result key).run (verdicts, s)).2.1.get? k = some v
  := by
  cases hanswer : m.answer? verdicts key with
  | some w =>
      rw [run_result_of_answer? hanswer]
      apply h
  | none =>
      obtain ⟨p, -, hnone, hrun⟩ := run_result_of_no_answer hanswer
      rw [hrun, Assoc.get?_insert, if_neg]
      · apply h
      · rintro rfl
        rw [hnone] at h
        cases h

/-- The verdict that a check brings is the only new one. -/
theorem get?_result_ne_none_iff {feature : κ → Feature}
    (hinj : ∀ {k k'}, feature k = feature k' → k = k') (m : Matrix κ σ) (verdicts : Verdicts κ)
    (key k : κ) (s : σ) :
  ((m.result key).run (verdicts, s)).2.1.get? k ≠ none
    ↔ verdicts.get? k ≠ none ∨ feature k ∈ m.executed feature verdicts key
  := by
  unfold executed
  cases hanswer : m.answer? verdicts key with
  | some w =>
      rw [run_result_of_answer? hanswer]
      simp
  | none =>
      obtain ⟨p, -, hnone, hrun⟩ := run_result_of_no_answer hanswer
      rw [hrun, Assoc.get?_insert]
      by_cases hk : k = key
      · subst hk
        simp
      · have hfeature : feature k ≠ feature key := fun h => hk (hinj h)
        simp [hk, hfeature]

/-- After a query its answer is known. -/
theorem answer?_result (m : Matrix κ σ) (verdicts : Verdicts κ) (key : κ) (s : σ) :
  m.answer? ((m.result key).run (verdicts, s)).2.1 key = some ((m.result key).run (verdicts, s)).1
  := by
  cases hanswer : m.answer? verdicts key with
  | some v =>
      rw [run_result_of_answer? hanswer]
      apply hanswer
  | none =>
      obtain ⟨p, hp, -, hrun⟩ := run_result_of_no_answer hanswer
      rw [hrun, answer?, hp]
      dsimp only
      rw [Assoc.get?_insert, if_pos rfl]

/-- A row whose outcome is known stays in the report while verdicts are kept. -/
theorem mem_report_mono {m : Matrix κ σ} {earlier later : Verdicts κ}
    (h : ∀ {key v}, earlier.get? key = some v → later.get? key = some v) {row : FeatureRow}
    (hrow : row ∈ m.report earlier) (hknown : row.outcome ≠ .notRun) :
  row ∈ m.report later
  := by
  obtain ⟨entry, hentry, rfl⟩ := List.mem_map.1 hrow
  apply List.mem_map.2
  apply Exists.intro entry
  constructor
  · apply hentry
  · apply FeatureRow.ofProbe_mono h hknown

theorem report_eq_filterMap (m : Matrix κ σ) (verdicts : Verdicts κ) :
  m.report verdicts = (m.rows.map Prod.fst).filterMap fun key =>
    (m.probe? key).map fun p => FeatureRow.ofProbe p (verdicts.get? key)
  := by
  simp only [report, probes, List.map_filterMap, List.filterMap_map, Function.comp_def,
    Option.map_map]

theorem keys_probes (m : Matrix κ σ) :
  m.probes.map Prod.fst = (m.rows.map Prod.fst).filterMap fun key => (m.probe? key).map fun _ => key
  := by
  simp only [probes, List.map_filterMap, List.filterMap_map, Function.comp_def, Option.map_map]

end Matrix

/-! ### What is known of a host -/

namespace Features

/-- The verdict on a feature, if there is one. -/
def verdict? (features : Features σ) : Feature → Option Verdict
  | .programType programType => features.programTypes.get? programType
  | .insn feature => features.insns.get? feature
  | .attachment feature => features.attachments.get? feature
  | .helperCall call => features.helperCalls.verdicts.get? call

/-- What is known of a feature. -/
def outcome (features : Features σ) (x : Feature) : Outcome :=
  Outcome.ofVerdict (features.verdict? x)

/-- All that was known is still known. -/
structure Extends (later earlier : Features σ) : Prop where
  verdict : ∀ {x v}, earlier.verdict? x = some v → later.verdict? x = some v
  made : ∀ {entry}, entry ∈ earlier.helperCalls.made.entries → entry ∈ later.helperCalls.made.entries

namespace Extends

theorem refl (features : Features σ) :
  features.Extends features
  := by
  constructor
  · intro x v h
    apply h
  · intro entry h
    apply h

theorem trans {first second third : Features σ} (h : second.Extends first)
    (h' : third.Extends second) :
  third.Extends first
  := by
  constructor
  · intro x v hv
    apply h'.verdict (h.verdict hv)
  · intro entry hentry
    apply h'.made (h.made hentry)

/-- An outcome that is known does not change. -/
theorem outcome {earlier later : Features σ} (h : later.Extends earlier) {x : Feature}
    (hknown : earlier.outcome x ≠ .notRun) :
  later.outcome x = earlier.outcome x
  := by
  unfold Features.outcome at hknown ⊢
  cases hverdict : earlier.verdict? x with
  | none =>
      rw [hverdict] at hknown
      apply absurd rfl hknown
  | some v => rw [h.verdict hverdict]

end Extends

end Features

/-! ### Queries to a host -/

/-- A check is read off a trial: its answer is that of the trial, read by a rule, and it does the same
to the state. -/
def Action.ReadOff {α β : Type} (check : Action σ β) (Reads : Except Error α → Except Error β → Prop)
    (trial : Action σ α) : Prop :=
  ∀ s, Reads (trial.run.run s).1 (check.run.run s).1 ∧ (check.run.run s).2 = (trial.run.run s).2

/-- The host after the probe for a call has been made and asked. -/
def Host.afterCall (h : Host σ) (P : Probes σ) (call : HelperCall) : Host σ :=
  let answer := (P.helperCall call).run.run (h.features.programTypes, h.kernel)
  { features :=
      { h.features with
        programTypes := answer.2.1
        helperCalls :=
          { made := (h.features.helperCalls.including call (P.helperCall call)).made
            verdicts := h.features.helperCalls.verdicts.insert call answer.1 } }
    kernel := answer.2.2 }

namespace Probes

/-- The answer to a query that takes no check. -/
def answer? (P : Probes σ) (features : Features σ) : Feature → Option Verdict
  | .programType programType => P.programTypes.answer? features.programTypes programType
  | .insn feature => P.insns.answer? features.insns feature
  | .attachment feature => P.attachments.answer? features.attachments feature
  | .helperCall call =>
    if HelperCall.isExcluded call.programType then
      some (.error (.noProbe
        s!"helper {call.helper.text} for {Code.text call.programType} programs"))
    else features.helperCalls.verdicts.get? call

/-- A known answer stays known. -/
theorem answer?_of_extends {P : Probes σ} {earlier later : Features σ} (h : later.Extends earlier)
    {x : Feature} {v : Verdict} (hv : P.answer? earlier x = some v) :
  P.answer? later x = some v
  := by
  cases x with
  | programType t => apply Matrix.answer?_mono (h.verdict (x := .programType t)) hv
  | insn feature => apply Matrix.answer?_mono (h.verdict (x := .insn feature)) hv
  | attachment feature => apply Matrix.answer?_mono (h.verdict (x := .attachment feature)) hv
  | helperCall call =>
      simp only [answer?] at hv ⊢
      by_cases hexcluded : HelperCall.isExcluded call.programType = true
      · rw [if_pos hexcluded] at hv ⊢
        apply hv
      · rw [if_neg hexcluded] at hv ⊢
        apply h.verdict (x := .helperCall call) hv

/-- A query with a known answer changes nothing, whatever the probes are. -/
theorem run_ask_of_answer? {P : Probes σ} {h : Host σ}
    (hknown : ∀ call, h.features.helperCalls.verdicts.get? call ≠ none →
      h.features.helperCalls.made.get? call ≠ none)
    {x : Feature} {v : Verdict} (hv : P.answer? h.features x = some v) :
  (P.ask x).run h = (v, h)
  := by
  cases x with
  | programType t =>
      apply Matrix.run_onPart_result_of_answer? rfl
      apply hv
  | insn feature =>
      apply Matrix.run_onPart_result_of_answer? rfl
      apply hv
  | attachment feature =>
      apply Matrix.run_onPart_result_of_answer? rfl
      apply hv
  | helperCall call =>
      rw [answer?] at hv
      rw [ask]
      by_cases hexcluded : HelperCall.isExcluded call.programType = true
      · rw [if_pos hexcluded] at hv ⊢
        cases hv
        rfl
      · rw [if_neg hexcluded] at hv ⊢
        have hmade : h.features.helperCalls.made.get? call ≠ none := by
          apply hknown
          rw [hv]
          apply Option.some_ne_none
        rw [run_onPart]
        dsimp only [Host.helperCallPart]
        rw [Cache.run_result, Cache.including]
        cases hp : h.features.helperCalls.made.get? call with
        | none => apply absurd hp hmade
        | some p =>
            rw [run_onPart]
            dsimp only [Cache.verdictPart]
            rw [Verdicts.run_ask, hv]

/-- The probe for a feature that is declared beforehand. -/
def probe? (P : Probes σ) : Feature → Option (Probe σ)
  | .programType programType => P.programTypes.probe? programType
  | .insn feature => P.insns.probe? feature
  | .attachment feature => P.attachments.probe? feature
  | .helperCall _ => none

/-- Without a verdict the probe is run, and that is all that is asked of the kernel. -/
theorem run_ask_of_unknown {P : Probes σ} {h : Host σ} {x : Feature} {p : Probe σ}
    (hp : P.probe? x = some p) (hunknown : h.features.verdict? x = none) :
  ((P.ask x).run h).1 = (p.run.run h.kernel).1
    ∧ ((P.ask x).run h).2.kernel = (p.run.run h.kernel).2
  := by
  have hresult {κ : Type} [DecidableEq κ] {m : Matrix κ σ} {verdicts : Verdicts κ} {key : κ}
      (hp : m.probe? key = some p) (hunknown : verdicts.get? key = none) :
      ((m.result key).run (verdicts, h.kernel)).1 = (p.run.run h.kernel).1
        ∧ ((m.result key).run (verdicts, h.kernel)).2.2 = (p.run.run h.kernel).2 := by
    rw [Matrix.run_result, hp]
    dsimp only
    rw [Verdicts.run_ask, hunknown]
    exact ⟨rfl, rfl⟩
  cases x with
  | programType t => exact hresult hp hunknown
  | insn feature => exact hresult hp hunknown
  | attachment feature => exact hresult hp hunknown
  | helperCall call => cases hp

/-- Without a verdict the answer is what is read off the trial. -/
theorem run_ask_of_readOff {P : Probes σ} {h : Host σ} {x : Feature} {p : Probe σ} {α : Type}
    {trial : Action σ α} {Reads : Except Error α → Except Error Unit → Prop}
    (hp : P.probe? x = some p) (hread : p.check.ReadOff Reads trial)
    (hunknown : h.features.verdict? x = none) :
  ∃ reading, Reads (trial.run.run h.kernel).1 reading
    ∧ ((P.ask x).run h).1 = Probe.judge p.name p.version reading
    ∧ ((P.ask x).run h).2.kernel = (trial.run.run h.kernel).2
  := by
  obtain ⟨hreads, hstate⟩ := hread h.kernel
  obtain ⟨hanswer, hkernel⟩ := run_ask_of_unknown hp hunknown
  exact ⟨_, hreads, hanswer, hkernel.trans hstate⟩

/-- A query about a call without a verdict asks the probe for the call. -/
theorem run_ask_helperCall {P : Probes σ} {h : Host σ} {call : HelperCall}
    (hexcluded : ¬ HelperCall.isExcluded call.programType = true)
    (hverdict : h.features.helperCalls.verdicts.get? call = none)
    (hmade : ∀ p, h.features.helperCalls.made.get? call = some p → p = P.helperCall call) :
  (P.ask (.helperCall call)).run h
    = (((P.helperCall call).run.run (h.features.programTypes, h.kernel)).1,
        h.afterCall P call)
  := by
  have hprobe : (h.features.helperCalls.made.get? call).getD (P.helperCall call)
      = P.helperCall call := by
    cases hp : h.features.helperCalls.made.get? call with
    | none => rfl
    | some p => apply hmade p hp
  rw [ask, if_neg hexcluded, run_onPart]
  dsimp only [Host.helperCallPart]
  rw [Cache.run_result, hprobe, run_onPart]
  dsimp only [Cache.verdictPart]
  rw [Cache.verdicts_including, Verdicts.run_ask, hverdict]
  rfl

/-- The features whose checks are run by a query about a call without a verdict. -/
def executedByCall (P : Probes σ) (features : Features σ) (call : HelperCall) : List Feature :=
  .helperCall call
    :: P.programTypes.executed .programType features.programTypes call.programType

theorem nodup_executedByCall (P : Probes σ) (features : Features σ) (call : HelperCall) :
  (P.executedByCall features call).Nodup
  := by
  apply List.nodup_cons.2
  constructor
  · apply Matrix.not_mem_executed
    intro t ht
    cases ht
  · apply Matrix.nodup_executed

/-- There is no verdict yet on a feature whose check is run. -/
theorem verdict?_of_mem_executedByCall {P : Probes σ} {features : Features σ} {call : HelperCall}
    (hverdict : features.helperCalls.verdicts.get? call = none) {x : Feature}
    (hx : x ∈ P.executedByCall features call) :
  features.verdict? x = none
  := by
  obtain rfl | hx := List.mem_cons.1 hx
  · apply hverdict
  · obtain ⟨rfl, hnone⟩ := Matrix.eq_of_mem_executed hx
    apply hnone

section Calls

variable (K : Kernel σ)

/-- The check for a call does to the verdicts on program types what a query about its type does. -/
theorem verdicts_run_helperCall (call : HelperCall) (verdicts : Verdicts ProgramType) (s : σ) :
  (((ofKernel K).helperCall call).run.run (verdicts, s)).2.1
    = (((ofKernel K).programTypes.result call.programType).run (verdicts, s)).2.1
  := by
  rw [Probe.run_run]
  show ((HelperCall.check (ofKernel K).programTypes _ call).run.run (verdicts, s)).2.1 = _
  rw [HelperCall.run_check]
  rcases ((ofKernel K).programTypes.result call.programType).run (verdicts, s) with ⟨e | _, s'⟩
  · rfl
  · rfl

/-- The verdicts that checks bring are the only new ones. -/
theorem verdict?_afterCall_ne_none_iff (h : Host σ) (call : HelperCall) (x : Feature) :
  (h.afterCall (ofKernel K) call).features.verdict? x ≠ none
    ↔ h.features.verdict? x ≠ none ∨ x ∈ (ofKernel K).executedByCall h.features call
  := by
  have hother {x : Feature} (hx : ∀ t, x ≠ .programType t) :=
    Matrix.not_mem_executed hx (ofKernel K).programTypes h.features.programTypes call.programType
  rw [executedByCall, List.mem_cons]
  cases x with
  | programType t =>
      have hinj {t t' : ProgramType} (h : Feature.programType t = .programType t') : t = t' := by
        cases h
        rfl
      have ht := Matrix.get?_result_ne_none_iff hinj (ofKernel K).programTypes
        h.features.programTypes call.programType t h.kernel
      rw [← verdicts_run_helperCall] at ht
      simpa [Features.verdict?, Host.afterCall] using ht
  | insn feature =>
      have hnot : Feature.insn feature ∉ _ := hother (by rintro t ⟨⟩)
      simp [Features.verdict?, Host.afterCall, hnot]
  | attachment feature =>
      have hnot : Feature.attachment feature ∉ _ := hother (by rintro t ⟨⟩)
      simp [Features.verdict?, Host.afterCall, hnot]
  | helperCall call' =>
      have hnot : Feature.helperCall call' ∉ _ := hother (by rintro t ⟨⟩)
      by_cases hcall : call' = call
      · subst hcall
        simp [Features.verdict?, Host.afterCall, Assoc.get?_insert]
      · simp [Features.verdict?, Host.afterCall, Assoc.get?_insert, hnot, hcall]

/-- The verdict on a call comes on top of those that were there before. -/
theorem extends_afterCall {h : Host σ} {call : HelperCall}
    (hverdict : h.features.helperCalls.verdicts.get? call = none) :
  (h.afterCall (ofKernel K) call).features.Extends h.features
  := by
  constructor
  · intro x v hv
    cases x with
    | programType t =>
        have hkept := Matrix.get?_result_of_some (ofKernel K).programTypes call.programType hv
          h.kernel
        rw [← verdicts_run_helperCall] at hkept
        apply hkept
    | insn feature => apply hv
    | attachment feature => apply hv
    | helperCall call' =>
        show (h.features.helperCalls.verdicts.insert call _).get? call' = _
        rw [Assoc.get?_insert, if_neg]
        · apply hv
        · rintro rfl
          rw [Features.verdict?, hverdict] at hv
          cases hv
  · intro entry hentry
    apply Cache.mem_made_including.2
    apply Or.inl hentry

end Calls

/-- A row whose outcome is known is in all later reports. -/
theorem mem_report_of_extends {P : Probes σ} {earlier later : Features σ}
    (h : later.Extends earlier) {row : FeatureRow} (hrow : row ∈ P.report earlier)
    (hknown : row.outcome ≠ .notRun) :
  row ∈ P.report later
  := by
  simp only [report, List.mem_append] at hrow ⊢
  obtain ((htypes | hinsns) | hattachments) | hcalls := hrow
  · apply Or.inl (Or.inl (Or.inl _))
    apply Matrix.mem_report_mono (h.verdict (x := .programType _)) htypes hknown
  · apply Or.inl (Or.inl (Or.inr _))
    apply Matrix.mem_report_mono (h.verdict (x := .insn _)) hinsns hknown
  · apply Or.inl (Or.inr _)
    apply Matrix.mem_report_mono (h.verdict (x := .attachment _)) hattachments hknown
  · apply Or.inr
    obtain ⟨entry, hentry, rfl⟩ := List.mem_map.1 hcalls
    apply List.mem_map.2
    apply Exists.intro entry
    constructor
    · apply List.mem_mergeSort.2 (h.made (List.mem_mergeSort.1 hentry))
    · apply FeatureRow.ofProbe_mono (h.verdict (x := .helperCall _)) hknown

end Probes

/-- Without a known verdict the check for the feature decides. -/
theorem Host.run_haveAttachFeature_of_unknown (K : Kernel σ) {h : Host σ} {feature : AttachFeature}
    (hunknown : h.features.attachments.get? feature = none) :
  let checked := (feature.check K).run.run h.kernel
  ((haveAttachFeature K feature).run h).1
      = Probe.judge feature.text (some feature.version) checked.1
    ∧ ((haveAttachFeature K feature).run h).2.kernel = checked.2
  := by
  have hprobe : (Probes.ofKernel K).probe? (.attachment feature)
      = some ⟨feature.text, some feature.version, feature.check K⟩ :=
    AttachFeature.probe?_matrix K feature
  apply Probes.run_ask_of_unknown hprobe hunknown

end Bpf
