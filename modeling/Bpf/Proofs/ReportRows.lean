import Bpf.Memory.Kernel
import Bpf.Proofs.ProbedOnce

/-!
# Rows of reports

A report has a row for each declared feature, and then one for each call of a helper that has been
asked for, by ascending type and helper.  The features that are known are those that some operation
`Touches`, and the calls that are listed are those that are known, so both can be read off the
operations.  What a row says is what a query answers.
-/

namespace Bpf

variable {σ α β κ : Type}

/-- In a list where no key is repeated, each element is found by its key. -/
theorem find?_key_of_nodup [DecidableEq κ] {key : α → κ} {l : List α} (h : (l.map key).Nodup) {a : α}
    (ha : a ∈ l) :
  l.find? (fun b => key b = key a) = some a
  := by
  have hfinds : (l.find? fun b => key b = key a).isSome := by
    rw [List.find?_isSome]
    exact ⟨a, ha, by simp⟩
  obtain ⟨b, hfound⟩ := Option.isSome_iff_exists.1 hfinds
  have hkey : key b = key a := by simpa using List.find?_some hfound
  rw [hfound, List.inj_on_of_nodup_map h (List.mem_of_find?_eq_some hfound) ha hkey]

/-! ### Rows of a matrix -/

namespace Matrix

variable [DecidableEq κ]

section Entries

variable {entries : List (MatrixEntry κ σ)} (hkeys : (entries.map MatrixEntry.key).Nodup)
variable (describe : κ → String) (default : κ → Action σ Unit)

include hkeys in
/-- Where no key is declared twice, each entry has its own probe. -/
theorem probe?_ofEntries_of_mem {entry : MatrixEntry κ σ} (hentry : entry ∈ entries) :
  (ofEntries describe entries default).probe? entry.key = some (entry.probe default)
  := by
  have hreverse : (entries.reverse.map MatrixEntry.key).Nodup := by
    rw [List.map_reverse, List.nodup_reverse]
    exact hkeys
  rw [probe?_ofEntries, find?_key_of_nodup hreverse (List.mem_reverse.2 hentry)]
  rfl

include hkeys in
theorem report_ofEntries (verdicts : Verdicts κ) :
  (ofEntries describe entries default).report verdicts
    = entries.map fun entry =>
        ⟨entry.name, entry.version, Outcome.ofVerdict (verdicts.get? entry.key)⟩
  := by
  rw [report_eq_filterMap, rows_ofEntries, List.map_map, List.filterMap_map,
    ← List.filterMap_eq_map]
  apply List.filterMap_congr
  intro entry hentry
  dsimp only [Function.comp_apply]
  rw [probe?_ofEntries_of_mem hkeys describe default hentry]
  rfl

include hkeys in
theorem keys_probes_ofEntries :
  (ofEntries describe entries default).probes.map Prod.fst = entries.map MatrixEntry.key
  := by
  rw [keys_probes, rows_ofEntries, List.map_map, List.filterMap_map, ← List.filterMap_eq_map]
  apply List.filterMap_congr
  intro entry hentry
  dsimp only [Function.comp_apply]
  rw [probe?_ofEntries_of_mem hkeys describe default hentry]
  rfl

end Entries

end Matrix

/-! ### Features in reports -/

namespace Feature

/-- What a feature is called in a report. -/
def title : Feature → String
  | .programType t => Code.text t ++ " program"
  | .insn feature => feature.text
  | .attachment feature => feature.text
  | .helperCall call => s!"{call.helper.text} for {Code.text call.programType} program"

/-- The first release known to have a feature. -/
def version : Feature → Option KernelVersion
  | .programType t =>
    (ProgramType.declared.find? fun entry => entry.1 = t).map fun entry =>
      .release entry.2.1 entry.2.2
  | .insn feature => some feature.version
  | .attachment feature => some feature.version
  | .helperCall _ => none

/-- The row of a feature with an outcome. -/
def row (x : Feature) (outcome : Outcome) : FeatureRow := ⟨x.title, x.version, outcome⟩

/-- The features with a row in every report, in the order of reports. -/
def declared : List Feature :=
  ProgramType.declared.map (fun entry => .programType entry.1)
    ++ InsnFeature.all.map .insn
    ++ AttachFeature.all.map .attachment

/-- There is a probe for the feature. -/
def HasProbe : Feature → Prop
  | .programType t => t ∈ ProgramType.declared.map Prod.fst
  | .insn _ => True
  | .attachment _ => True
  | .helperCall call => HelperCall.isExcluded call.programType = false

theorem hasProbe_of_mem_declared {x : Feature} (h : x ∈ declared) :
  x.HasProbe
  := by
  cases x with
  | programType t => simpa [declared, HasProbe] using h
  | insn feature => trivial
  | attachment feature => trivial
  | helperCall call => simp [declared] at h

/-- The features whose checks a query runs, unless they were run before. -/
def touched : Feature → List Feature
  | .helperCall call =>
    if HelperCall.isExcluded call.programType then []
    else [.helperCall call, .programType call.programType]
  | x => [x]

end Feature

/-- The features whose checks an operation runs, unless they were run before. -/
def Operation.touched : Operation σ → List Feature
  | .ask x => x.touched
  | .probeAll => Feature.declared
  | .report => []
  | .elsewhere _ => []

section Tables

variable (K : Kernel σ)

theorem ProgramType.nodup_declared :
  (declared.map Prod.fst).Nodup
  := by
  decide +kernel

theorem InsnFeature.nodup_all :
  all.Nodup
  := by
  decide

theorem AttachFeature.nodup_all :
  all.Nodup
  := by
  decide

theorem ProgramType.report_matrix (verdicts : Verdicts ProgramType) :
  (matrix K).report verdicts = declared.map fun entry =>
    (Feature.programType entry.1).row (Outcome.ofVerdict (verdicts.get? entry.1))
  := by
  rw [matrix, Matrix.report_ofEntries, List.map_map]
  · apply List.map_congr_left
    intro entry hentry
    simp only [Function.comp_apply, Feature.row, Feature.title, Feature.version,
      find?_key_of_nodup nodup_declared hentry, Option.map_some]
  · rw [List.map_map]
    exact nodup_declared

theorem InsnFeature.report_matrix (verdicts : Verdicts InsnFeature) :
  (matrix K).report verdicts = all.map fun feature =>
    (Feature.insn feature).row (Outcome.ofVerdict (verdicts.get? feature))
  := by
  rw [matrix, Matrix.report_ofEntries, List.map_map]
  · rfl
  · rw [List.map_map]
    exact nodup_all

theorem AttachFeature.report_matrix (verdicts : Verdicts AttachFeature) :
  (matrix K).report verdicts = all.map fun feature =>
    (Feature.attachment feature).row (Outcome.ofVerdict (verdicts.get? feature))
  := by
  rw [matrix, Matrix.report_ofEntries, List.map_map]
  · rfl
  · rw [List.map_map]
    exact nodup_all

theorem ProgramType.keys_matrix :
  (matrix K).probes.map Prod.fst = declared.map Prod.fst
  := by
  rw [matrix, Matrix.keys_probes_ofEntries, List.map_map]
  · rfl
  · rw [List.map_map]
    exact nodup_declared

theorem Probes.declared_ofKernel :
  (ofKernel K).declared = Feature.declared
  := by
  have hkeys := congrArg (List.map Feature.programType) (ProgramType.keys_matrix K)
  rw [List.map_map, List.map_map] at hkeys
  rw [declared, Feature.declared]
  congr 2

theorem ProgramType.isSome_probe? (t : ProgramType) :
  ((matrix K).probe? t).isSome ↔ (Feature.programType t).HasProbe
  := by
  rw [probe?_matrix, Option.isSome_map, List.find?_isSome]
  simp [Feature.HasProbe]

theorem InsnFeature.isSome_probe? (feature : InsnFeature) :
  ((matrix K).probe? feature).isSome ↔ (Feature.insn feature).HasProbe
  := by
  rw [matrix, Matrix.probe?_ofEntries, Option.isSome_map, List.find?_isSome]
  cases feature with
  | _ => simp [Feature.HasProbe, all]

theorem AttachFeature.isSome_probe? (feature : AttachFeature) :
  ((matrix K).probe? feature).isSome ↔ (Feature.attachment feature).HasProbe
  := by
  rw [matrix, Matrix.probe?_ofEntries, Option.isSome_map, List.find?_isSome]
  cases feature with
  | _ => simp [Feature.HasProbe, all]

end Tables

/-! ### What operations touch -/

namespace Features

/-- The calls that have been asked for. -/
def calls (features : Features σ) : List HelperCall :=
  features.helperCalls.made.entries.map Prod.fst

/-- The calls that have been asked for are those on which there are verdicts, and there are verdicts on
their types as well. -/
structure Listed (features : Features σ) : Prop where
  nodup : features.calls.Nodup
  known : ∀ call ∈ features.calls, features.verdict? (.helperCall call) ≠ none
  type : ∀ call, features.verdict? (.helperCall call) ≠ none →
    (Feature.programType call.programType).HasProbe →
    features.verdict? (.programType call.programType) ≠ none

theorem listed_unknown :
  (Features.unknown : Features σ).Listed
  where
  nodup := List.nodup_nil
  known call hcall := by cases hcall
  type call hcall := absurd rfl hcall

end Features

/-- The invariants of a host. -/
structure Coherent (K : Kernel σ) (features : Features σ) : Prop where
  sound : ∃ executed, Sound K features executed
  listed : features.Listed

theorem Coherent.unknown (K : Kernel σ) :
  Coherent K (Features.unknown : Features σ)
  := ⟨⟨[], Sound.unknown K⟩, Features.listed_unknown⟩

/-- The calls that have been asked for are those on which there are verdicts. -/
theorem Coherent.mem_calls_iff {K : Kernel σ} {features : Features σ} (h : Coherent K features)
    (call : HelperCall) :
  call ∈ features.calls ↔ features.verdict? (.helperCall call) ≠ none
  := by
  obtain ⟨⟨executed, hS⟩, hlisted⟩ := h
  constructor
  · apply hlisted.known
  · intro hverdict
    obtain ⟨p, hp⟩ := Option.ne_none_iff_exists'.1 (hS.known call hverdict)
    exact Assoc.mem_keys_of_get? hp

/-- A step keeps the invariants, and the new verdicts are those on the features that it touches. -/
def Touches (K : Kernel σ) (x : StateM (Host σ) α) (touched : List Feature) : Prop :=
  ∀ h : Host σ, Coherent K h.features →
    Coherent K (x.run h).2.features
    ∧ ∀ y, (x.run h).2.features.verdict? y ≠ none
      ↔ h.features.verdict? y ≠ none ∨ (y ∈ touched ∧ y.HasProbe)

namespace Touches

variable {K : Kernel σ}

/-- A step that leaves what is known as it is touches nothing. -/
theorem of_keeps {x : StateM (Host σ) α} (hkeeps : ∀ h, (x.run h).2.features = h.features) :
  Touches K x []
  := by
  intro h hcoherent
  rw [hkeeps]
  refine ⟨hcoherent, ?_⟩
  intro y
  simp

theorem pure (a : α) :
  Touches K (Pure.pure a) []
  := by
  apply of_keeps
  intro h
  rfl

theorem bind {x : StateM (Host σ) α} {x' : α → StateM (Host σ) β} {first second : List Feature}
    (hx : Touches K x first) (hx' : ∀ a, Touches K (x' a) second) :
  Touches K (x >>= x') (first ++ second)
  := by
  intro h hcoherent
  obtain ⟨hcoherent', hfirst⟩ := hx h hcoherent
  obtain ⟨hcoherent'', hsecond⟩ := hx' (x.run h).1 (x.run h).2 hcoherent'
  refine ⟨hcoherent'', ?_⟩
  intro y
  have hrun : ((x >>= x').run h).2 = ((x' (x.run h).1).run (x.run h).2).2 := rfl
  rw [hrun, hsecond, hfirst, List.mem_append]
  tauto

theorem discard {x : StateM (Host σ) α} {touched : List Feature} (hx : Touches K x touched) :
  Touches K (Functor.discard x) touched
  := by
  intro h hcoherent
  apply hx h hcoherent

end Touches

/-- What is kept is kept by a query. -/
theorem Sound.ask {K : Kernel σ} {h : Host σ} {executed : List Feature}
    (hS : Sound K h.features executed) (x : Feature) :
  ∃ executed', Sound K (((Probes.ofKernel K).ask x).run h).2.features executed'
  := by
  obtain ⟨log, -, hS', -⟩ := Probes.follows_ask K x h { executed } hS
  exact ⟨log.executed, hS'⟩

section Queries

variable {K : Kernel σ} [DecidableEq κ] {feature : κ → Feature}
variable {part : Part (Host σ) (Verdicts κ × σ)}
variable {part' : Part (Host (σ × Log)) (Verdicts κ × σ × Log)}

/-- The check that a query to a matrix runs, if there is no verdict yet. -/
theorem Matrix.verdict_or_mem_executed {m : Matrix κ σ}
    (hm : ∀ k, (m.probe? k).isSome ↔ (feature k).HasProbe) (verdicts : Verdicts κ) (key : κ)
    (y : Feature) (known : Prop) (hknown : y = feature key → (known ↔ verdicts.get? key ≠ none)) :
  known ∨ y ∈ m.executed feature verdicts key ↔ known ∨ (y = feature key ∧ y.HasProbe)
  := by
  constructor
  · rintro (hy | hy)
    · exact .inl hy
    · obtain ⟨rfl, hnone⟩ := Matrix.eq_of_mem_executed hy
      refine .inr ⟨rfl, ?_⟩
      rw [← hm]
      rw [executed] at hy
      cases hanswer : m.answer? verdicts key with
      | some v =>
          rw [hanswer] at hy
          cases hy
      | none =>
          obtain ⟨p, hp, -⟩ := run_result_of_no_answer hanswer
          rw [hp]
          rfl
  · rintro (hy | ⟨rfl, hprobe⟩)
    · exact .inl hy
    · obtain ⟨p, hp⟩ := Option.isSome_iff_exists.1 ((hm key).2 hprobe)
      cases hverdict : verdicts.get? key with
      | some v =>
          left
          rw [hknown rfl, hverdict]
          exact Option.some_ne_none v
      | none =>
          right
          rw [executed, answer?, hp]
          dsimp only
          rw [hverdict]
          exact List.mem_singleton_self _

/-- A query to a matrix touches its feature. -/
theorem VerdictPart.touches_result (hpart : VerdictPart K feature part part')
    {m : Matrix κ σ} (hm : ∀ k, (m.probe? k).isSome ↔ (feature k).HasProbe) (key : κ)
    (hcalls : ∀ k call, feature k ≠ .helperCall call)
    (hsound : ∀ (h : Host σ) executed, Sound K h.features executed →
      ∃ executed', Sound K ((onPart part (m.result key)).run h).2.features executed') :
  Touches K (onPart part (m.result key)) [feature key]
  := by
  intro h hcoherent
  obtain ⟨⟨executed, hS⟩, hlisted⟩ := hcoherent
  have hverdict (y : Feature) :
      ((onPart part (m.result key)).run h).2.features.verdict? y ≠ none
        ↔ h.features.verdict? y ≠ none ∨ (y = feature key ∧ y.HasProbe) := by
    rw [hpart.verdict?_result_ne_none_iff]
    apply Matrix.verdict_or_mem_executed hm _ _ y
    rintro rfl
    rw [hpart.verdict]
  have hcall (call : HelperCall) :
      ((onPart part (m.result key)).run h).2.features.verdict? (.helperCall call) ≠ none
        ↔ h.features.verdict? (.helperCall call) ≠ none := by
    rw [hverdict, or_iff_left]
    rintro ⟨heq, -⟩
    exact hcalls key call heq.symm
  have hmade : ((onPart part (m.result key)).run h).2.features.calls = h.features.calls := by
    rw [run_onPart, Features.calls, hpart.calls]
    rfl
  refine ⟨⟨hsound h executed hS, ?_⟩, ?_⟩
  · constructor
    · rw [hmade]
      exact hlisted.nodup
    · intro call hmem
      rw [hmade] at hmem
      rw [hcall]
      exact hlisted.known call hmem
    · intro call hknown hprobe
      rw [hcall] at hknown
      rw [hverdict]
      exact .inl (hlisted.type call hknown hprobe)
  · intro y
    rw [hverdict, List.mem_singleton]

end Queries

namespace Probes

variable (K : Kernel σ)

/-- The calls that have been asked for after a verdict on one of them. -/
theorem calls_afterCall (h : Host σ) (call : HelperCall) :
  (h.afterCall (ofKernel K) call).features.calls
    = if call ∈ h.features.calls then h.features.calls else call :: h.features.calls
  := by
  show (h.features.helperCalls.including call ((ofKernel K).helperCall call)).made.entries.map
    Prod.fst = _
  rw [Cache.including]
  cases hmade : h.features.helperCalls.made.get? call with
  | some p =>
      have hold : call ∈ h.features.calls := Assoc.mem_keys_of_get? hmade
      rw [if_pos hold]
      rfl
  | none =>
      have hnew : call ∉ h.features.calls := by
        rw [Assoc.get?, Option.map_eq_none_iff, List.find?_eq_none] at hmade
        rintro hmem
        obtain ⟨entry, hentry, rfl⟩ := List.mem_map.1 hmem
        simpa using hmade entry hentry
      rw [if_neg hnew]
      dsimp only [Assoc.insert]
      rw [Assoc.erase_of_get?_eq_none hmade]
      rfl

/-- After a verdict on a call there are verdicts on the call and on its type. -/
theorem verdict?_afterCall_iff (h : Host σ) {call : HelperCall}
    (hprobe : (Feature.helperCall call).HasProbe) (y : Feature) :
  (h.afterCall (ofKernel K) call).features.verdict? y ≠ none
    ↔ h.features.verdict? y ≠ none
      ∨ (y ∈ [.helperCall call, .programType call.programType] ∧ y.HasProbe)
  := by
  have htype := Matrix.verdict_or_mem_executed (ProgramType.isSome_probe? K)
    h.features.programTypes call.programType y (h.features.verdict? y ≠ none) (by rintro rfl; rfl)
  rw [verdict?_afterCall_ne_none_iff, executedByCall, List.mem_cons, List.mem_pair, or_left_comm]
  show _ ∨ (_ ∨ y ∈ (ProgramType.matrix K).executed _ _ _) ↔ _
  rw [htype]
  constructor
  · rintro (rfl | hold | hnew)
    · exact .inr ⟨.inl rfl, hprobe⟩
    · exact .inl hold
    · exact .inr ⟨.inr hnew.1, hnew.2⟩
  · rintro (hold | ⟨rfl | rfl, hy⟩)
    · exact .inr (.inl hold)
    · exact .inl rfl
    · exact .inr (.inr ⟨rfl, hy⟩)

/-- A verdict on a call keeps the list of calls. -/
theorem listed_afterCall {h : Host σ} (hlisted : h.features.Listed) {call : HelperCall}
    (hprobe : (Feature.helperCall call).HasProbe) :
  (h.afterCall (ofKernel K) call).features.Listed
  := by
  constructor
  · rw [calls_afterCall]
    split
    next => exact hlisted.nodup
    next hnew => exact List.nodup_cons.2 ⟨hnew, hlisted.nodup⟩
  · intro call' hmem
    rw [verdict?_afterCall_iff K h hprobe]
    rw [calls_afterCall] at hmem
    by_cases hcall : call' = call
    · subst hcall
      exact .inr ⟨List.mem_cons_self, hprobe⟩
    · left
      apply hlisted.known call'
      split at hmem
      next => exact hmem
      next => exact (List.mem_cons.1 hmem).resolve_left hcall
  · intro call' hknown htype
    rw [verdict?_afterCall_iff K h hprobe] at hknown ⊢
    rcases hknown with hold | ⟨hnew, -⟩
    · exact .inl (hlisted.type call' hold htype)
    · rw [List.mem_pair] at hnew
      rcases hnew with hcall | hcall
      · cases hcall
        exact .inr ⟨by simp, htype⟩
      · cases hcall

/-- A query about a call touches the call and its type, unless programs of the type are excluded. -/
theorem touches_helperCall (call : HelperCall) :
  Touches K ((ofKernel K).ask (.helperCall call)) (Feature.helperCall call).touched
  := by
  rw [Feature.touched]
  by_cases hexcluded : HelperCall.isExcluded call.programType = true
  · rw [ask, if_pos hexcluded, if_pos hexcluded]
    apply Touches.pure
  rw [if_neg hexcluded]
  have hprobe : (Feature.helperCall call).HasProbe := by simpa [Feature.HasProbe] using hexcluded
  intro h hcoherent
  obtain ⟨⟨executed, hS⟩, hlisted⟩ := hcoherent
  cases hverdict : h.features.helperCalls.verdicts.get? call with
  | some v =>
      have hanswer : (ofKernel K).answer? h.features (.helperCall call) = some v := by
        rw [answer?, if_neg hexcluded, hverdict]
      have hknown : h.features.verdict? (.helperCall call) ≠ none := by
        rw [Features.verdict?, hverdict]
        exact Option.some_ne_none v
      rw [run_ask_of_answer? hS.known hanswer]
      refine ⟨⟨⟨executed, hS⟩, hlisted⟩, ?_⟩
      intro y
      rw [iff_self_or, List.mem_pair]
      rintro ⟨rfl | rfl, hy⟩
      · exact hknown
      · exact hlisted.type call hknown hy
  | none =>
      rw [run_ask_helperCall hexcluded hverdict hS.eq_helperCall]
      refine ⟨⟨⟨_, hS.afterCall hverdict⟩, listed_afterCall K hlisted hprobe⟩, ?_⟩
      apply verdict?_afterCall_iff K h hprobe

theorem touches_ask (x : Feature) :
  Touches K ((ofKernel K).ask x) x.touched
  := by
  cases x with
  | programType t =>
      apply (verdictPart_programTypes K).touches_result (ProgramType.isSome_probe? K)
      · intro k call hcall
        cases hcall
      · intro h executed hS
        exact hS.ask (.programType t)
  | insn feature =>
      apply (verdictPart_insns K).touches_result (InsnFeature.isSome_probe? K)
      · intro k call hcall
        cases hcall
      · intro h executed hS
        exact hS.ask (.insn feature)
  | attachment feature =>
      apply (verdictPart_attachments K).touches_result (AttachFeature.isSome_probe? K)
      · intro k call hcall
        cases hcall
      · intro h executed hS
        exact hS.ask (.attachment feature)
  | helperCall call => apply touches_helperCall

theorem touches_askAll (features : List Feature) :
  Touches K (features.forM fun x => discard ((ofKernel K).ask x))
    (features.flatMap Feature.touched)
  := by
  induction features with
  | nil => apply Touches.pure
  | cons x features ih =>
      rw [List.forM, List.flatMap_cons]
      apply Touches.bind
      · apply Touches.discard
        apply touches_ask
      · intro _
        apply ih

theorem flatMap_touched_declared :
  Feature.declared.flatMap Feature.touched = Feature.declared
  := by
  have hself : ∀ x ∈ Feature.declared, x.touched = [x] := by
    intro x hx
    cases x with
    | helperCall call => simp [Feature.declared] at hx
    | _ => rfl
  rw [List.flatMap_congr hself, List.flatMap_singleton']

theorem touches_probeAll :
  Touches K (ofKernel K).probeAll Feature.declared
  := by
  rw [probeAll, declared_ofKernel, ← List.append_nil Feature.declared]
  apply Touches.bind
  · have h := touches_askAll K Feature.declared
    rw [flatMap_touched_declared] at h
    simpa using h
  · intro _
    apply Touches.of_keeps
    intro h
    rfl

/-- One operation. -/
theorem touches_perform (operation : Operation σ) :
  Touches K ((ofKernel K).perform operation) operation.touched
  := by
  cases operation with
  | ask x =>
      have h := (touches_ask K x).bind fun v => Touches.pure (Reply.verdict v)
      rw [List.append_nil] at h
      exact h
  | probeAll =>
      have h := (touches_probeAll K).bind fun rows => Touches.pure (Reply.rows rows)
      rw [List.append_nil] at h
      exact h
  | report =>
      apply Touches.of_keeps
      intro h
      rfl
  | elsewhere change =>
      apply Touches.of_keeps
      intro h
      rfl

/-- Any number of operations in any order. -/
theorem touches_performAll (operations : List (Operation σ)) :
  Touches K ((ofKernel K).performAll operations) (operations.flatMap Operation.touched)
  := by
  induction operations with
  | nil => apply Touches.pure
  | cons operation operations ih =>
      rw [performAll, List.flatMap_cons]
      apply Touches.bind
      · apply touches_perform
      · intro reply
        have h := ih.bind fun replies => Touches.pure (reply :: replies)
        rw [List.append_nil] at h
        exact h

/-! ### Answers -/

variable {K}

/-- What has a probe has an answer just when there is a verdict. -/
theorem answer?_of_hasProbe {x : Feature} (hx : x.HasProbe) (features : Features σ) :
  (ofKernel K).answer? features x = features.verdict? x
  := by
  have hmatrix {κ : Type} [DecidableEq κ] {m : Matrix κ σ} {verdicts : Verdicts κ} {key : κ}
      (hprobe : (m.probe? key).isSome) : m.answer? verdicts key = verdicts.get? key := by
    obtain ⟨p, hp⟩ := Option.isSome_iff_exists.1 hprobe
    rw [Matrix.answer?, hp]
  cases x with
  | programType t => exact hmatrix ((ProgramType.isSome_probe? K t).2 hx)
  | insn feature => exact hmatrix ((InsnFeature.isSome_probe? K feature).2 hx)
  | attachment feature => exact hmatrix ((AttachFeature.isSome_probe? K feature).2 hx)
  | helperCall call =>
      have hincluded : ¬ HelperCall.isExcluded call.programType = true := by
        rw [hx]
        exact Bool.false_ne_true
      rw [answer?, if_neg hincluded]
      rfl

/-- A verdict that a query was answered with is there when all is done. -/
theorem verdict?_of_reply {h : Host σ} (hcoherent : Coherent K h.features) {x : Feature}
    (hx : x.HasProbe) {operations : List (Operation σ)} {i : Nat}
    (hi : operations[i]? = some (.ask x)) :
  ∃ v, (((ofKernel K).performAll operations).run h).1[i]? = some (.verdict v)
    ∧ (((ofKernel K).performAll operations).run h).2.features.verdict? x = some v
  := by
  induction operations generalizing h i with
  | nil => cases hi
  | cons operation operations ih =>
      have hcoherent' := (touches_perform K operation h hcoherent).1
      cases i with
      | zero =>
          cases hi
          obtain ⟨⟨executed, hS⟩, -⟩ := hcoherent
          obtain ⟨⟨executed', hS'⟩, -⟩ := hcoherent'
          obtain ⟨-, -, -, hextends⟩ := follows_performAll operations
            (((ofKernel K).perform (.ask x)).run h).2 { executed := executed' } hS'
          have hanswer := answer?_ask hS x
          rw [answer?_of_hasProbe hx] at hanswer
          exact ⟨_, rfl, hextends.verdict hanswer⟩
      | succ i => exact ih hcoherent' hi

end Probes

/-- An outcome says of a feature what an answer says. -/
structure Outcome.Tells (outcome : Outcome) (answer : Verdict) : Prop where
  supported : outcome = .supported ↔ answer = .ok ()
  notSupported : ∀ reason, outcome = .notSupported reason
    ↔ ∃ name version, answer = .error (.notSupported name version reason)
  inconclusive : ∀ message, outcome = .inconclusive message
    ↔ ∃ e, answer = .error e ∧ (∀ name version reason, e ≠ .notSupported name version reason)
      ∧ e.message = message

theorem Outcome.tells_ofVerdict (answer : Verdict) :
  (ofVerdict (some answer)).Tells answer
  := by
  constructor
  all_goals
    rcases answer with (⟨_, _, _⟩ | ⟨_, _⟩ | _) | _
    all_goals simp [ofVerdict]

/-! ### Calls in order -/

namespace HelperCall

/-- A call comes before another one by its type, or by its helper if they have the same type. -/
def Precedes (a b : HelperCall) : Prop :=
  Code.raw a.programType < Code.raw b.programType
    ∨ (Code.raw a.programType = Code.raw b.programType ∧ a.helper.id < b.helper.id)

instance (a b : HelperCall) : Decidable (a.Precedes b) :=
  inferInstanceAs (Decidable (_ ∨ (_ ∧ _)))

theorem Precedes.asymm {a b : HelperCall} (h : a.Precedes b) :
  ¬ b.Precedes a
  := by
  rintro (hback | ⟨heq, hback⟩)
  · rcases h with hlt | ⟨heq, -⟩
    · exact UInt32.lt_asymm hlt hback
    · rw [heq] at hback
      exact UInt32.lt_irrefl _ hback
  · rcases h with hlt | ⟨-, hlt⟩
    · rw [heq] at hlt
      exact UInt32.lt_irrefl _ hlt
    · exact UInt32.lt_asymm hlt hback

/-- Calls can be put into order in one way. -/
theorem eq_of_ascending {first second : List HelperCall} (hfirst : first.Pairwise Precedes)
    (hsecond : second.Pairwise Precedes) (hmem : ∀ call, call ∈ first ↔ call ∈ second) :
  first = second
  := by
  have hne {a b : HelperCall} (h : a.Precedes b) : a ≠ b := by
    rintro rfl
    exact h.asymm h
  have hperm : first.Perm second :=
    (List.perm_ext_iff_of_nodup (hfirst.imp hne) (hsecond.imp hne)).2 hmem
  apply hperm.eq_of_pairwise _ hfirst hsecond
  intro a b _ _ hab hba
  exact absurd hba hab.asymm

theorem isBefore_trans {a b c : HelperCall} (hab : a.isBefore b = true) (hbc : b.isBefore c = true) :
  a.isBefore c = true
  := by
  simp only [isBefore, Bool.or_eq_true, Bool.and_eq_true, decide_eq_true_eq, UInt32.lt_iff_toNat_lt,
    UInt32.le_iff_toNat_le, ← UInt32.toNat_inj] at hab hbc ⊢
  omega

theorem isBefore_total (a b : HelperCall) :
  (a.isBefore b || b.isBefore a) = true
  := by
  simp only [isBefore, Bool.or_eq_true, Bool.and_eq_true, decide_eq_true_eq, UInt32.lt_iff_toNat_lt,
    UInt32.le_iff_toNat_le, ← UInt32.toNat_inj]
  omega

/-- Calls from types that are read from a number differ in the type's number or in the helper. -/
theorem precedes_of_isBefore {a b : HelperCall} (h : a.isBefore b = true) (hne : a ≠ b)
    (ha : ∃ raw, a.programType = Code.ofRaw raw) (hb : ∃ raw, b.programType = Code.ofRaw raw) :
  a.Precedes b
  := by
  obtain ⟨i, hi⟩ := ha
  obtain ⟨j, hj⟩ := hb
  simp only [isBefore, Bool.or_eq_true, Bool.and_eq_true, decide_eq_true_eq] at h
  rcases h with hlt | ⟨heq, hle⟩
  · exact .inl hlt
  · refine .inr ⟨heq, UInt32.lt_of_le_of_ne hle ?_⟩
    intro hid
    apply hne
    have htype : a.programType = b.programType := by
      rw [hi, hj, Code.raw_ofRaw, Code.raw_ofRaw] at heq
      rw [hi, hj, heq]
    obtain ⟨t, ⟨f⟩⟩ := a
    obtain ⟨t', ⟨f'⟩⟩ := b
    cases htype
    cases hid
    rfl

end HelperCall

/-- The calls that have been asked for, in the order of reports. -/
def Features.callsInOrder (features : Features σ) : List HelperCall :=
  (features.helperCalls.made.entries.mergeSort fun a b => a.1.isBefore b.1).map Prod.fst

section Order

variable {K : Kernel σ} {features : Features σ}

theorem Features.perm_callsInOrder (features : Features σ) :
  features.callsInOrder.Perm features.calls
  := by
  apply List.Perm.map
  apply List.mergeSort_perm

theorem Coherent.precedes_callsInOrder (h : Coherent K features)
    (hraw : ∀ call ∈ features.calls, ∃ raw, call.programType = Code.ofRaw raw) :
  features.callsInOrder.Pairwise HelperCall.Precedes
  := by
  have hperm := features.perm_callsInOrder
  have hsorted : features.callsInOrder.Pairwise fun a b => a.isBefore b = true := by
    rw [Features.callsInOrder, List.pairwise_map]
    apply List.pairwise_mergeSort
    · intro a b c
      exact HelperCall.isBefore_trans
    · intro a b
      exact HelperCall.isBefore_total a.1 b.1
  have hnodup : features.callsInOrder.Nodup := hperm.nodup_iff.2 h.listed.nodup
  apply (hsorted.and hnodup).imp_of_mem
  rintro a b ha hb ⟨hbefore, hne⟩
  exact HelperCall.precedes_of_isBefore hbefore hne (hraw a (hperm.subset ha))
    (hraw b (hperm.subset hb))

/-- A report is made of the rows of the declared features and of those of the calls. -/
theorem Coherent.report_eq (h : Coherent K features) :
  (Probes.ofKernel K).report features
    = (Feature.declared ++ features.callsInOrder.map Feature.helperCall).map fun x =>
        x.row (features.outcome x)
  := by
  obtain ⟨⟨executed, hS⟩, -⟩ := h
  have hcalls : Probes.helperRows features.helperCalls
      = features.callsInOrder.map fun call =>
          (Feature.helperCall call).row (features.outcome (.helperCall call)) := by
    rw [Probes.helperRows, Features.callsInOrder, List.map_map]
    apply List.map_congr_left
    intro entry hentry
    rw [hS.made entry (List.mem_mergeSort.1 hentry)]
    rfl
  have htypes := ProgramType.report_matrix K features.programTypes
  have hinsns := InsnFeature.report_matrix K features.insns
  have hattachments := AttachFeature.report_matrix K features.attachments
  rw [Probes.report, hcalls]
  show (ProgramType.matrix K).report _ ++ (InsnFeature.matrix K).report _
    ++ (AttachFeature.matrix K).report _ ++ _ = _
  rw [htypes, hinsns, hattachments]
  simp only [Feature.declared, List.map_append, List.map_map]
  rfl

/-- A report depends on nothing but the verdicts. -/
theorem Coherent.report_congr {features' : Features σ} (h : Coherent K features)
    (h' : Coherent K features')
    (hraw : ∀ call, features.verdict? (.helperCall call) ≠ none →
      ∃ raw, call.programType = Code.ofRaw raw)
    (hverdict : ∀ x, features.verdict? x = features'.verdict? x) :
  (Probes.ofKernel K).report features = (Probes.ofKernel K).report features'
  := by
  have hcalls : features.callsInOrder = features'.callsInOrder := by
    apply HelperCall.eq_of_ascending
    · apply h.precedes_callsInOrder
      intro call hcall
      exact hraw call ((h.mem_calls_iff call).1 hcall)
    · apply h'.precedes_callsInOrder
      intro call hcall
      apply hraw call
      rw [hverdict]
      exact (h'.mem_calls_iff call).1 hcall
    · intro call
      rw [features.perm_callsInOrder.mem_iff, features'.perm_callsInOrder.mem_iff,
        h.mem_calls_iff, h'.mem_calls_iff, hverdict]
  have houtcome (x : Feature) : features.outcome x = features'.outcome x := by
    rw [Features.outcome, Features.outcome, hverdict]
  rw [h.report_eq, h'.report_eq, hcalls]
  simp only [houtcome]

end Order

/-! ### Reports after operations -/

namespace Probes

variable (K : Kernel σ) (s : σ) (operations : List (Operation σ))

/-- What operations on a kernel answer, and the host that they leave. -/
def afterAll : List Reply × Host σ := ((ofKernel K).performAll operations).run (.new s)

/-- The features whose checks are run by operations on a kernel. -/
def executedIn : List Feature :=
  (((watched K).performAll (operations.map .watched)).run (.new (s, {}))).2.kernel.2.executed

theorem coherent_afterAll :
  Coherent K (afterAll K s operations).2.features
  := (touches_performAll K operations (.new s) (Coherent.unknown K)).1

/-- There are verdicts on what has a probe and was touched. -/
theorem verdict?_afterAll (x : Feature) :
  (afterAll K s operations).2.features.verdict? x ≠ none
    ↔ (∃ operation ∈ operations, x ∈ operation.touched) ∧ x.HasProbe
  := by
  have hnone : (Host.new s).features.verdict? x = none := by
    cases x with
    | _ => rfl
  rw [afterAll, (touches_performAll K operations (.new s) (Coherent.unknown K)).2 x, hnone]
  simp

/-- The checks that were run are those on which there are verdicts. -/
theorem mem_executedIn (x : Feature) :
  x ∈ executedIn K s operations ↔ (afterAll K s operations).2.features.verdict? x ≠ none
  := by
  obtain ⟨log, hrun, hS, -⟩ := follows_performAll operations (.new s) {} (Sound.unknown K)
  have hfirst : ((watched K).performAll (operations.map .watched)).run (.new (s, {}))
      = ((afterAll K s operations).1, (afterAll K s operations).2.watched K log) := hrun
  rw [executedIn, hfirst]
  exact hS.mem_iff x

theorem touched_helperCall_iff {operation : Operation σ} {call : HelperCall}
    (hcall : (Feature.helperCall call).HasProbe) :
  .helperCall call ∈ operation.touched ↔ operation = .ask (.helperCall call)
  := by
  cases operation with
  | ask x =>
      cases x with
      | helperCall call' =>
          simp only [Operation.touched, Feature.touched, Operation.ask.injEq, Feature.helperCall.injEq]
          by_cases hexcluded : HelperCall.isExcluded call'.programType = true
          · rw [if_pos hexcluded]
            constructor
            · rintro ⟨⟩
            · rintro rfl
              rw [hcall] at hexcluded
              cases hexcluded
          · rw [if_neg hexcluded]
            simp [eq_comm]
      | _ => simp [Operation.touched, Feature.touched]
  | probeAll => simp [Operation.touched, Feature.declared]
  | report => simp [Operation.touched]
  | elsewhere change => simp [Operation.touched]

/-- The calls in the report are those that were asked for, but for those of excluded types. -/
theorem mem_callsInOrder_afterAll (call : HelperCall) :
  call ∈ (afterAll K s operations).2.features.callsInOrder
    ↔ .ask (.helperCall call) ∈ operations ∧ HelperCall.isExcluded call.programType = false
  := by
  rw [(Features.perm_callsInOrder _).mem_iff, (coherent_afterAll K s operations).mem_calls_iff,
    verdict?_afterAll]
  constructor
  · rintro ⟨⟨operation, hoperation, htouched⟩, hprobe⟩
    rw [touched_helperCall_iff hprobe] at htouched
    rw [← htouched]
    exact ⟨hoperation, hprobe⟩
  · rintro ⟨hasked, hprobe⟩
    exact ⟨⟨_, hasked, (touched_helperCall_iff hprobe).2 rfl⟩, hprobe⟩

/-- What a report says after operations on a kernel, with the calls that it lists. -/
structure Reported (calls : List HelperCall) : Prop where
  /-- The calls are in ascending order, so each is listed once. -/
  ascending : calls.Pairwise HelperCall.Precedes
  /-- The calls are those that were asked for, but for those of excluded types. -/
  mem_calls : ∀ call, call ∈ calls
    ↔ .ask (.helperCall call) ∈ operations ∧ HelperCall.isExcluded call.programType = false
  /-- There is a row for each declared feature, and one for each call. -/
  rows : (ofKernel K).report (afterAll K s operations).2.features
    = (Feature.declared ++ calls.map Feature.helperCall).map fun x =>
        x.row ((afterAll K s operations).2.features.outcome x)
  /-- A row says that its check was not run if that is so. -/
  notRun : ∀ x ∈ Feature.declared ++ calls.map Feature.helperCall,
    (afterAll K s operations).2.features.outcome x = .notRun ↔ x ∉ executedIn K s operations
  /-- A check was run if some operation touched its feature. -/
  run : ∀ x ∈ Feature.declared ++ calls.map Feature.helperCall,
    x ∈ executedIn K s operations ↔ ∃ operation ∈ operations, x ∈ operation.touched
  /-- What a row says of a check that was run is what a query answers. -/
  asked : ∀ x ∈ Feature.declared ++ calls.map Feature.helperCall, x ∈ executedIn K s operations →
    ((afterAll K s operations).2.features.outcome x).Tells
      (((ofKernel K).ask x).run (afterAll K s operations).2).1
  /-- What a row says is what every query about its feature was answered with. -/
  answered : ∀ x ∈ Feature.declared ++ calls.map Feature.helperCall, ∀ i : Nat,
    operations[i]? = some (.ask x) →
    ∃ answer, (afterAll K s operations).1[i]? = some (.verdict answer)
      ∧ ((afterAll K s operations).2.features.outcome x).Tells answer

variable {K s operations}

/-- Whatever is asked of a host, its report has a row for each declared feature and one for each call
that was asked for, in ascending order, and each row says what queries are answered with. -/
theorem report_rows (hraw : ∀ call, .ask (.helperCall call) ∈ operations →
      ∃ raw, call.programType = Code.ofRaw raw) :
  ∃ calls, Reported K s operations calls
  := by
  have hcoherent := coherent_afterAll K s operations
  have hprobe : ∀ x ∈ Feature.declared
      ++ (afterAll K s operations).2.features.callsInOrder.map Feature.helperCall, x.HasProbe := by
    intro x hx
    rcases List.mem_append.1 hx with hdeclared | hcall
    · exact Feature.hasProbe_of_mem_declared hdeclared
    · obtain ⟨call, hmem, rfl⟩ := List.mem_map.1 hcall
      exact ((mem_callsInOrder_afterAll K s operations call).1 hmem).2
  refine ⟨(afterAll K s operations).2.features.callsInOrder, ?_⟩
  constructor
  case ascending =>
    apply hcoherent.precedes_callsInOrder
    intro call hcall
    rw [← (Features.perm_callsInOrder _).mem_iff, mem_callsInOrder_afterAll] at hcall
    exact hraw call hcall.1
  case mem_calls => exact mem_callsInOrder_afterAll K s operations
  case rows => exact hcoherent.report_eq
  case notRun =>
    intro x hx
    rw [Features.outcome, Outcome.ofVerdict_eq_notRun_iff, mem_executedIn, not_not]
  case run =>
    intro x hx
    rw [mem_executedIn, verdict?_afterAll]
    exact and_iff_left (hprobe x hx)
  case asked =>
    intro x hx hrun
    rw [mem_executedIn] at hrun
    obtain ⟨v, hv⟩ := Option.ne_none_iff_exists'.1 hrun
    obtain ⟨⟨executed, hS⟩, -⟩ := hcoherent
    have hanswer : (ofKernel K).answer? (afterAll K s operations).2.features x = some v := by
      rw [answer?_of_hasProbe (hprobe x hx), hv]
    rw [run_ask_of_answer? hS.known hanswer, Features.outcome, hv]
    exact Outcome.tells_ofVerdict v
  case answered =>
    intro x hx i hi
    have hnew : Coherent K (Host.new s).features := Coherent.unknown K
    obtain ⟨v, hreply, hv⟩ := verdict?_of_reply hnew (hprobe x hx) hi
    refine ⟨v, hreply, ?_⟩
    rw [Features.outcome, afterAll, hv]
    exact Outcome.tells_ofVerdict v

/-- Queries about three calls in descending order, one of them from an excluded type. -/
def callsAsked : List (Operation (Memory.Machine Unit)) :=
  [.ask (.helperCall ⟨.tracing, ⟨1⟩⟩), .ask (.helperCall ⟨.xdp, ⟨51⟩⟩),
    .ask (.helperCall ⟨.kprobe, ⟨4⟩⟩), .report]

/-- The calls are in the report by ascending type, without the excluded one. -/
theorem report_rows_calls :
  Reported (Memory.kernel {} {}) ⟨{}, ()⟩ callsAsked [⟨.kprobe, ⟨4⟩⟩, ⟨.xdp, ⟨51⟩⟩]
  := by
  have hcalls (call : HelperCall) : .ask (.helperCall call) ∈ callsAsked
      ↔ call = ⟨.tracing, ⟨1⟩⟩ ∨ call = ⟨.xdp, ⟨51⟩⟩ ∨ call = ⟨.kprobe, ⟨4⟩⟩ := by
    simp [callsAsked]
  have hraw (call : HelperCall) (hcall : .ask (.helperCall call) ∈ callsAsked) :
      ∃ raw, call.programType = Code.ofRaw raw := by
    rw [hcalls] at hcall
    obtain rfl | rfl | rfl := hcall
    · exact ⟨26, rfl⟩
    · exact ⟨6, rfl⟩
    · exact ⟨2, rfl⟩
  obtain ⟨calls, h⟩ := report_rows (K := Memory.kernel {} {}) (s := ⟨{}, ()⟩) hraw
  have horder : calls = [⟨.kprobe, ⟨4⟩⟩, ⟨.xdp, ⟨51⟩⟩] := by
    apply HelperCall.eq_of_ascending h.ascending (by decide)
    intro call
    rw [h.mem_calls, hcalls]
    constructor
    · rintro ⟨rfl | rfl | rfl, hexcluded⟩
      · cases hexcluded
      · simp
      · simp
    · intro hcall
      simp only [List.mem_cons, List.not_mem_nil, or_false] at hcall
      obtain rfl | rfl := hcall
      · exact ⟨.inr (.inr rfl), rfl⟩
      · exact ⟨.inr (.inl rfl), rfl⟩
  rw [← horder]
  exact h

end Probes

end Bpf
