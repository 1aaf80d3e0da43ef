import Bpf.Proofs.Watching

/-!
# Every feature is probed once

A query that has an answer already is answered without a look at the kernel, and every other one runs
checks of which none has been run before.  `Sound` is the invariant of a host: it has verdicts on
those features whose checks were run, and each of them was run once.  It is kept by every query, and
hence by all that can be done with a host, in whatever order and whatever the kernel answers.
-/

namespace Bpf

variable {σ α β κ : Type}

/-! ### The invariant -/

/-- The host of a watched kernel that knows the same. -/
def Host.watched (K : Kernel σ) (h : Host σ) (log : Log) : Host (σ × Log) where
  features :=
    { programTypes := h.features.programTypes
      insns := h.features.insns
      attachments := h.features.attachments
      helperCalls :=
        { made := ⟨h.features.helperCalls.made.entries.map fun entry =>
            (entry.1, (Probes.watched K).helperCall entry.1)⟩
          verdicts := h.features.helperCalls.verdicts } }
  kernel := (h.kernel, log)

/-- There are verdicts on those features whose checks were run, and each of them was run once.  The
probes for calls of helpers are the right ones, and there is one for every verdict. -/
structure Sound (K : Kernel σ) (features : Features σ) (executed : List Feature) : Prop where
  nodup : executed.Nodup
  mem_iff : ∀ x, x ∈ executed ↔ features.verdict? x ≠ none
  made : ∀ entry ∈ features.helperCalls.made.entries,
    entry.2 = (Probes.ofKernel K).helperCall entry.1
  known : ∀ call, features.helperCalls.verdicts.get? call ≠ none →
    features.helperCalls.made.get? call ≠ none

namespace Sound

variable {K : Kernel σ}

theorem unknown (K : Kernel σ) :
  Sound K (Features.unknown : Features σ) []
  := by
  constructor
  · apply List.nodup_nil
  · intro x
    cases x with
    | _ => simp [Features.unknown, Features.verdict?, Cache.empty, Assoc.get?]
  · intro entry hentry
    cases hentry
  · intro call hcall
    apply absurd rfl hcall

/-- Checks of features without verdicts are run, and bring verdicts. -/
theorem after {earlier later : Features σ} {executed new : List Feature}
    (hS : Sound K earlier executed) (hnew : new.Nodup) (hfresh : ∀ x ∈ new, earlier.verdict? x = none)
    (hverdict : ∀ x, later.verdict? x ≠ none ↔ earlier.verdict? x ≠ none ∨ x ∈ new)
    (hmade : ∀ entry ∈ later.helperCalls.made.entries,
      entry.2 = (Probes.ofKernel K).helperCall entry.1)
    (hknown : ∀ call, later.helperCalls.verdicts.get? call ≠ none →
      later.helperCalls.made.get? call ≠ none) :
  Sound K later (executed ++ new)
  := by
  constructor
  · rw [List.nodup_append']
    constructor
    · apply hS.nodup
    constructor
    · apply hnew
    · intro x hold hx
      apply (hS.mem_iff x).1 hold
      apply hfresh x hx
  · intro x
    rw [List.mem_append, hS.mem_iff, hverdict]
  · apply hmade
  · apply hknown

end Sound

/-! ### Queries -/

/-- What is done with a watched host is what is done with the host itself.  The invariant is kept, and
so is all that is known. -/
def Follows (K : Kernel σ) (w : StateM (Host (σ × Log)) α) (x : StateM (Host σ) α) : Prop :=
  ∀ h log, Sound K h.features log.executed → ∃ log',
    w.run (h.watched K log) = ((x.run h).1, (x.run h).2.watched K log')
      ∧ Sound K (x.run h).2.features log'.executed
      ∧ (x.run h).2.features.Extends h.features

namespace Follows

variable {K : Kernel σ}

theorem pure (a : α) :
  Follows K (Pure.pure a) (Pure.pure a)
  := by
  intro h log hS
  apply Exists.intro log
  constructor
  · rfl
  constructor
  · apply hS
  · apply Features.Extends.refl

theorem bind {w : StateM (Host (σ × Log)) α} {x : StateM (Host σ) α}
    {w' : α → StateM (Host (σ × Log)) β} {x' : α → StateM (Host σ) β} (hx : Follows K w x)
    (hx' : ∀ a, Follows K (w' a) (x' a)) :
  Follows K (w >>= w') (x >>= x')
  := by
  intro h log hS
  obtain ⟨log', hrun, hS', hextends⟩ := hx h log hS
  obtain ⟨log'', hrun', hS'', hextends'⟩ := hx' (x.run h).1 (x.run h).2 log' hS'
  apply Exists.intro log''
  constructor
  · rw [StateT.run_bind, hrun]
    apply hrun'
  constructor
  · apply hS''
  · apply hextends.trans hextends'

theorem discard {w : StateM (Host (σ × Log)) α} {x : StateM (Host σ) α} (hx : Follows K w x) :
  Follows K (Functor.discard w) (Functor.discard x)
  := by
  rw [Functor.discard, Functor.discard, map_const, map_const]
  dsimp only [Function.comp]
  rw [map_eq_pure_bind, map_eq_pure_bind]
  apply hx.bind
  intro a
  apply pure

end Follows

/-- A part of a host with the verdicts on features of one kind. -/
structure VerdictPart (K : Kernel σ) (feature : κ → Feature) [DecidableEq κ]
    (part : Part (Host σ) (Verdicts κ × σ)) (part' : Part (Host (σ × Log)) (Verdicts κ × σ × Log)) :
    Prop where
  injective : ∀ {k k'}, feature k = feature k' → k = k'
  get : ∀ h log, part'.get (h.watched K log) = ((part.get h).1, (part.get h).2, log)
  set : ∀ h log v s log',
    part'.set (h.watched K log) (v, s, log') = (part.set h (v, s)).watched K log'
  verdict : ∀ h k, h.features.verdict? (feature k) = (part.get h).1.get? k
  verdict_set : ∀ h v k, (part.set h v).features.verdict? (feature k) = v.1.get? k
  other : ∀ h v {x}, (∀ k, x ≠ feature k) →
    (part.set h v).features.verdict? x = h.features.verdict? x
  calls : ∀ h v, (part.set h v).features.helperCalls = h.features.helperCalls

namespace VerdictPart

variable {K : Kernel σ} [DecidableEq κ] {feature : κ → Feature}
variable {part : Part (Host σ) (Verdicts κ × σ)}
variable {part' : Part (Host (σ × Log)) (Verdicts κ × σ × Log)}

theorem verdict?_result_ne_none_iff (hpart : VerdictPart K feature part part') (m : Matrix κ σ)
    (h : Host σ) (key : κ) (x : Feature) :
  ((onPart part (m.result key)).run h).2.features.verdict? x ≠ none
    ↔ h.features.verdict? x ≠ none ∨ x ∈ m.executed feature (part.get h).1 key
  := by
  rw [run_onPart]
  by_cases hx : ∃ k, x = feature k
  · obtain ⟨k, rfl⟩ := hx
    rw [hpart.verdict_set, hpart.verdict]
    apply Matrix.get?_result_ne_none_iff hpart.injective
  · rw [not_exists] at hx
    rw [hpart.other _ _ hx, or_iff_left (Matrix.not_mem_executed hx m _ key)]

theorem extends_result (hpart : VerdictPart K feature part part') (m : Matrix κ σ) (h : Host σ)
    (key : κ) :
  ((onPart part (m.result key)).run h).2.features.Extends h.features
  := by
  rw [run_onPart]
  constructor
  · intro x v hv
    by_cases hx : ∃ k, x = feature k
    · obtain ⟨k, rfl⟩ := hx
      rw [hpart.verdict] at hv
      rw [hpart.verdict_set]
      apply Matrix.get?_result_of_some m key hv
    · rw [not_exists] at hx
      rw [hpart.other _ _ hx]
      apply hv
  · rw [hpart.calls]
    intro entry hentry
    apply hentry

/-- A query about a feature of one kind adds to the verdicts of that kind and to nothing else. -/
theorem follows_result (hpart : VerdictPart K feature part part') {m' : Matrix κ (σ × Log)}
    {m : Matrix κ σ} (hm : m'.Watches feature m) (key : κ) :
  Follows K (onPart part' (m'.result key)) (onPart part (m.result key))
  := by
  intro h log hS
  obtain ⟨requests, hrun⟩ := hm.run_result (part.get h).1 key (part.get h).2 log
  apply Exists.intro
    ((log.afterChecks (m.executed feature (part.get h).1 key)).afterRequests requests)
  constructor
  · rw [run_onPart, run_onPart, hpart.get, hrun]
    dsimp only
    rw [hpart.set]
  constructor
  · apply hS.after (Matrix.nodup_executed feature m (part.get h).1 key)
    · intro x hx
      obtain ⟨rfl, hnone⟩ := Matrix.eq_of_mem_executed hx
      rw [hpart.verdict, hnone]
    · apply hpart.verdict?_result_ne_none_iff
    · rw [run_onPart, hpart.calls]
      apply hS.made
    · rw [run_onPart, hpart.calls]
      apply hS.known
  · apply hpart.extends_result

end VerdictPart

section Parts

variable (K : Kernel σ)

theorem verdictPart_programTypes :
  VerdictPart K Feature.programType Host.programTypePart Host.programTypePart
  := by
  constructor
  case injective => rintro k k' ⟨⟩; rfl
  case other =>
    intro h v x hx
    cases x with
    | programType t => apply absurd rfl (hx t)
    | _ => rfl
  all_goals
    intros
    rfl

theorem verdictPart_insns :
  VerdictPart K Feature.insn Host.insnPart Host.insnPart
  := by
  constructor
  case injective => rintro k k' ⟨⟩; rfl
  case other =>
    intro h v x hx
    cases x with
    | insn feature => apply absurd rfl (hx feature)
    | _ => rfl
  all_goals
    intros
    rfl

theorem verdictPart_attachments :
  VerdictPart K Feature.attachment Host.attachmentPart Host.attachmentPart
  := by
  constructor
  case injective => rintro k k' ⟨⟩; rfl
  case other =>
    intro h v x hx
    cases x with
    | attachment feature => apply absurd rfl (hx feature)
    | _ => rfl
  all_goals
    intros
    rfl

end Parts

namespace Host

variable (K : Kernel σ) (h : Host σ) (log : Log) (call : HelperCall)

theorem outcome_watched (x : Feature) :
  (h.watched K log).features.outcome x = h.features.outcome x
  := by
  cases x with
  | _ => rfl

theorem get?_made_watched :
  (h.watched K log).features.helperCalls.made.get? call
    = (h.features.helperCalls.made.get? call).map fun _ => (Probes.watched K).helperCall call
  := by
  rw [Assoc.get?, Assoc.get?, watched, List.find?_map, Option.map_map, Option.map_map]
  apply Option.map_congr
  intro entry hentry
  have hkey : entry.1 = call := by simpa using List.find?_some hentry
  rw [← hkey]
  rfl

theorem made_including_watched :
  ((h.watched K log).features.helperCalls.including call ((Probes.watched K).helperCall call)).made
    = ⟨(h.features.helperCalls.including call ((Probes.ofKernel K).helperCall call)).made.entries.map
        fun entry => (entry.1, (Probes.watched K).helperCall entry.1)⟩
  := by
  have hget := get?_made_watched K h log call
  unfold Cache.including
  cases hp : h.features.helperCalls.made.get? call with
  | some p =>
      rw [hp] at hget
      rw [hget]
      rfl
  | none =>
      rw [hp] at hget
      rw [hget]
      dsimp only [Option.map_none, Assoc.insert]
      rw [Assoc.erase_of_get?_eq_none hget, Assoc.erase_of_get?_eq_none hp]
      rfl

/-- Watching leaves the answer to a query about a call as it is, and notes the checks. -/
theorem afterCall_watched :
  ∃ requests,
    (((Probes.watched K).helperCall call).run.run
          ((h.watched K log).features.programTypes, (h.watched K log).kernel)).1
        = (((Probes.ofKernel K).helperCall call).run.run (h.features.programTypes, h.kernel)).1
      ∧ (h.watched K log).afterCall (Probes.watched K) call
        = (h.afterCall (Probes.ofKernel K) call).watched K
            ((log.afterChecks ((Probes.ofKernel K).executedByCall h.features call)).afterRequests
              requests)
  := by
  obtain ⟨requests, hrun⟩ :=
    Probes.run_watched_helperCall K call h.features.programTypes h.kernel log
  have hstate : ((h.watched K log).features.programTypes, (h.watched K log).kernel)
      = (h.features.programTypes, h.kernel, log) := rfl
  apply Exists.intro requests
  constructor
  · rw [hstate, hrun]
  · rw [afterCall, hstate, hrun, made_including_watched]
    rfl

end Host

theorem Sound.known_watched {K : Kernel σ} {h : Host σ} {executed : List Feature}
    (hS : Sound K h.features executed) (log : Log) (call : HelperCall)
    (hverdict : (h.watched K log).features.helperCalls.verdicts.get? call ≠ none) :
  (h.watched K log).features.helperCalls.made.get? call ≠ none
  := by
  rw [Host.get?_made_watched, Ne, Option.map_eq_none_iff]
  apply hS.known call hverdict

theorem Sound.eq_helperCall {K : Kernel σ} {h : Host σ} {executed : List Feature}
    (hS : Sound K h.features executed) {call : HelperCall} (p : Probe (Verdicts ProgramType × σ))
    (hp : h.features.helperCalls.made.get? call = some p) :
  p = (Probes.ofKernel K).helperCall call
  := by
  obtain ⟨entry, hentry, rfl⟩ := Option.map_eq_some_iff.1 hp
  have hkey : entry.1 = call := by simpa using List.find?_some hentry
  rw [← hkey]
  apply hS.made entry (List.mem_of_find?_eq_some hentry)

theorem Sound.afterCall {K : Kernel σ} {h : Host σ} {executed : List Feature}
    (hS : Sound K h.features executed) {call : HelperCall}
    (hverdict : h.features.helperCalls.verdicts.get? call = none) :
  Sound K (h.afterCall (Probes.ofKernel K) call).features
    (executed ++ (Probes.ofKernel K).executedByCall h.features call)
  := by
  apply hS.after
  · apply Probes.nodup_executedByCall
  · intro x hx
    apply Probes.verdict?_of_mem_executedByCall hverdict hx
  · apply Probes.verdict?_afterCall_ne_none_iff
  · intro entry hentry
    obtain hold | ⟨-, rfl⟩ := Cache.mem_made_including.1 hentry
    · apply hS.made entry hold
    · rfl
  · intro call' hcall'
    dsimp only [Host.afterCall] at hcall' ⊢
    rw [Assoc.get?_insert] at hcall'
    rw [Cache.get?_made_including]
    by_cases hcall : call' = call
    · rw [if_pos hcall]
      apply Option.some_ne_none
    · rw [if_neg hcall] at hcall' ⊢
      apply hS.known call' hcall'

namespace Probes

variable (K : Kernel σ)

/-- A query about a call may bring a verdict on its type besides the one on the call. -/
theorem follows_helperCall (call : HelperCall) :
  Follows K ((watched K).ask (.helperCall call)) ((ofKernel K).ask (.helperCall call))
  := by
  by_cases hexcluded : HelperCall.isExcluded call.programType = true
  · rw [ask, ask, if_pos hexcluded, if_pos hexcluded]
    apply Follows.pure
  intro h log hS
  cases hverdict : h.features.helperCalls.verdicts.get? call with
  | some v =>
      have hanswer : (ofKernel K).answer? h.features (.helperCall call) = some v := by
        rw [answer?, if_neg hexcluded, hverdict]
      have hanswer' : (watched K).answer? (h.watched K log).features (.helperCall call) = some v := by
        rw [answer?, if_neg hexcluded]
        apply hverdict
      rw [run_ask_of_answer? hS.known hanswer]
      apply Exists.intro log
      constructor
      · apply run_ask_of_answer? (hS.known_watched log) hanswer'
      constructor
      · apply hS
      · apply Features.Extends.refl
  | none =>
      have hmade' (p : Probe (Verdicts ProgramType × σ × Log))
          (hp : (h.watched K log).features.helperCalls.made.get? call = some p) :
          p = (watched K).helperCall call := by
        rw [Host.get?_made_watched] at hp
        obtain ⟨q, -, rfl⟩ := Option.map_eq_some_iff.1 hp
        rfl
      obtain ⟨requests, hanswer, hafter⟩ := Host.afterCall_watched K h log call
      rw [run_ask_helperCall hexcluded hverdict hS.eq_helperCall]
      apply Exists.intro
        ((log.afterChecks ((ofKernel K).executedByCall h.features call)).afterRequests requests)
      constructor
      · rw [run_ask_helperCall (h := h.watched K log) hexcluded hverdict hmade', hanswer, hafter]
      constructor
      · apply hS.afterCall hverdict
      · apply extends_afterCall K hverdict

theorem follows_ask (x : Feature) :
  Follows K ((watched K).ask x) ((ofKernel K).ask x)
  := by
  cases x with
  | programType t =>
      apply (verdictPart_programTypes K).follows_result
      apply watches_programTypes
  | insn feature =>
      apply (verdictPart_insns K).follows_result
      apply watches_insns
  | attachment feature =>
      apply (verdictPart_attachments K).follows_result
      apply watches_attachments
  | helperCall call => apply follows_helperCall

variable {K}

/-- After a query its answer is known. -/
theorem answer?_ask {h : Host σ} {executed : List Feature} (hS : Sound K h.features executed)
    (x : Feature) :
  (ofKernel K).answer? (((ofKernel K).ask x).run h).2.features x
    = some (((ofKernel K).ask x).run h).1
  := by
  cases x with
  | programType t => apply Matrix.answer?_result
  | insn feature => apply Matrix.answer?_result
  | attachment feature => apply Matrix.answer?_result
  | helperCall call =>
      cases hanswer : (ofKernel K).answer? h.features (.helperCall call) with
      | some v =>
          rw [run_ask_of_answer? hS.known hanswer]
          apply hanswer
      | none =>
          rw [answer?] at hanswer
          by_cases hexcluded : HelperCall.isExcluded call.programType = true
          · rw [if_pos hexcluded] at hanswer
            cases hanswer
          · rw [if_neg hexcluded] at hanswer
            rw [run_ask_helperCall hexcluded hanswer hS.eq_helperCall, answer?, if_neg hexcluded]
            dsimp only [Host.afterCall]
            rw [Assoc.get?_insert, if_pos rfl]

theorem answer?_watched (h : Host σ) (log : Log) (x : Feature) :
  (watched K).answer? (h.watched K log).features x = (ofKernel K).answer? h.features x
  := by
  cases x with
  | programType t => apply (watches_programTypes K).answer?_eq
  | insn feature => apply (watches_insns K).answer?_eq
  | attachment feature => apply (watches_attachments K).answer?_eq
  | helperCall call => rfl

/-! ### Reports -/

theorem helperRows_watched {h : Host σ} {executed : List Feature} (hS : Sound K h.features executed)
    (log : Log) :
  helperRows (h.watched K log).features.helperCalls = helperRows h.features.helperCalls
  := by
  let watchedEntry (entry : HelperCall × Probe (Verdicts ProgramType × σ)) :=
    (entry.1, (watched K).helperCall entry.1)
  have hsort := List.map_mergeSort (l := h.features.helperCalls.made.entries) (f := watchedEntry)
    (r := fun a b => a.1.isBefore b.1) (s := fun a b => a.1.isBefore b.1) (fun _ _ _ _ => rfl)
  unfold helperRows Host.watched
  dsimp only
  rw [← hsort, List.map_map]
  apply List.map_congr_left
  intro entry hentry
  have hmade := hS.made entry (List.mem_mergeSort.1 hentry)
  dsimp only [Function.comp_def]
  rw [hmade]
  rfl

theorem report_watched {h : Host σ} {executed : List Feature} (hS : Sound K h.features executed)
    (log : Log) :
  (watched K).report (h.watched K log).features = (ofKernel K).report h.features
  := by
  have htypes := (watches_programTypes K).report_eq h.features.programTypes
  have hinsns := (watches_insns K).report_eq h.features.insns
  have hattachments := (watches_attachments K).report_eq h.features.attachments
  rw [report, report, helperRows_watched hS, ← htypes, ← hinsns, ← hattachments]
  rfl

theorem declared_watched (K : Kernel σ) :
  (watched K).declared = (ofKernel K).declared
  := by
  have hkeys := (watches_programTypes K).keys_probes_eq
  have hdeclared (P : Probes σ) (P' : Probes (σ × Log))
      (h : P'.programTypes.probes.map Prod.fst = P.programTypes.probes.map Prod.fst) :
      P'.declared = P.declared := by
    rw [declared, declared]
    have hmap := congrArg (List.map Feature.programType) h
    rw [List.map_map, List.map_map] at hmap
    congr 2
  apply hdeclared _ _ hkeys

end Probes

/-! ### Operations -/

/-- What can be done with a host, and what can happen to its kernel in between. -/
inductive Operation (σ : Type) where
  | ask (x : Feature)
  | probeAll
  | report
  /-- Somebody else changes the state of the kernel. -/
  | elsewhere (change : σ → σ)

/-- The same with a watched kernel. -/
def Operation.watched : Operation σ → Operation (σ × Log)
  | .ask x => .ask x
  | .probeAll => .probeAll
  | .report => .report
  | .elsewhere change => .elsewhere fun s => (change s.1, s.2)

/-- What an operation gives. -/
inductive Reply where
  | verdict (verdict : Verdict)
  | rows (rows : List FeatureRow)
  | nothing

namespace Probes

/-- Carries out an operation. -/
def perform (P : Probes σ) : Operation σ → StateM (Host σ) Reply
  | .ask x => return .verdict (← P.ask x)
  | .probeAll => return .rows (← P.probeAll)
  | .report => return .rows (P.report (← get).features)
  | .elsewhere change => do
    modify fun h => { h with kernel := change h.kernel }
    return .nothing

/-- Carries out operations one after another. -/
def performAll (P : Probes σ) : List (Operation σ) → StateM (Host σ) (List Reply)
  | [] => return []
  | operation :: operations => do
    let reply ← P.perform operation
    let replies ← P.performAll operations
    return reply :: replies

variable {K : Kernel σ}

theorem follows_report (f : List FeatureRow → α) :
  Follows K (return f ((watched K).report (← get).features))
    (return f ((ofKernel K).report (← get).features))
  := by
  intro h log hS
  apply Exists.intro log
  constructor
  · show (f ((watched K).report (h.watched K log).features), _) = _
    rw [report_watched hS]
    rfl
  constructor
  · apply hS
  · apply Features.Extends.refl

theorem follows_askAll (features : List Feature) :
  Follows K (features.forM fun x => discard ((watched K).ask x))
    (features.forM fun x => discard ((ofKernel K).ask x))
  := by
  induction features with
  | nil => apply Follows.pure
  | cons x features ih =>
      rw [List.forM, List.forM]
      apply Follows.bind
      · apply Follows.discard
        apply follows_ask
      · intro _
        apply ih

theorem follows_probeAll :
  Follows K (watched K).probeAll (ofKernel K).probeAll
  := by
  rw [probeAll, probeAll, declared_watched]
  apply Follows.bind
  · apply follows_askAll
  · intro _
    apply follows_report id

/-- One operation. -/
theorem follows_perform (operation : Operation σ) :
  Follows K ((watched K).perform operation.watched) ((ofKernel K).perform operation)
  := by
  cases operation with
  | ask x =>
      apply Follows.bind
      · apply follows_ask
      · intro v
        apply Follows.pure
  | probeAll =>
      apply Follows.bind
      · apply follows_probeAll
      · intro rows
        apply Follows.pure
  | report => apply follows_report
  | elsewhere change =>
      intro h log hS
      apply Exists.intro log
      constructor
      · rfl
      constructor
      · apply hS
      · apply Features.Extends.refl

/-- Any number of operations in any order. -/
theorem follows_performAll (operations : List (Operation σ)) :
  Follows K ((watched K).performAll (operations.map .watched)) ((ofKernel K).performAll operations)
  := by
  induction operations with
  | nil => apply Follows.pure
  | cons operation operations ih =>
      rw [List.map_cons, performAll, performAll]
      apply Follows.bind
      · apply follows_perform
      · intro reply
        apply Follows.bind
        · apply ih
        · intro replies
          apply Follows.pure

/-- Whatever has been done with a host, each check was run at most once, and those that were run are
the ones of which the outcome is known.  An outcome that is known never changes, and its row is in all
later reports.  A report asks for nothing, and neither does a query that was made before: it is
answered as it was the first time.  None of this is due to the watching, without which the replies and
the kernel are the same. -/
theorem probed_once (K : Kernel σ) (s : σ) (before after : List (Operation σ)) (x : Feature) :
  let W := watched K
  let first := (W.performAll (before.map .watched)).run (.new (s, {}))
  let later := (W.performAll (after.map .watched)).run first.2
  let asked := (W.ask x).run first.2
  let last := (W.performAll (after.map .watched)).run asked.2
  let unwatched := ((ofKernel K).performAll before).run (.new s)
  first.2.kernel.2.executed.Nodup
    ∧ (∀ y, y ∈ first.2.kernel.2.executed ↔ first.2.features.outcome y ≠ .notRun)
    ∧ (∀ y, first.2.features.outcome y ≠ .notRun →
      later.2.features.outcome y = first.2.features.outcome y)
    ∧ (∀ row ∈ W.report first.2.features, row.outcome ≠ .notRun → row ∈ W.report later.2.features)
    ∧ (W.perform .report).run first.2 = (.rows (W.report first.2.features), first.2)
    ∧ (W.ask x).run last.2 = (asked.1, last.2)
    ∧ unwatched.1 = first.1
    ∧ unwatched.2.kernel = first.2.kernel.1
  := by
  intro W first later asked last unwatched
  let asked₀ := ((ofKernel K).ask x).run unwatched.2
  let last₀ := ((ofKernel K).performAll after).run asked₀.2
  let later₀ := ((ofKernel K).performAll after).run unwatched.2
  obtain ⟨log₁, hfirst, hS₁, -⟩ := follows_performAll before (.new s) {} (Sound.unknown K)
  obtain ⟨log₂, hrun₂, hS₂, -⟩ := follows_ask K x unwatched.2 log₁ hS₁
  obtain ⟨log₃, hrun₃, hS₃, hextends⟩ := follows_performAll after asked₀.2 log₂ hS₂
  obtain ⟨log₄, hrun₄, hS₄, hextends'⟩ := follows_performAll after unwatched.2 log₁ hS₁
  have hfirst : first = (unwatched.1, unwatched.2.watched K log₁) := hfirst
  have hasked : asked = (asked₀.1, asked₀.2.watched K log₂) := by
    show (W.ask x).run first.2 = _
    rw [hfirst]
    apply hrun₂
  have hlast : last = (last₀.1, last₀.2.watched K log₃) := by
    show (W.performAll (after.map .watched)).run asked.2 = _
    rw [hasked]
    apply hrun₃
  have hlater : later = (later₀.1, later₀.2.watched K log₄) := by
    show (W.performAll (after.map .watched)).run first.2 = _
    rw [hfirst]
    apply hrun₄
  constructor
  · rw [hfirst]
    apply hS₁.nodup
  constructor
  · intro y
    rw [hfirst, Host.outcome_watched, Features.outcome, Ne, Outcome.ofVerdict_eq_notRun_iff]
    apply hS₁.mem_iff
  constructor
  · intro y
    rw [hlater, hfirst, Host.outcome_watched, Host.outcome_watched]
    apply hextends'.outcome
  constructor
  · rw [hlater, hfirst, report_watched hS₄, report_watched hS₁]
    intro row
    apply mem_report_of_extends hextends'
  constructor
  · rfl
  constructor
  · rw [hlast, hasked]
    apply run_ask_of_answer? (hS₃.known_watched log₃)
    rw [answer?_watched]
    apply answer?_of_extends hextends
    apply answer?_ask hS₁
  constructor
  · rw [hfirst]
  · rw [hfirst]
    rfl

end Probes

end Bpf
