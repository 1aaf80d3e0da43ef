import Bpf.Proofs.KnownAnswer
import Bpf.Request

/-!
# Watching a kernel and its probes

`Kernel.watched` is the kernel with a list of the requests made of it, and `Probes.watched` are the
probes for that kernel, each of which puts its feature on another list whenever its check is run.
Both lists are only written to.  An action `Watches` another one if it does the same and notes its
requests besides; all that the checks do is of this kind.
-/

namespace Bpf

variable {σ α β : Type}

/-! ### Lists of what happened -/

/-- What has been seen of a kernel and of the probes for it, in the order in which it happened. -/
structure Log where
  requests : List Request := []
  /-- The features whose checks were run. -/
  executed : List Feature := []

namespace Log

/-- More requests are made. -/
def afterRequests (log : Log) (requests : List Request) : Log :=
  { log with requests := log.requests ++ requests }

/-- More checks are run. -/
def afterChecks (log : Log) (features : List Feature) : Log :=
  { log with executed := log.executed ++ features }

@[simp]
theorem afterRequests_nil (log : Log) :
  log.afterRequests [] = log
  := by
  simp only [afterRequests, List.append_nil]

@[simp]
theorem afterChecks_nil (log : Log) :
  log.afterChecks [] = log
  := by
  simp only [afterChecks, List.append_nil]

@[simp]
theorem afterRequests_append (log : Log) (first second : List Request) :
  (log.afterRequests first).afterRequests second = log.afterRequests (first ++ second)
  := by
  simp only [afterRequests, List.append_assoc]

@[simp]
theorem afterChecks_append (log : Log) (first second : List Feature) :
  (log.afterChecks first).afterChecks second = log.afterChecks (first ++ second)
  := by
  simp only [afterChecks, List.append_assoc]

end Log

/-! ### Watched kernels and probes -/

/-- Notes a request, and refuses none. -/
def noteRequest (request : Request) : StateM (σ × Log) (Option Error) := do
  modify fun s => (s.1, s.2.afterRequests [request])
  return none

/-- The kernel with a list of its requests. -/
def Kernel.watched (K : Kernel σ) : Kernel (σ × Log) :=
  Kernel.guarded noteRequest (K.onPart (Part.first σ Log))

/-- The state in which the check for a feature has just been called. -/
def noteCheck (x : Feature) (s : σ × Log) : σ × Log := (s.1, s.2.afterChecks [x])

/-- The probe that makes a note before it runs its check. -/
def Probe.noting (note : σ → σ) (p : Probe σ) : Probe σ :=
  { p with
    check := do
      modify note
      p.check }

/-- The matrix whose probes make notes. -/
def Matrix.noting {κ : Type} (note : κ → σ → σ) (m : Matrix κ σ) : Matrix κ σ :=
  { m with rows := m.rows.map fun row => (row.1, row.2.noting (note row.1)) }

/-- The probes for a watched kernel, which make notes of their features. -/
def Probes.watched (K : Kernel σ) : Probes (σ × Log) :=
  let types := (ProgramType.matrix K.watched).noting fun t => noteCheck (.programType t)
  { programTypes := types
    insns := (InsnFeature.matrix K.watched).noting fun feature => noteCheck (.insn feature)
    attachments :=
      (AttachFeature.matrix K.watched).noting fun feature => noteCheck (.attachment feature)
    helperCall := fun call =>
      (HelperCall.probe types (HelperCall.tryLoad K.watched call) call).noting fun s =>
        (s.1, noteCheck (.helperCall call) s.2) }

/-! ### Watched actions -/

/-- The first action does what the second one does, and notes its requests. -/
def Watches (x : Action (σ × Log) α) (y : Action σ α) : Prop :=
  ∀ s log, ∃ requests,
    x.run.run (s, log) = ((y.run.run s).1, ((y.run.run s).2, log.afterRequests requests))

namespace Watches

theorem pure (a : α) :
  Watches (Pure.pure a : Action (σ × Log) α) (Pure.pure a)
  := by
  intro s log
  apply Exists.intro []
  rw [Log.afterRequests_nil]
  rfl

theorem throw (e : Error) :
  Watches (MonadExcept.throw e : Action (σ × Log) α) (MonadExcept.throw e)
  := by
  intro s log
  apply Exists.intro []
  rw [Log.afterRequests_nil]
  rfl

theorem ofExcept (answer : Except Error α) :
  Watches (Action.ofExcept answer : Action (σ × Log) α) (Action.ofExcept answer)
  := by
  cases answer with
  | ok a => apply pure
  | error e => apply throw

theorem bind {x : Action (σ × Log) α} {y : Action σ α} {f : α → Action (σ × Log) β}
    {g : α → Action σ β} (hx : Watches x y) (hf : ∀ a, Watches (f a) (g a)) :
  Watches (x >>= f) (y >>= g)
  := by
  intro s log
  obtain ⟨first, hfirst⟩ := hx s log
  rcases hy : y.run.run s with ⟨e | a, s'⟩
  · rw [hy] at hfirst
    apply Exists.intro first
    rw [Action.run_bind_of_error hfirst, Action.run_bind_of_error hy]
  · rw [hy] at hfirst
    obtain ⟨second, hsecond⟩ := hf a s' (log.afterRequests first)
    apply Exists.intro (first ++ second)
    rw [Action.run_bind_of_ok hfirst, Action.run_bind_of_ok hy, hsecond, Log.afterRequests_append]

/-- An attempt makes the requests of the action that it tries. -/
theorem attempt_bind {x : Action (σ × Log) α} {y : Action σ α}
    {f : Except Error α → Action (σ × Log) β} {g : Except Error α → Action σ β}
    (hx : Watches x y) (hf : ∀ answer, Watches (f answer) (g answer)) :
  Watches (Action.attempt x >>= f) (Action.attempt y >>= g)
  := by
  intro s log
  obtain ⟨first, hfirst⟩ := hx s log
  obtain ⟨second, hsecond⟩ := hf (y.run.run s).1 (y.run.run s).2 (log.afterRequests first)
  apply Exists.intro (first ++ second)
  rw [Action.run_attempt_bind, Action.run_attempt_bind, hfirst, hsecond, Log.afterRequests_append]

/-- A request is noted and passed on. -/
theorem request (r : Request) (x : Action σ α) :
  Watches (Kernel.unlessRefused noteRequest r (Action.onPart (Part.first σ Log) x)) x
  := by
  intro s log
  apply Exists.intro [r]
  rfl

end Watches

/-- The first action does what the second one does, and notes these requests besides. -/
def Notes (requests : List Request) (x : Action (σ × Log) α) (y : Action σ α) : Prop :=
  ∀ s log, x.run.run (s, log) = ((y.run.run s).1, ((y.run.run s).2, log.afterRequests requests))

namespace Notes

theorem pure (a : α) :
  Notes [] (Pure.pure a : Action (σ × Log) α) (Pure.pure a)
  := by
  intro s log
  rw [Log.afterRequests_nil]
  rfl

theorem throw (e : Error) :
  Notes [] (MonadExcept.throw e : Action (σ × Log) α) (MonadExcept.throw e)
  := by
  intro s log
  rw [Log.afterRequests_nil]
  rfl

theorem ofExcept (answer : Except Error α) :
  Notes [] (Action.ofExcept answer : Action (σ × Log) α) (Action.ofExcept answer)
  := by
  cases answer with
  | ok a => exact pure a
  | error e => exact throw e

theorem request (r : Request) (x : Action σ α) :
  Notes [r] (Kernel.unlessRefused noteRequest r (Action.onPart (Part.first σ Log) x)) x
  := by
  intro s log
  rfl

variable {requests : List Request} {x : Action (σ × Log) α} {y : Action σ α}

/-- No more is noted by what makes no requests. -/
theorem bind {f : α → Action (σ × Log) β} {g : α → Action σ β} (hx : Notes requests x y)
    (hf : ∀ a, Notes [] (f a) (g a)) :
  Notes requests (x >>= f) (y >>= g)
  := by
  intro s log
  have hx := hx s log
  rcases hy : y.run.run s with ⟨e | a, s'⟩
  · rw [hy] at hx
    rw [Action.run_bind_of_error hx, Action.run_bind_of_error hy]
  · rw [hy] at hx
    rw [Action.run_bind_of_ok hx, Action.run_bind_of_ok hy, hf, Log.afterRequests_nil]

theorem attempt_bind {f : Except Error α → Action (σ × Log) β} {g : Except Error α → Action σ β}
    (hx : Notes requests x y) (hf : ∀ answer, Notes [] (f answer) (g answer)) :
  Notes requests (Action.attempt x >>= f) (Action.attempt y >>= g)
  := by
  intro s log
  rw [Action.run_attempt_bind, Action.run_attempt_bind, hx, hf, Log.afterRequests_nil]

end Notes

/-! ### Loading -/

theorem watches_loadProgram (K : Kernel σ) (load : ProgramLoad) :
  Watches (K.watched.loadProgram load) (K.loadProgram load)
  := by
  apply Watches.request

theorem watches_targetId (K : Kernel σ) (function : Option String) :
  Watches (targetId K.watched function) (targetId K function)
  := by
  cases function with
  | none => apply Watches.pure
  | some function =>
      apply Watches.bind
      · apply Watches.request
      · intro id
        apply Watches.pure

theorem watches_loadGrowing (K : Kernel σ) (load : ProgramLoad) :
  Watches (loadGrowing K.watched load) (loadGrowing K load)
  := by
  induction load using loadGrowing.induct with
  | case1 load ih =>
      rw [loadGrowing.eq_def K.watched load, loadGrowing.eq_def K load]
      apply Watches.attempt_bind
      · apply watches_loadProgram
      · intro answer
        cases answer with
        | ok fd => apply Watches.pure
        | error e =>
            by_cases hwants : wantsRoom e load.logSize = true
            · simp only [hwants, if_true]
              apply ih e hwants
            · simp only [hwants, Bool.false_eq_true, if_false]
              apply Watches.throw

namespace Program

theorem watches_request (K : Kernel σ) (spec : ProgramSpec) (logLevel : UInt32) :
  Watches (request K.watched spec logLevel) (request K spec logLevel)
  := by
  rw [request, request]
  cases NulFree.ofString? spec.license with
  | none => apply Watches.throw
  | some license =>
      apply Watches.bind
      · apply watches_targetId
      · intro btfId s log
        apply Exists.intro []
        rw [Log.afterRequests_nil]
        rfl

theorem watches_load (K : Kernel σ) (spec : ProgramSpec) (logLevel : UInt32) :
  Watches (load K.watched spec logLevel) (load K spec logLevel)
  := by
  apply Watches.bind
  · apply watches_request
  · intro load
    apply Watches.bind
    · apply watches_loadGrowing
    · intro fd
      apply Watches.pure

end Program

/-! ### Checks -/

theorem watches_checkProgram (K : Kernel σ) (spec : ProgramSpec) :
  Watches (checkProgram K.watched spec) (checkProgram K spec)
  := by
  apply Watches.attempt_bind
  · apply Program.watches_load
  · intro answer
    cases answer with
    | ok p => apply Watches.pure
    | error e => apply Watches.throw

namespace ProgramType

theorem watches_checkStructOps (K : Kernel σ) :
  Watches (checkStructOps K.watched) (checkStructOps K)
  := by
  apply Watches.attempt_bind
  · apply watches_checkProgram
  · intro answer
    cases answer with
    | ok _ => apply Watches.pure
    | error e =>
        dsimp only
        split
        · apply Watches.pure
        · apply Watches.throw

theorem watches_checkExtension (K : Kernel σ) :
  Watches (checkExtension K.watched) (checkExtension K)
  := by
  apply Watches.attempt_bind
  · apply Program.watches_load
  · intro answer
    cases answer with
    | ok p => apply Watches.pure
    | error e =>
        dsimp only
        split
        · apply Watches.pure
        · apply Watches.throw

theorem watches_check (K : Kernel σ) (t : ProgramType) :
  Watches (check K.watched t) (check K t)
  := by
  cases t with
  | structOps => apply watches_checkStructOps
  | extension => apply watches_checkExtension
  | _ => apply watches_checkProgram

end ProgramType

namespace AttachFeature

theorem watches_loadTrivial (K : Kernel σ) (t : ProgramType) (attachType : Option AttachType) :
  Watches (loadTrivial K.watched t attachType) (loadTrivial K t attachType)
  := by
  apply Watches.attempt_bind
  · apply Program.watches_load
  · intro answer
    cases answer with
    | ok p => apply Watches.ofExcept
    | error e => apply Watches.throw

theorem watches_checkProgAttach (K : Kernel σ) :
  Watches (checkProgAttach K.watched) (checkProgAttach K)
  := by
  apply Watches.bind
  · apply watches_loadTrivial
  · intro program
    apply Watches.pure

theorem watches_tryLink (K : Kernel σ) (create : LinkCreate) :
  Watches (tryLink K.watched create) (tryLink K create)
  := by
  apply Watches.attempt_bind
  · apply Watches.request
  · intro answer
    apply Watches.pure

theorem watches_checkChain (K : Kernel σ) (attachType : AttachType) :
  Watches (checkChain K.watched attachType) (checkChain K attachType)
  := by
  apply Watches.bind
  · apply watches_loadTrivial
  · intro program
    apply Watches.bind
    · apply watches_tryLink
    · intro answer
      cases answer with
      | ok _ => apply Watches.throw
      | error e => apply Watches.ofExcept

/-- A request for a link follows the load of a program that it can be made for. -/
theorem watches_loadAndTry (K : Kernel σ) (t : ProgramType) (attachType : Option AttachType)
    (create : Descriptor → LinkCreate) (judge : Except Error Unit → Except Error Unit) :
  Watches
    (do Action.ofExcept (judge (← tryLink K.watched (create (← loadTrivial K.watched t attachType)))))
    (do Action.ofExcept (judge (← tryLink K (create (← loadTrivial K t attachType)))))
  := by
  apply Watches.bind
  · apply watches_loadTrivial
  · intro program
    apply Watches.bind
    · apply watches_tryLink
    · intro answer
      apply Watches.ofExcept

theorem watches_check (K : Kernel σ) (feature : AttachFeature) :
  Watches (check K.watched feature) (check K feature)
  := by
  cases feature with
  | progAttach => apply watches_checkProgAttach
  | progAttachReplace =>
      apply Watches.bind
      · apply watches_checkProgAttach
      · intro _
        apply Watches.bind
        · apply watches_loadTrivial
        · intro program
          apply Watches.attempt_bind
          · apply Watches.request
          · intro answer
            apply Watches.ofExcept
  | bpfLink =>
      apply Watches.bind
      · apply watches_tryLink
      · intro answer
        apply Watches.ofExcept
  | progQuery =>
      apply Watches.attempt_bind
      · apply Watches.request
      · intro answer
        cases answer with
        | ok _ => apply Watches.throw
        | error e =>
            dsimp only
            split
            · apply Watches.pure
            · apply Watches.throw
  | tcx => apply watches_checkChain
  | netkit => apply watches_checkChain
  | kprobeMulti => apply watches_loadAndTry
  | uprobeMulti => apply watches_loadAndTry

end AttachFeature

theorem HelperCall.watches_tryLoad (K : Kernel σ) (call : HelperCall) :
  Watches (tryLoad K.watched call) (tryLoad K call)
  := by
  apply Watches.attempt_bind
  · apply Program.watches_load
  · intro answer
    apply Watches.ofExcept

/-! ### Watched probes -/

/-- The first probe does what the second one does, and notes its feature and its requests besides. -/
structure Probe.Watches (x : Feature) (p' : Probe (σ × Log)) (p : Probe σ) : Prop where
  name : p'.name = p.name
  version : p'.version = p.version
  run : ∀ s log, ∃ requests, p'.run.run (s, log)
    = ((p.run.run s).1, ((p.run.run s).2, (log.afterChecks [x]).afterRequests requests))

theorem Probe.watches_noting (x : Feature) (name : String) (version : Option KernelVersion)
    {check' : Action (σ × Log) Unit} {check : Action σ Unit} (h : Bpf.Watches check' check) :
  Probe.Watches x ((Probe.mk name version check').noting (noteCheck x)) ⟨name, version, check⟩
  := by
  constructor
  · rfl
  · rfl
  · intro s log
    obtain ⟨requests, hrun⟩ := h s (log.afterChecks [x])
    apply Exists.intro requests
    rw [Probe.run_run, Probe.run_run]
    show (judge name version (check'.run.run (s, log.afterChecks [x])).1, _) = _
    rw [hrun]
    show (_, (check'.run.run (s, log.afterChecks [x])).2) = _
    rw [hrun]

namespace Matrix

variable {κ ι : Type} [DecidableEq κ]

/-- The first matrix has a probe that watches for each one of the second. -/
structure Watches (feature : κ → Feature) (m' : Matrix κ (σ × Log)) (m : Matrix κ σ) : Prop where
  describe : m'.describe = m.describe
  keys : m'.rows.map Prod.fst = m.rows.map Prod.fst
  probe? : ∀ key, Option.Rel (Probe.Watches (feature key)) (m'.probe? key) (m.probe? key)

theorem probe?_noting (note : κ → σ → σ) (m : Matrix κ σ) (key : κ) :
  (m.noting note).probe? key = (m.probe? key).map (Probe.noting (note key))
  := by
  rw [Matrix.probe?, Matrix.probe?, noting, ← List.map_reverse, List.find?_map, Option.map_map,
    Option.map_map]
  apply Option.map_congr
  intro row hrow
  have hkey : row.1 = key := by simpa using List.find?_some hrow
  rw [← hkey]
  rfl

/-- Entries that differ in nothing but their checks declare matrices that differ in nothing else. -/
theorem watches_ofEntries (feature : κ → Feature) (describe : κ → String) (declared : List ι)
    (key : ι → κ) (name : ι → String) (version : ι → Option KernelVersion)
    {own' : ι → Option (Action (σ × Log) Unit)} {own : ι → Option (Action σ Unit)}
    {default' : κ → Action (σ × Log) Unit} {default : κ → Action σ Unit}
    (h : ∀ i, Bpf.Watches ((own' i).getD (default' (key i))) ((own i).getD (default (key i)))) :
  Watches feature
    ((ofEntries describe (declared.map fun i => ⟨key i, name i, version i, own' i⟩) default').noting
      fun k => noteCheck (feature k))
    (ofEntries describe (declared.map fun i => ⟨key i, name i, version i, own i⟩) default)
  := by
  constructor
  · rfl
  · simp only [noting, rows_ofEntries, List.map_map]
    rfl
  · intro k
    rw [probe?_noting, probe?_ofEntries, probe?_ofEntries, ← List.map_reverse, ← List.map_reverse,
      List.find?_map, List.find?_map]
    simp only [Function.comp_def]
    cases declared.reverse.find? fun i => key i = k with
    | none => apply Option.Rel.none
    | some i =>
        apply Option.Rel.some
        apply Probe.watches_noting
        apply h

namespace Watches

variable {feature : κ → Feature} {m' : Matrix κ (σ × Log)} {m : Matrix κ σ}

theorem answer?_eq (hm : m'.Watches feature m) (verdicts : Verdicts κ) (key : κ) :
  m'.answer? verdicts key = m.answer? verdicts key
  := by
  have hp := hm.probe? key
  unfold answer?
  generalize m'.probe? key = p' at hp ⊢
  generalize m.probe? key = p at hp ⊢
  cases hp with
  | none => rw [hm.describe]
  | some hwatches => rfl

/-- A watched query is the query itself, with a note of the checks that it runs. -/
theorem run_result (hm : m'.Watches feature m) (verdicts : Verdicts κ) (key : κ) (s : σ) (log : Log) :
  ∃ requests, (m'.result key).run (verdicts, s, log)
    = (((m.result key).run (verdicts, s)).1, ((m.result key).run (verdicts, s)).2.1,
        ((m.result key).run (verdicts, s)).2.2,
        (log.afterChecks (m.executed feature verdicts key)).afterRequests requests)
  := by
  unfold executed
  cases hanswer : m.answer? verdicts key with
  | some v =>
      apply Exists.intro []
      rw [run_result_of_answer? hanswer, run_result_of_answer? ((hm.answer?_eq _ _).trans hanswer),
        Log.afterRequests_nil, Log.afterChecks_nil]
  | none =>
      obtain ⟨p, hp, -, hrun⟩ := run_result_of_no_answer hanswer
      obtain ⟨p', hp', -, hrun'⟩ := run_result_of_no_answer ((hm.answer?_eq _ _).trans hanswer)
      have hwatches := hm.probe? key
      rw [hp, hp'] at hwatches
      cases hwatches with
      | some hwatches =>
          obtain ⟨requests, hprobe⟩ := hwatches.run s log
          apply Exists.intro requests
          rw [hrun, hrun', hprobe]

/-- Watched probes look the same in a report. -/
theorem report_eq (hm : m'.Watches feature m) (verdicts : Verdicts κ) :
  m'.report verdicts = m.report verdicts
  := by
  rw [report_eq_filterMap, report_eq_filterMap, hm.keys]
  congr 1
  funext key
  have hp := hm.probe? key
  generalize m'.probe? key = p' at hp ⊢
  generalize m.probe? key = p at hp ⊢
  cases hp with
  | none => rfl
  | some hwatches =>
      simp only [Option.map_some, FeatureRow.ofProbe, hwatches.name, hwatches.version]

theorem keys_probes_eq (hm : m'.Watches feature m) :
  m'.probes.map Prod.fst = m.probes.map Prod.fst
  := by
  rw [keys_probes, keys_probes, hm.keys]
  congr 1
  funext key
  have hp := hm.probe? key
  generalize m'.probe? key = p' at hp ⊢
  generalize m.probe? key = p at hp ⊢
  cases hp with
  | none => rfl
  | some hwatches => rfl

end Watches

end Matrix

namespace Probes

variable (K : Kernel σ)

theorem watches_programTypes :
  Matrix.Watches .programType (watched K).programTypes (ofKernel K).programTypes
  := by
  apply Matrix.watches_ofEntries Feature.programType Code.spelling ProgramType.declared Prod.fst
  intro i
  apply ProgramType.watches_check

theorem watches_insns :
  Matrix.Watches .insn (watched K).insns (ofKernel K).insns
  := by
  apply Matrix.watches_ofEntries Feature.insn InsnFeature.text InsnFeature.all id
  intro feature
  apply watches_checkProgram

theorem watches_attachments :
  Matrix.Watches .attachment (watched K).attachments (ofKernel K).attachments
  := by
  apply Matrix.watches_ofEntries Feature.attachment AttachFeature.text AttachFeature.all id
  intro feature
  apply AttachFeature.watches_check

/-- A watched check for a call may run the check for its type as well. -/
theorem run_watched_helperCall (call : HelperCall) (verdicts : Verdicts ProgramType)
    (s : σ) (log : Log) :
  ∃ requests, ((watched K).helperCall call).run.run (verdicts, s, log)
    = ((((ofKernel K).helperCall call).run.run (verdicts, s)).1,
        (((ofKernel K).helperCall call).run.run (verdicts, s)).2.1,
        (((ofKernel K).helperCall call).run.run (verdicts, s)).2.2,
        (log.afterChecks (.helperCall call ::
          (ofKernel K).programTypes.executed .programType verdicts call.programType)).afterRequests
            requests)
  := by
  obtain ⟨requests, htypes⟩ := (watches_programTypes K).run_result verdicts call.programType s
    (log.afterChecks [.helperCall call])
  rw [Log.afterChecks_append, List.singleton_append] at htypes
  have hwatched : ((watched K).helperCall call).check.run.run (verdicts, s, log)
      = (HelperCall.check (watched K).programTypes (HelperCall.tryLoad K.watched call) call).run.run
          (verdicts, s, log.afterChecks [.helperCall call]) := rfl
  have hplain : ((ofKernel K).helperCall call).check
      = HelperCall.check (ofKernel K).programTypes (HelperCall.tryLoad K call) call := rfl
  rw [Probe.run_run, Probe.run_run, hwatched, hplain, HelperCall.run_check, HelperCall.run_check,
    htypes]
  rcases ((ofKernel K).programTypes.result call.programType).run (verdicts, s) with ⟨e | _, v', s'⟩
  · apply Exists.intro requests
    rfl
  · obtain ⟨more, hload⟩ := HelperCall.watches_tryLoad K call s' ((log.afterChecks
      (.helperCall call :: (ofKernel K).programTypes.executed .programType verdicts
        call.programType)).afterRequests requests)
    rw [Log.afterRequests_append] at hload
    apply Exists.intro (requests ++ more)
    dsimp only
    rw [hload]
    rfl

end Probes

end Bpf
