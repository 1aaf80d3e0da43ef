import Bpf.Proofs.HelperReadings
import Bpf.Proofs.ReportRows

/-!
# Verdicts on loads

Whether a type of programs or a feature of the instruction set is there is told from one attempt to
load a program, the `Trial` of the feature.  `Feature.Reads` are the rules by which the answer to it is
read, and the verdict is what has been read, under the name of the feature.  Two types are known even
by errors, `Feature.KnownBy`; of the other errors some say that the feature is not there,
`Error.Denies`, and the rest leave that open.
-/

namespace Bpf

variable {σ : Type}

/-! ### Trials -/

/-- A program that is loaded for the sake of the answer. -/
structure Trial where
  spec : ProgramSpec
  logLevel : UInt32 := 0

/-- The attempt: the function that the program targets is looked up, if there is one, and then the
program is loaded. -/
def Trial.run (K : Kernel σ) (trial : Trial) : Action σ Program :=
  Program.load K trial.spec trial.logLevel

/-- The trial of a type.  Two types target a function of the kernel, and for one a log is asked for. -/
def ProgramType.trial : ProgramType → Trial
  | .tracing =>
    { spec := { tracing.smallest with attachType := some .traceFentry, attachTo := some "bpf_init" } }
  | .lsm =>
    { spec := { lsm.smallest with attachType := some .lsmMac, attachTo := some "file_mprotect" } }
  | .extension => { spec := extension.smallest, logLevel := 1 }
  | t => { spec := t.smallest }

/-- The trial of a feature of the instruction set. -/
def InsnFeature.trial (feature : InsnFeature) : Trial where
  spec := { programType := .socketFilter, insns := feature.insns }

/-- The features that are told from one attempt to load a program: the declared types, and the features
of the instruction set. -/
inductive Feature.Tried : Feature → Trial → Prop
  | programType {t : ProgramType} (h : t ∈ ProgramType.declared.map Prod.fst) :
    Tried (.programType t) t.trial
  | insn (feature : InsnFeature) : Tried (.insn feature) feature.trial

/-! ### Rules -/

/-- The kernel knows the feature, though it refuses the program: it got as far as asking for a
target. -/
inductive Feature.KnownBy : Feature → Error → Prop
  | structOps {e : Error} (h : e.errno = some Errno.enotsupp) : KnownBy (.programType .structOps) e
  | extension {source : IoError} {log : List String} (h : source.errno = some Errno.einval)
    (hlog : Tells log ["must provide btf_id"]) :
    KnownBy (.programType .extension) (.verifier source log)

/-- The error says that something is not there, with the reason that it gives. -/
inductive Error.Denies : Error → Option String → Prop
  | refused {e : Error} (h : e.errno = some Errno.einval ∨ e.errno = some Errno.e2big) :
    Denies e none
  | notSupported (reason : Option String) : Denies (.notSupported reason) reason

/-- How the answer to a trial is read. -/
inductive Feature.Reads (x : Feature) : Except Error Program → Except Error Unit → Prop
  | loaded {program : Program} : Reads x (.ok program) (.ok ())
  | known {e : Error} (h : x.KnownBy e) : Reads x (.error e) (.ok ())
  | refused {e : Error} (h : ¬ x.KnownBy e)
    (hrefusal : e.errno = some Errno.einval ∨ e.errno = some Errno.e2big) :
    Reads x (.error e) (.error (.notSupported none))
  | failed {e : Error} (h : ¬ x.KnownBy e)
    (hrefusal : ¬ (e.errno = some Errno.einval ∨ e.errno = some Errno.e2big)) :
    Reads x (.error e) (.error e)

namespace Feature

section Checks

variable (K : Kernel σ) {x : Feature}

/-- A refusal of the program is read as one of the feature, unless the feature is known by it. -/
theorem Reads.of_not_knownBy {e : Error} (h : ¬ x.KnownBy e) :
  x.Reads (.error e) (.error (if isRefusal e then .notSupported none else e))
  := by
  split
  next hrefusal => exact .refused h (isRefusal_eq_true_iff.1 hrefusal)
  next hrefusal => exact .failed h (mt isRefusal_eq_true_iff.2 hrefusal)

/-- The check of a feature that is not known by an error. -/
theorem readOff_checkProgram (hknown : ∀ e, ¬ x.KnownBy e) (spec : ProgramSpec) :
  (checkProgram K spec).ReadOff x.Reads (Trial.run K { spec })
  := by
  intro s
  rw [run_checkProgram, Trial.run]
  rcases (Program.load K spec 0).run.run s with ⟨e | program, s'⟩
  · exact ⟨.of_not_knownBy (hknown e), rfl⟩
  · exact ⟨.loaded, rfl⟩

theorem asksForTarget_eq_true_iff {e : Error} :
  ProgramType.asksForTarget e = true ↔ (programType .extension).KnownBy e
  := by
  constructor
  · intro h
    cases e with
    | verifier source log =>
        simp only [ProgramType.asksForTarget, Bool.and_eq_true, decide_eq_true_eq,
          logTellsAll_eq_true_iff] at h
        exact .extension h.1 h.2
    | _ => cases h
  · intro h
    cases h with
    | extension h hlog =>
        simp only [ProgramType.asksForTarget, Bool.and_eq_true, decide_eq_true_eq,
          logTellsAll_eq_true_iff]
        exact ⟨h, hlog⟩

theorem readOff_checkExtension :
  (ProgramType.checkExtension K).ReadOff (programType .extension).Reads
    (ProgramType.extension.trial.run K)
  := by
  intro s
  have hrun : (ProgramType.checkExtension K).run.run s = _ := Action.run_attempt_bind
  rw [hrun, ProgramType.trial, Trial.run]
  rcases (Program.load K ProgramType.extension.smallest 1).run.run s with ⟨e | program, s'⟩
  · dsimp only
    split
    next hknown => exact ⟨.known (asksForTarget_eq_true_iff.1 hknown), rfl⟩
    next hknown => exact ⟨.of_not_knownBy (mt asksForTarget_eq_true_iff.2 hknown), rfl⟩
  · exact ⟨.loaded, rfl⟩

theorem readOff_checkStructOps :
  (ProgramType.checkStructOps K).ReadOff (programType .structOps).Reads
    (ProgramType.structOps.trial.run K)
  := by
  have hknown {e : Error} :
      (programType .structOps).KnownBy e ↔ e.errno = some Errno.enotsupp := by
    constructor
    · intro h
      cases h with
      | structOps h => exact h
    · exact .structOps
  intro s
  have hload : (ProgramType.structOps.trial.run K).run.run s
      = (Program.load K ProgramType.structOps.smallest 0).run.run s := rfl
  rw [hload, ProgramType.checkStructOps, Action.run_attempt_bind, run_checkProgram]
  rcases (Program.load K ProgramType.structOps.smallest 0).run.run s with ⟨e | program, s'⟩
  · dsimp only
    by_cases h : e.errno = some Errno.enotsupp
    · -- This number is none of those that are turned into a refusal.
      have hrefusal : ¬ isRefusal e = true := by
        rw [isRefusal_eq_true_iff, h]
        decide
      have hnumber : e.isErrno Errno.enotsupp = true := decide_eq_true h
      rw [if_neg hrefusal, if_pos hnumber]
      exact ⟨.known (hknown.2 h), rfl⟩
    · have hother :
          ¬ (if isRefusal e then Error.notSupported none else e).isErrno Errno.enotsupp = true := by
        split
        next => decide
        next => exact decide_eq_true_iff.not.2 h
      rw [if_neg hother]
      exact ⟨.of_not_knownBy (mt hknown.1 h), rfl⟩
  · exact ⟨.loaded, rfl⟩

theorem probe?_programType {t : ProgramType} (ht : t ∈ ProgramType.declared.map Prod.fst) :
  (Probes.ofKernel K).probe? (.programType t)
    = some ⟨(programType t).title, (programType t).version, ProgramType.check K t⟩
  := by
  obtain ⟨entry, hentry, rfl⟩ := List.mem_map.1 ht
  have hreverse : (ProgramType.declared.reverse.map Prod.fst).Nodup := by
    rw [List.map_reverse, List.nodup_reverse]
    exact ProgramType.nodup_declared
  have hprobe := ProgramType.probe?_matrix K entry.1
  rw [find?_key_of_nodup hreverse (List.mem_reverse.2 hentry), Option.map_some] at hprobe
  simp only [title, version, find?_key_of_nodup ProgramType.nodup_declared hentry, Option.map_some]
  exact hprobe

/-- A type that is not known by errors has no check but the load of its trial. -/
theorem readOff_check (t : ProgramType) :
  (ProgramType.check K t).ReadOff (programType t).Reads (t.trial.run K)
  := by
  cases t with
  | structOps => exact readOff_checkStructOps K
  | extension => exact readOff_checkExtension K
  | _ =>
      apply readOff_checkProgram K
      intro e h
      cases h

/-- What is told from a trial has a probe, and its check is read off the trial. -/
theorem Tried.exists_probe {trial : Trial} (hx : x.Tried trial) :
  ∃ check, (Probes.ofKernel K).probe? x = some ⟨x.title, x.version, check⟩
    ∧ check.ReadOff x.Reads (trial.run K)
  := by
  cases hx with
  | programType ht => exact ⟨_, probe?_programType K ht, readOff_check K _⟩
  | insn feature =>
      refine ⟨_, InsnFeature.probe?_matrix K feature, ?_⟩
      apply readOff_checkProgram K
      intro e h
      cases h

end Checks

/-! ### Verdicts -/

section Verdicts

variable {x : Feature} {answer : Except Error Program} {reading : Except Error Unit}

theorem Reads.eq_ok_iff (h : x.Reads answer reading) :
  reading = .ok () ↔ (∃ program, answer = .ok program) ∨ ∃ e, answer = .error e ∧ x.KnownBy e
  := by
  cases h with
  | loaded => simp
  | known h => simp [h]
  | refused h hrefusal => simp [h]
  | failed h hrefusal => simp [h]

theorem Reads.eq_notSupported_iff (h : x.Reads answer reading) {reason : Option String} :
  reading = .error (.notSupported reason)
    ↔ ∃ e, answer = .error e ∧ ¬ x.KnownBy e ∧ e.Denies reason
  := by
  cases h with
  | loaded => simp
  | known h => simp [h]
  | @refused e h hrefusal =>
      constructor
      · intro hreading
        cases hreading
        exact ⟨e, rfl, h, .refused hrefusal⟩
      · rintro ⟨_, ⟨⟩, -, hdenies⟩
        cases hdenies with
        | refused => rfl
        | notSupported reason => simp [Error.errno] at hrefusal
  | @failed e h hrefusal =>
      constructor
      · intro hreading
        cases hreading
        exact ⟨_, rfl, h, .notSupported reason⟩
      · rintro ⟨_, ⟨⟩, -, hdenies⟩
        cases hdenies with
        | refused hrefusal' => exact absurd hrefusal' hrefusal
        | notSupported reason => rfl

/-- An error about a feature is neither a sign of the feature nor a refusal. -/
theorem Reads.eq_feature_iff (h : x.Reads answer reading) {source : FeatureError} :
  reading = .error (.feature source) ↔ answer = .error (.feature source)
  := by
  cases h with
  | loaded => simp
  | @known e h =>
      constructor
      · rintro ⟨⟩
      · rintro ⟨⟩
        cases h with
        | structOps h => cases h
  | @refused e h hrefusal =>
      constructor
      · rintro ⟨⟩
      · rintro ⟨⟩
        simp [Error.errno] at hrefusal
  | failed h hrefusal => simp

/-- What neither shows the feature nor denies it stays as it is. -/
theorem Reads.of_open {e : Error} (h : x.Reads (.error e) reading) (hknown : ¬ x.KnownBy e)
    (hdenies : ∀ reason, ¬ e.Denies reason) :
  reading = .error e
  := by
  cases h with
  | known h => exact absurd h hknown
  | refused h hrefusal => exact absurd (.refused hrefusal) (hdenies none)
  | failed h hrefusal => rfl

end Verdicts

/-- Missing rights are no answer to the question. -/
theorem not_knownBy_of_eperm {x : Feature} {e : Error} (h : e.errno = some Errno.eperm) :
  ¬ x.KnownBy e
  := by
  intro hknown
  cases hknown with
  | structOps hnumber =>
      rw [h] at hnumber
      exact absurd hnumber (by decide)
  | @extension source log hnumber hlog =>
      have h : source.errno = some Errno.eperm := h
      rw [h] at hnumber
      exact absurd hnumber (by decide)

end Feature

theorem Error.not_denies_of_eperm {e : Error} (h : e.errno = some Errno.eperm)
    (reason : Option String) :
  ¬ e.Denies reason
  := by
  intro hdenies
  cases hdenies with
  | refused hrefusal =>
      rw [h] at hrefusal
      exact absurd hrefusal (by decide)
  | notSupported => cases h

/-- For a feature that is told from one attempt to load a program, and about which there is no verdict
yet, nothing but that attempt is made.  The feature is there if and only if the program loads or the
feature is known by the error.  It is not there, under its own name and release, if and only if it is
not known by the error and the error says so, with the reason that the error gives; and an error about
a feature is passed on as it is.  Every other error leaves the question open and comes with the answer,
missing rights among them. -/
theorem verdict_on_load (K : Kernel σ) {h : Host σ} {x : Feature} {trial : Trial}
    (hx : x.Tried trial) (hunknown : h.features.verdict? x = none) :
  let tried := (trial.run K).run.run h.kernel
  let asked := ((Probes.ofKernel K).ask x).run h
  asked.2.kernel = tried.2
    ∧ (asked.1 = .ok ()
      ↔ (∃ program, tried.1 = .ok program) ∨ ∃ e, tried.1 = .error e ∧ x.KnownBy e)
    ∧ (∀ name version reason, asked.1 = .error (.notSupported name version reason)
      ↔ (name = x.title ∧ version = x.version
          ∧ ∃ e, tried.1 = .error e ∧ ¬ x.KnownBy e ∧ e.Denies reason)
        ∨ tried.1 = .error (.feature (.notSupported name version reason)))
    ∧ (∀ source, tried.1 = .error (.feature source) → asked.1 = .error source)
    ∧ (∀ e, tried.1 = .error e → ¬ x.KnownBy e → (∀ reason, ¬ e.Denies reason) →
      (∀ source, e ≠ .feature source) → asked.1 = .error (.inconclusive x.title e))
    ∧ (∀ e, tried.1 = .error e → e.errno = some Errno.eperm →
      asked.1 = .error (.inconclusive x.title e))
  := by
  intro tried asked
  obtain ⟨check, hprobe, hread⟩ := hx.exists_probe K
  obtain ⟨reading, hreads, hverdict, hkernel⟩ := Probes.run_ask_of_readOff hprobe hread hunknown
  have hopen {e : Error} (he : tried.1 = .error e) (hknown : ¬ x.KnownBy e)
      (hdenies : ∀ reason, ¬ e.Denies reason) (hsource : ∀ source, e ≠ .feature source) :
      asked.1 = .error (.inconclusive x.title e) := by
    rw [show (trial.run K).run.run h.kernel = tried from rfl, he] at hreads
    rw [hverdict, hreads.of_open hknown hdenies]
    apply Probe.judge_of_open _ hsource
    rintro reason rfl
    exact hdenies reason (.notSupported reason)
  refine ⟨hkernel, ?_, ?_, ?_, ?_, ?_⟩
  · rw [hverdict, Probe.judge_eq_ok_iff, hreads.eq_ok_iff]
  · intro name version reason
    rw [hverdict, Probe.judge_eq_notSupported_iff, hreads.eq_notSupported_iff, hreads.eq_feature_iff]
  · intro source hsource
    rw [hverdict, hreads.eq_feature_iff.2 hsource]
    rfl
  · intro e he hknown hdenies hsource
    exact hopen he hknown hdenies hsource
  · intro e he heperm
    apply hopen he (Feature.not_knownBy_of_eperm heperm) (Error.not_denies_of_eperm heperm)
    rintro source rfl
    cases heperm

/-- A kernel that asks for a target knows the programs that replace functions of other programs, though
it does not load one. -/
theorem verdict_on_load_extension :
  let refusal : Error :=
    .verifier (.os Errno.einval) ["FREPLACE program must provide btf_id", "processed 0 insns"]
  let K : Kernel (Memory.Machine Unit) :=
    Memory.kernel {} { loadProgram := some fun _ => throw refusal }
  let host : Host (Memory.Machine Unit) := .new ⟨{}, ()⟩
  ((ProgramType.extension.trial.run K).run.run host.kernel).1 = .error refusal
    ∧ (((Probes.ofKernel K).ask (.programType .extension)).run host).1 = .ok ()
  := by
  intro refusal K host
  have hdeclared : ProgramType.extension ∈ ProgramType.declared.map Prod.fst := by decide +kernel
  have htells : Tells ["FREPLACE program must provide btf_id", "processed 0 insns"]
      ["must provide btf_id"] := by decide +kernel
  have hrefused : ((ProgramType.extension.trial.run K).run.run host.kernel).1 = .error refusal := by
    decide +kernel
  have hunknown : host.features.verdict? (.programType .extension) = none := rfl
  obtain ⟨-, hok, -⟩ := verdict_on_load K (.programType hdeclared) hunknown
  exact ⟨hrefused, hok.2 (.inr ⟨refusal, hrefused, .extension rfl htells⟩)⟩

end Bpf
