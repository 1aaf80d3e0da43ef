import Bpf.Memory.Kernel
import Bpf.Proofs.KnownAnswer

/-!
# Verdicts on attachments

Whether programs can be attached in some way is told from the answer to a request.  The `trial` of a
feature loads the programs that its request needs, one after another, and makes the request, if there
is one.  `AttachFeature.Reads` are the rules by which the answer is read: a program that is not loaded
denies the feature, whatever the reason, and of the answers to the request some confirm the feature,
some deny it, some cannot be, and the rest leave the question open.  The same number can mean one thing
for one feature and another thing for another.
-/

namespace Bpf

variable {σ : Type}

namespace AttachFeature

/-! ### Trials -/

/-- A program that does nothing. -/
def trivialProgram (programType : ProgramType) (attachType : Option AttachType) : ProgramSpec where
  programType := programType
  insns := [Insn.mov64Imm .result 0, Insn.exit]
  attachType := attachType

/-- The programs that are loaded before the request is made. -/
def programs : AttachFeature → List ProgramSpec
  | .progAttach => [trivialProgram .cgroupSkb none]
  | .progAttachReplace =>
    [trivialProgram .cgroupSkb none, trivialProgram .cgroupSkb (some .cgroupInetIngress)]
  | .bpfLink => []
  | .progQuery => []
  | .tcx => [trivialProgram .schedCls none]
  | .netkit => [trivialProgram .schedCls none]
  | .kprobeMulti => [trivialProgram .kprobe (some .traceKprobeMulti)]
  | .uprobeMulti => [trivialProgram .kprobe (some .traceUprobeMulti)]

/-- The request that a feature is told from, if there is one, with the descriptor of a
program. -/
def request (K : Kernel σ) (program : Descriptor) : AttachFeature → Option (Action σ Unit)
  | .progAttach => none
  | .progAttachReplace =>
    some <| K.attachProgram
      { target := nowhere
        program
        attachType := .cgroupInetIngress
        flags := Flag.replace
        replace := 0 }
  | .bpfLink =>
    some <| Functor.discard <| K.createLink
      { program
        target := nowhere
        attachType := .cgroupInetIngress
        flags := 0
        extra := .none }
  | .progQuery => some <| Functor.discard <| K.queryPrograms nowhere .cgroupInetIngress
  | .tcx =>
    some <| Functor.discard <| K.createLink
      { program
        target := nowhere
        attachType := .tcxIngress
        flags := 0
        extra := .ordered 0 0 }
  | .netkit =>
    some <| Functor.discard <| K.createLink
      { program
        target := nowhere
        attachType := .netkitPrimary
        flags := 0
        extra := .ordered 0 0 }
  | .kprobeMulti =>
    some <| Functor.discard <| K.createLink
      { program
        target := 0
        attachType := .traceKprobeMulti
        flags := 0
        extra := .kprobeMulti 0 [probedSymbol] [] [] }
  | .uprobeMulti =>
    some <| Functor.discard <| K.createLink
      { program
        target := 0
        attachType := .traceUprobeMulti
        flags := 0
        extra := .uprobeMulti rootPath [0] [] [] 0 0 }

/-- Loads programs one after another, and goes on with the descriptor of the last one. -/
def afterLoads {α : Type} (K : Kernel σ) (next : Descriptor → Action σ α) :
    Descriptor → List ProgramSpec → Action σ α
  | program, [] => next program
  | _, spec :: specs => do
    let program ← Program.load K spec 0
    afterLoads K next (program.fd.getD nobody) specs

/-- Makes a request, if there is one, for the sake of the answer. -/
def tryRequest : Option (Action σ Unit) → Action σ (Option (Except Error Unit))
  | none => return none
  | some request => some <$> Action.attempt request

/-- The loads and the request that a feature is told from.  The trial fails if a load does, and
otherwise gives the answer to the request. -/
def trial (K : Kernel σ) (feature : AttachFeature) : Action σ (Option (Except Error Unit)) :=
  afterLoads K (fun program => tryRequest (feature.request K program)) nobody feature.programs

/-! ### Rules -/

/-- The numbers with which the request is refused where there is no such feature. -/
def refusals : AttachFeature → List Errno
  | .kprobeMulti => [Errno.einval, Errno.eopnotsupp]
  | _ => [Errno.einval]

/-- The number with which the request is refused where there is the feature, since it is for something
that is not there. -/
def expected : AttachFeature → Option Errno
  | .progAttachReplace => some Errno.ebadf
  | .bpfLink => some Errno.ebadf
  | .progQuery => some Errno.ebadf
  | .uprobeMulti => some Errno.ebadf
  | .tcx => some Errno.enodev
  | .netkit => some Errno.enodev
  | .progAttach => none
  | .kprobeMulti => none

/-- What is said of a request that succeeds, if it is one that cannot. -/
def surprise : AttachFeature → Option String
  | .progQuery => some "syscall succeeded unexpectedly"
  | .tcx => some s!"{Code.text AttachType.tcxIngress} link created on a nonexistent interface"
  | .netkit => some s!"{Code.text AttachType.netkitPrimary} link created on a nonexistent interface"
  | _ => none

/-- The answer to the request shows that there is the feature. -/
inductive Confirms (feature : AttachFeature) : Except Error Unit → Prop
  | accepted (h : feature.surprise = none) : Confirms feature (.ok ())
  | expected {e : Error} {n : Errno} (h : feature.expected = some n) (he : e.errno = some n) :
    Confirms feature (.error e)

/-- The error with which the request is refused shows that there is no such feature, for the reason
that comes with it.  A query is either refused as expected or not known. -/
inductive Denies (feature : AttachFeature) : Error → Option String → Prop
  | refused {e : Error} {n : Errno} (hfeature : feature ≠ .progQuery) (h : n ∈ feature.refusals)
    (he : e.errno = some n) : Denies feature e none
  | notSupported (hfeature : feature ≠ .progQuery) (reason : Option String) :
    Denies feature (.notSupported reason) reason
  | unqueried {e : Error} (hfeature : feature = .progQuery) (he : e.errno ≠ some Errno.ebadf) :
    Denies feature e none

/-- How the answer to a trial is read. -/
inductive Reads (feature : AttachFeature) :
    Except Error (Option (Except Error Unit)) → Except Error Unit → Prop
  | unloaded (e : Error) : Reads feature (.error e) (.error (.notSupported none))
  | unasked : Reads feature (.ok none) (.ok ())
  | confirmed {answer : Except Error Unit} (h : feature.Confirms answer) :
    Reads feature (.ok (some answer)) (.ok ())
  | denied {e : Error} {reason : Option String} (h : feature.Denies e reason) :
    Reads feature (.ok (some (.error e))) (.error (.notSupported reason))
  | impossible {message : String} (h : feature.surprise = some message) :
    Reads feature (.ok (some (.ok ()))) (.error (.fatal message))
  | failed {e : Error} (hconfirms : ¬ feature.Confirms (.error e))
    (hdenies : ∀ reason, ¬ feature.Denies e reason) :
    Reads feature (.ok (some (.error e))) (.error e)

section Rules

variable {feature : AttachFeature} {e : Error} {reason : Option String}

/-- Where the check compares numbers, it follows the rules. -/
theorem Reads.of_reached (hfeature : feature ≠ .progQuery) (e : Error) :
  feature.Reads (.ok (some (.error e))) (reached feature.refusals feature.expected (.error e))
  := by
  rw [reached]
  split
  next hrefusal =>
    obtain ⟨n, hn, he⟩ := List.any_eq_true.1 hrefusal
    exact .denied (.refused hfeature hn (of_decide_eq_true he))
  next hrefusal =>
    split
    next hexpected =>
      obtain ⟨n, hn, he⟩ := (Option.any_eq_true _ _).1 hexpected
      exact .confirmed (.expected hn (of_decide_eq_true he))
    next hexpected =>
      have hrefused {n : Errno} (hn : n ∈ feature.refusals) : e.errno ≠ some n := by
        intro he
        exact hrefusal (List.any_eq_true.2 ⟨n, hn, decide_eq_true he⟩)
      by_cases hreason : ∃ reason, e = .notSupported reason
      · obtain ⟨reason, rfl⟩ := hreason
        exact .denied (.notSupported hfeature reason)
      · apply Reads.failed
        · intro hconfirms
          cases hconfirms with
          | expected hn he => exact hexpected ((Option.any_eq_true _ _).2 ⟨_, hn, decide_eq_true he⟩)
        · intro reason hdenies
          cases hdenies with
          | refused hfeature hn he => exact hrefused hn he
          | notSupported hfeature reason => exact hreason ⟨reason, rfl⟩
          | unqueried hquery he => exact hfeature hquery

theorem errno_of_denies (hfeature : feature ≠ .progQuery) (h : feature.Denies e reason) :
  (∃ n ∈ feature.refusals, e.errno = some n) ∨ e.errno = none
  := by
  cases h with
  | refused hfeature hn he => exact .inl ⟨_, hn, he⟩
  | notSupported hfeature reason => exact .inr rfl
  | unqueried hquery he => exact absurd hquery hfeature

/-- The expected number is not taken for a refusal. -/
theorem not_mem_refusals {n : Errno} (h : feature.expected = some n) :
  n ∉ feature.refusals
  := by
  cases feature with
  | progAttach => cases h
  | kprobeMulti => cases h
  | _ =>
      cases h
      decide

/-- No error shows that there is a feature and that there is none. -/
theorem not_confirms_of_denies (h : feature.Denies e reason) :
  ¬ feature.Confirms (.error e)
  := by
  intro hconfirms
  cases hconfirms with
  | @expected _ n hn he =>
      by_cases hquery : feature = .progQuery
      · subst hquery
        cases h with
        | refused hfeature => exact absurd rfl hfeature
        | notSupported hfeature => exact absurd rfl hfeature
        | unqueried hquery he' =>
            cases hn
            exact he' he
      · obtain ⟨n', hn', he'⟩ | hnone := errno_of_denies hquery h
        · have hnumber : n' = n := Option.some.inj (he'.symm.trans he)
          rw [hnumber] at hn'
          exact not_mem_refusals hn hn'
        · rw [hnone] at he
          cases he

/-- An error denies a feature for one reason. -/
theorem Denies.unique {reason' : Option String} (h : feature.Denies e reason)
    (h' : feature.Denies e reason') :
  reason = reason'
  := by
  cases h with
  | refused hfeature hn he =>
      cases h' with
      | refused => rfl
      | notSupported => cases he
      | unqueried => rfl
  | notSupported hfeature reason =>
      cases h' with
      | refused hfeature hn he => cases he
      | notSupported => rfl
      | unqueried hquery => exact absurd hquery hfeature
  | unqueried hquery he =>
      cases h' with
      | refused => rfl
      | notSupported hfeature => exact absurd hquery hfeature
      | unqueried => rfl

end Rules

/-! ### Readings -/

section Readings

variable {feature : AttachFeature} {tried : Except Error (Option (Except Error Unit))}
variable {reading : Except Error Unit}

theorem Reads.eq_ok_iff (h : feature.Reads tried reading) :
  reading = .ok () ↔ tried = .ok none ∨ ∃ answer, tried = .ok (some answer) ∧ feature.Confirms answer
  := by
  cases h with
  | unloaded e => simp
  | unasked => simp
  | confirmed h => simp [h]
  | denied h => simp [not_confirms_of_denies h]
  | impossible h =>
      constructor
      · rintro ⟨⟩
      · rintro (⟨⟨⟩⟩ | ⟨_, ⟨⟩, hconfirms⟩)
        cases hconfirms with
        | accepted haccepted =>
            rw [h] at haccepted
            cases haccepted
  | failed hconfirms hdenies => simp [hconfirms]

theorem Reads.eq_notSupported_iff (h : feature.Reads tried reading) {reason : Option String} :
  reading = .error (.notSupported reason)
    ↔ ((∃ e, tried = .error e) ∧ reason = none)
      ∨ ∃ e, tried = .ok (some (.error e)) ∧ feature.Denies e reason
  := by
  cases h with
  | unloaded e => simp [eq_comm]
  | unasked => simp
  | confirmed h =>
      constructor
      · rintro ⟨⟩
      · rintro (⟨⟨e, ⟨⟩⟩, -⟩ | ⟨e, ⟨⟩, hdenies⟩)
        exact absurd h (not_confirms_of_denies hdenies)
  | @denied e reason' h =>
      constructor
      · rintro ⟨⟩
        exact .inr ⟨e, rfl, h⟩
      · rintro (⟨⟨e, ⟨⟩⟩, -⟩ | ⟨e, ⟨⟩, hdenies⟩)
        rw [h.unique hdenies]
  | impossible h => simp
  | @failed e hconfirms hdenies =>
      constructor
      · rintro ⟨⟩
        by_cases hquery : feature = .progQuery
        · exact absurd (.unqueried hquery (by rintro ⟨⟩)) (hdenies none)
        · exact absurd (.notSupported hquery reason) (hdenies reason)
      · rintro (⟨⟨e, ⟨⟩⟩, -⟩ | ⟨e, ⟨⟩, h⟩)
        exact absurd h (hdenies reason)

/-- An error about a feature is passed on, unless it comes from a query. -/
theorem Reads.eq_feature_iff (h : feature.Reads tried reading) {source : FeatureError} :
  reading = .error (.feature source)
    ↔ feature ≠ .progQuery ∧ tried = .ok (some (.error (.feature source)))
  := by
  cases h with
  | unloaded e => simp
  | unasked => simp
  | confirmed h =>
      constructor
      · rintro ⟨⟩
      · rintro ⟨-, ⟨⟩⟩
        cases h with
        | expected hn he => cases he
  | denied h =>
      constructor
      · rintro ⟨⟩
      · rintro ⟨hfeature, ⟨⟩⟩
        cases h with
        | refused hfeature hn he => cases he
        | unqueried hquery he => exact absurd hquery hfeature
  | impossible h => simp
  | @failed e hconfirms hdenies =>
      constructor
      · rintro ⟨⟩
        refine ⟨?_, rfl⟩
        intro hquery
        exact hdenies none (.unqueried hquery (by rintro ⟨⟩))
      · rintro ⟨-, ⟨⟩⟩
        rfl

theorem Reads.of_impossible {message : String} (h : feature.Reads (.ok (some (.ok ()))) reading)
    (hsurprise : feature.surprise = some message) :
  reading = .error (.fatal message)
  := by
  cases h with
  | confirmed h =>
      cases h with
      | accepted haccepted =>
          rw [hsurprise] at haccepted
          cases haccepted
  | impossible h =>
      rw [hsurprise] at h
      cases h
      rfl

/-- What neither confirms nor denies a feature stays as it is. -/
theorem Reads.of_open {e : Error} (h : feature.Reads (.ok (some (.error e))) reading)
    (hconfirms : ¬ feature.Confirms (.error e)) (hdenies : ∀ reason, ¬ feature.Denies e reason) :
  reading = .error e
  := by
  cases h with
  | confirmed h => exact absurd h hconfirms
  | @denied _ reason h => exact absurd h (hdenies reason)
  | failed => rfl

end Readings

/-! ### Checks -/

section Checks

variable {K : Kernel σ} {feature : AttachFeature} {next : Descriptor → Action σ (Option (Except Error Unit))}
variable {specs : List ProgramSpec} {rest : Descriptor → Action σ Unit}

/-- A check that starts with the load of a program follows the rules if it does so from there on. -/
theorem readOff_loadTrivial_bind {t : ProgramType} {attachType : Option AttachType}
    (hrest : ∀ fd, (rest fd).ReadOff feature.Reads (afterLoads K next fd specs))
    (program : Descriptor) :
  (loadTrivial K t attachType >>= rest).ReadOff feature.Reads
    (afterLoads K next program (trivialProgram t attachType :: specs))
  := by
  intro s
  have hattempt : (loadTrivial K t attachType).run.run s = _ :=
    Action.run_attempt_bind (x := Program.load K (trivialProgram t attachType) 0)
  rw [afterLoads]
  rcases hload : (Program.load K (trivialProgram t attachType) 0).run.run s with ⟨e | loaded, s'⟩
  · rw [hload] at hattempt
    rw [Action.run_bind_of_error hattempt, Action.run_bind_of_error hload]
    exact ⟨.unloaded e, rfl⟩
  · obtain ⟨fd, rfl⟩ := Program.exists_descriptor_of_load hload
    rw [hload] at hattempt
    rw [Action.run_bind_of_ok hattempt, Action.run_bind_of_ok hload]
    exact hrest fd s'

/-- A check that makes the request and judges the answer. -/
theorem readOff_judge {request : Action σ Unit} {ask : Action σ (Except Error Unit)}
    (hask : ∀ s, ask.run.run s = (.ok (request.run.run s).1, (request.run.run s).2))
    {judge : Except Error Unit → Action σ Unit}
    (hjudge : ∀ answer, ∃ reading, judge answer = Action.ofExcept reading
      ∧ feature.Reads (.ok (some answer)) reading) :
  (ask >>= judge).ReadOff feature.Reads (tryRequest (some request))
  := by
  intro s
  obtain ⟨reading, hanswer, hreads⟩ := hjudge (request.run.run s).1
  rw [Action.run_bind_of_ok (hask s), hanswer]
  exact ⟨hreads, rfl⟩

theorem run_tryLink (K : Kernel σ) (create : LinkCreate) (s : σ) :
  (tryLink K create).run.run s
    = (.ok ((Functor.discard (K.createLink create)).run.run s).1,
      ((Functor.discard (K.createLink create)).run.run s).2)
  := by
  rw [Action.run_discard]
  rfl

/-- What the numbers say of a request that may succeed. -/
theorem exists_reading_of_reached (feature : AttachFeature) (hfeature : feature ≠ .progQuery)
    (hsurprise : feature.surprise = none) (answer : Except Error Unit) :
  ∃ reading, (Action.ofExcept (reached feature.refusals feature.expected answer) : Action σ Unit)
      = Action.ofExcept reading
    ∧ feature.Reads (.ok (some answer)) reading
  := by
  refine ⟨_, rfl, ?_⟩
  cases answer with
  | ok _ => exact .confirmed (.accepted hsurprise)
  | error e => exact .of_reached hfeature e

/-- A place in a chain of an interface that is not there. -/
theorem readOff_checkChain {attachType : AttachType} {program : Descriptor}
    (hfeature : feature = .tcx ∧ attachType = .tcxIngress
      ∨ feature = .netkit ∧ attachType = .netkitPrimary) :
  (checkChain K attachType).ReadOff feature.Reads
    (afterLoads K (fun program => tryRequest (some (Functor.discard (K.createLink
      { program, target := nowhere, attachType, flags := 0, extra := .ordered 0 0 }))))
      program [trivialProgram .schedCls none])
  := by
  have hquery : feature ≠ .progQuery := by
    rintro rfl
    obtain ⟨⟨⟩, -⟩ | ⟨⟨⟩, -⟩ := hfeature
  have hsurprise : feature.surprise
      = some s!"{Code.text attachType} link created on a nonexistent interface" := by
    obtain ⟨rfl, rfl⟩ | ⟨rfl, rfl⟩ := hfeature
    · rfl
    · rfl
  have hnumbers : feature.refusals = [Errno.einval] ∧ feature.expected = some Errno.enodev := by
    obtain ⟨rfl, -⟩ | ⟨rfl, -⟩ := hfeature
    · exact ⟨rfl, rfl⟩
    · exact ⟨rfl, rfl⟩
  apply readOff_loadTrivial_bind
  intro fd
  apply readOff_judge (run_tryLink K _)
  intro answer
  cases answer with
  | ok _ => exact ⟨_, rfl, .impossible hsurprise⟩
  | error e =>
      refine ⟨_, rfl, ?_⟩
      rw [← hnumbers.1, ← hnumbers.2]
      exact .of_reached hquery e

theorem readOff_checkQuery (K : Kernel σ) :
  (checkQuery K).ReadOff (Reads .progQuery) (trial K .progQuery)
  := by
  intro s
  have hcheck : (checkQuery K).run.run s = _ := Action.run_attempt_bind
  have htrial : (trial K .progQuery).run.run s
      = (.ok (some ((Functor.discard (K.queryPrograms nowhere .cgroupInetIngress)).run.run s).1),
        ((Functor.discard (K.queryPrograms nowhere .cgroupInetIngress)).run.run s).2) := rfl
  rw [hcheck, htrial, Action.run_discard]
  rcases (K.queryPrograms nowhere .cgroupInetIngress).run.run s with ⟨e | count, s'⟩
  · dsimp only
    split
    next hexpected => exact ⟨.confirmed (.expected rfl (of_decide_eq_true hexpected)), rfl⟩
    next hexpected =>
      refine ⟨.denied (.unqueried rfl ?_), rfl⟩
      intro he
      exact hexpected (decide_eq_true he)
  · exact ⟨.impossible rfl, rfl⟩

/-- The check of every feature follows the rules. -/
theorem readOff_check (K : Kernel σ) (feature : AttachFeature) :
  (check K feature).ReadOff feature.Reads (feature.trial K)
  := by
  cases feature with
  | progAttach =>
      apply readOff_loadTrivial_bind
      intro fd s
      exact ⟨.unasked, rfl⟩
  | progAttachReplace =>
      rw [check, checkProgAttachReplace, checkProgAttach, bind_assoc]
      apply readOff_loadTrivial_bind
      intro first
      rw [pure_bind]
      apply readOff_loadTrivial_bind
      intro fd
      exact readOff_judge (fun s => rfl) (exists_reading_of_reached .progAttachReplace (by decide) rfl)
  | bpfLink =>
      exact readOff_judge (run_tryLink K _) (exists_reading_of_reached .bpfLink (by decide) rfl)
  | progQuery => exact readOff_checkQuery K
  | tcx => exact readOff_checkChain (.inl ⟨rfl, rfl⟩)
  | netkit => exact readOff_checkChain (.inr ⟨rfl, rfl⟩)
  | kprobeMulti =>
      apply readOff_loadTrivial_bind
      intro fd
      exact readOff_judge (run_tryLink K _) (exists_reading_of_reached .kprobeMulti (by decide) rfl)
  | uprobeMulti =>
      apply readOff_loadTrivial_bind
      intro fd
      exact readOff_judge (run_tryLink K _) (exists_reading_of_reached .uprobeMulti (by decide) rfl)

end Checks

end AttachFeature

/-! ### Verdicts -/

/-- For a way to attach programs about which there is no verdict yet, nothing is done but to load the
programs that its request needs and to make the request.  There is no such feature, under its own name
and release, if and only if a load fails or the error of the request says so, with the reason that the
error gives.  There is the feature if and only if everything is loaded and there is no request or the
answer confirms the feature.  A request that succeeds though it cannot breaks the contract of the
kernel.  An error about a feature is passed on as it is, unless it comes from a query, and every other
error leaves the question open and comes with the answer. -/
theorem verdict_on_attachment (K : Kernel σ) {h : Host σ} {feature : AttachFeature}
    (hunknown : h.features.verdict? (.attachment feature) = none) :
  let tried := (feature.trial K).run.run h.kernel
  let asked := ((Probes.ofKernel K).ask (.attachment feature)).run h
  asked.2.kernel = tried.2
    ∧ (∀ name version reason, asked.1 = .error (.notSupported name version reason)
      ↔ (name = feature.text ∧ version = some feature.version
          ∧ (((∃ e, tried.1 = .error e) ∧ reason = none)
            ∨ ∃ e, tried.1 = .ok (some (.error e)) ∧ feature.Denies e reason))
        ∨ (feature ≠ .progQuery
          ∧ tried.1 = .ok (some (.error (.feature (.notSupported name version reason))))))
    ∧ (asked.1 = .ok ()
      ↔ tried.1 = .ok none ∨ ∃ answer, tried.1 = .ok (some answer) ∧ feature.Confirms answer)
    ∧ (∀ message, tried.1 = .ok (some (.ok ())) → feature.surprise = some message →
      asked.1 = .error (.inconclusive feature.text (.fatal message)))
    ∧ (∀ source, tried.1 = .ok (some (.error (.feature source))) → feature ≠ .progQuery →
      asked.1 = .error source)
    ∧ (∀ e, tried.1 = .ok (some (.error e)) → ¬ feature.Confirms (.error e) →
      (∀ reason, ¬ feature.Denies e reason) → (∀ source, e ≠ .feature source) →
      asked.1 = .error (.inconclusive feature.text e))
  := by
  intro tried asked
  have hprobe : (Probes.ofKernel K).probe? (.attachment feature)
      = some ⟨feature.text, some feature.version, feature.check K⟩ :=
    AttachFeature.probe?_matrix K feature
  obtain ⟨reading, hreads, hverdict, hkernel⟩ :=
    Probes.run_ask_of_readOff hprobe (AttachFeature.readOff_check K feature) hunknown
  have hreads : feature.Reads tried.1 reading := hreads
  refine ⟨hkernel, ?_, ?_, ?_, ?_, ?_⟩
  · intro name version reason
    rw [hverdict, Probe.judge_eq_notSupported_iff, hreads.eq_notSupported_iff, hreads.eq_feature_iff]
  · rw [hverdict, Probe.judge_eq_ok_iff, hreads.eq_ok_iff]
  · intro message hsuccess hsurprise
    rw [hsuccess] at hreads
    rw [hverdict, hreads.of_impossible hsurprise]
    rfl
  · intro source hsource hfeature
    rw [hverdict, hreads.eq_feature_iff.2 ⟨hfeature, hsource⟩]
    rfl
  · intro e he hconfirms hdenies hsource
    rw [he] at hreads
    rw [hverdict, hreads.of_open hconfirms hdenies]
    apply Probe.judge_of_open _ hsource
    rintro reason rfl
    by_cases hquery : feature = .progQuery
    · exact hdenies none (.unqueried hquery (by rintro ⟨⟩))
    · exact hdenies reason (.notSupported hquery reason)

/-- Links with many kernel probes are not there if the request is not supported. -/
theorem verdict_on_attachment_kprobeMulti :
  let refusal : Error := .ofErrno Command.linkCreate Errno.eopnotsupp
  let K : Kernel (Memory.Machine Unit) :=
    Memory.kernel {} { createLink := some fun _ => throw refusal }
  let host : Host (Memory.Machine Unit) := .new ⟨{}, ()⟩
  ((AttachFeature.kprobeMulti.trial K).run.run host.kernel).1 = .ok (some (.error refusal))
    ∧ (((Probes.ofKernel K).ask (.attachment .kprobeMulti)).run host).1
      = .error (.notSupported "bpf_link_kprobe_multi" (some (.release 5 18)) none)
  := by
  intro refusal K host
  have hrefused : ((AttachFeature.kprobeMulti.trial K).run.run host.kernel).1
      = .ok (some (.error refusal)) := by decide +kernel
  have hdenies : AttachFeature.kprobeMulti.Denies refusal none :=
    .refused (by decide) (by decide : Errno.eopnotsupp ∈ _) rfl
  have hunknown : host.features.verdict? (.attachment .kprobeMulti) = none := rfl
  obtain ⟨-, hnotSupported, -⟩ := verdict_on_attachment K hunknown
  exact ⟨hrefused, (hnotSupported _ _ _).2 (.inl ⟨rfl, rfl, .inr ⟨refusal, hrefused, hdenies⟩⟩)⟩

end Bpf
