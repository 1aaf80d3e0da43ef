import Bpf.Config
import Bpf.Proofs.LogRoom
import Bpf.Request

/-!
# Attempts to load a program

A kernel is asked for a program once, and again for as long as it says that the log has been cut short.
`Kernel.loadsHeard` is the kernel with a list of the attempts to load programs, and `Rounds` says which
attempts a single load consists of.  They differ in nothing but the room for the log, which is four
times as much at each attempt until it is the most that there can be, so their number is bounded
whatever the kernel replies.
-/

namespace Bpf

variable {σ : Type}

/-! ### What is heard of loads -/

/-- An attempt to load a program. -/
structure Attempt where
  request : ProgramLoad
  /-- What the kernel has replied. -/
  reply : Except Error Descriptor

/-- The kernel with a list of the attempts to load programs. -/
def Kernel.loadsHeard (K : Kernel σ) : Kernel (σ × List Attempt) :=
  let part := Part.first σ (List Attempt)
  { K.onPart part with
    loadProgram := fun load => do
      let reply ← Action.attempt (Action.onPart part (K.loadProgram load))
      modify fun s => (s.1, s.2 ++ [⟨load, reply⟩])
      Action.ofExcept reply }

theorem run_loadsHeard_loadProgram (K : Kernel σ) (load : ProgramLoad) (s : σ)
    (heard : List Attempt) :
  (K.loadsHeard.loadProgram load).run.run (s, heard)
    = (((K.loadProgram load).run.run s).1, ((K.loadProgram load).run.run s).2,
        heard ++ [⟨load, ((K.loadProgram load).run.run s).1⟩])
  := rfl

/-- The reply is that the log has been cut short, and there can be more room for it. -/
def Attempt.CutShort (attempt : Attempt) : Prop :=
  ∃ source log, attempt.reply = .error (.verifier source log)
    ∧ source.errno = some Errno.enospc
    ∧ 1 ≤ attempt.request.logSize ∧ attempt.request.logSize < maxLogSize

namespace Attempt

theorem not_cutShort_ok (load : ProgramLoad) (fd : Descriptor) :
  ¬ CutShort ⟨load, .ok fd⟩
  := by
  rintro ⟨source, log, hreply, -⟩
  cases hreply

theorem cutShort_error_iff {load : ProgramLoad} {e : Error} :
  CutShort ⟨load, .error e⟩ ↔ wantsRoom e load.logSize = true
  := by
  constructor
  · rintro ⟨source, log, hreply, herrno, hpos, hsize⟩
    cases hreply
    simp only [wantsRoom, herrno, hpos, hsize, decide_true, Bool.and_self]
  · intro hwants
    obtain ⟨hpos, hsize⟩ := lt_maxLogSize_of_wantsRoom hwants
    cases e with
    | verifier source log =>
        simp only [wantsRoom, Bool.and_eq_true, decide_eq_true_eq] at hwants
        use source, log, rfl, hwants.1.1
    | _ => cases hwants

/-- If there is too little room and the log still does not count as cut short, then there was none, or
there cannot be more. -/
theorem room_of_not_cutShort {attempt : Attempt} (h : ¬ attempt.CutShort) {source : IoError}
    {log : List String} (hreply : attempt.reply = .error (.verifier source log))
    (herrno : source.errno = some Errno.enospc) :
  attempt.request.logSize = 0 ∨ maxLogSize ≤ attempt.request.logSize
  := by
  by_contra hroom
  apply h
  use source, log, hreply, herrno
  omega

end Attempt

/-! ### Room -/

/-- The room for the log at an attempt, if there is room for `size` bytes at first. -/
def roomAt (size : Nat) : Nat → Nat
  | 0 => size
  | i + 1 => min (size * 4 ^ (i + 1)) maxLogSize

/-- The request that an attempt makes. -/
def ProgramLoad.attempt (load : ProgramLoad) (i : Nat) : ProgramLoad :=
  { load with logSize := roomAt load.logSize i }

theorem maxLogSize_le_mul_pow (i : Nat) :
  maxLogSize ≤ maxLogSize * 4 ^ i
  := by
  apply Nat.le_mul_of_pos_right
  apply Nat.pow_pos
  omega

theorem grownSize_mul_pow (size i : Nat) :
  grownSize size * 4 ^ i = min (size * 4 ^ (i + 1)) (maxLogSize * 4 ^ i)
  := by
  have hpow : 4 * size * 4 ^ i = size * 4 ^ (i + 1) := by ring
  rw [grownSize, ← Nat.mul_min_mul_right, hpow]

/-- With more room at first, an attempt has the room that the next one would have had. -/
theorem roomAt_grownSize (size i : Nat) :
  roomAt (grownSize size) i = roomAt size (i + 1)
  := by
  cases i with
  | zero =>
      simp only [roomAt, grownSize]
      omega
  | succ i =>
      rw [roomAt, grownSize_mul_pow, min_assoc, min_eq_right (maxLogSize_le_mul_pow (i + 1))]
      rfl

/-! ### Rounds -/

/-- The attempts that the load of a program consists of, and its answer. -/
inductive Rounds : ProgramLoad → List Attempt → Except Error Descriptor → Prop
  | last {load : ProgramLoad} {reply : Except Error Descriptor}
    (h : ¬ Attempt.CutShort ⟨load, reply⟩) : Rounds load [⟨load, reply⟩] reply
  | again {load : ProgramLoad} {reply answer : Except Error Descriptor} {attempts : List Attempt}
    (h : Attempt.CutShort ⟨load, reply⟩)
    (hrest : Rounds { load with logSize := grownSize load.logSize } attempts answer) :
    Rounds load (⟨load, reply⟩ :: attempts) answer

/-- Loading a program is a matter of such attempts, and they do not change its answer. -/
theorem rounds_loadGrowing (K : Kernel σ) (load : ProgramLoad) (s : σ) (heard : List Attempt) :
  ∃ attempts, Rounds load attempts ((loadGrowing K load).run.run s).1
    ∧ (loadGrowing K.loadsHeard load).run.run (s, heard)
      = (((loadGrowing K load).run.run s).1, ((loadGrowing K load).run.run s).2, heard ++ attempts)
  := by
  induction load using loadGrowing.induct generalizing s heard with
  | case1 load ih =>
      rw [run_loadGrowing K.loadsHeard, run_loadGrowing K, run_loadsHeard_loadProgram]
      rcases (K.loadProgram load).run.run s with ⟨e | fd, s'⟩
      · by_cases hwants : wantsRoom e load.logSize = true
        · obtain ⟨attempts, hrounds, hrun⟩ := ih e hwants s' (heard ++ [⟨load, .error e⟩])
          simp only [hwants, if_true]
          use ⟨load, .error e⟩ :: attempts
          constructor
          · apply Rounds.again (Attempt.cutShort_error_iff.mpr hwants) hrounds
          · rw [hrun, List.append_assoc, List.singleton_append]
        · simp only [hwants, Bool.false_eq_true, if_false]
          use [⟨load, .error e⟩]
          constructor
          · apply Rounds.last
            rw [Attempt.cutShort_error_iff]
            apply hwants
          · rfl
      · use [⟨load, .ok fd⟩]
        constructor
        · apply Rounds.last (Attempt.not_cutShort_ok load fd)
        · rfl

namespace Rounds

variable {load : ProgramLoad} {attempts : List Attempt} {answer : Except Error Descriptor}

/-- Each attempt is for the same program with the room that is due to it. -/
theorem requests_eq (h : Rounds load attempts answer) :
  attempts.map Attempt.request = (List.range attempts.length).map load.attempt
  := by
  induction h with
  | last h => rfl
  | @again load reply answer attempts h hrest ih =>
      rw [List.map_cons, ih, List.length_cons, List.range_succ_eq_map, List.map_cons, List.map_map]
      congr 1
      apply List.map_congr_left
      intro i hi
      simp only [ProgramLoad.attempt, Function.comp_apply, roomAt_grownSize]

/-- All replies but the last one say that the log has been cut short, and the last one is the
answer. -/
theorem exists_last (h : Rounds load attempts answer) :
  ∃ earlier last, attempts = earlier ++ [last]
    ∧ (∀ attempt ∈ earlier, attempt.CutShort)
    ∧ ¬ last.CutShort ∧ last.reply = answer
  := by
  induction h with
  | @last load reply h =>
      use [], ⟨load, reply⟩, rfl
      constructor
      · intro attempt hattempt
        cases hattempt
      · constructor
        · apply h
        · rfl
  | @again load reply answer attempts h hrest ih =>
      obtain ⟨earlier, last, rfl, hearlier, hlast⟩ := ih
      use ⟨load, reply⟩ :: earlier, last, rfl
      constructor
      · apply List.forall_mem_cons.mpr ⟨h, hearlier⟩
      · apply hlast

/-- The room is used up after as many attempts as it takes to grow to the most there can be. -/
theorem length_le (h : Rounds load attempts answer) {n : Nat}
    (hroom : maxLogSize ≤ load.logSize * 4 ^ n) :
  attempts.length ≤ n + 1
  := by
  induction h generalizing n with
  | last h => apply Nat.le_add_left
  | @again load reply answer attempts h hrest ih =>
      obtain ⟨-, -, -, -, -, hsize⟩ := h
      cases n with
      | zero =>
          simp only at hsize
          omega
      | succ n =>
          apply Nat.succ_le_succ
          apply ih
          rw [grownSize_mul_pow]
          apply le_min hroom (maxLogSize_le_mul_pow n)

/-- Without room for a log, and with the most there can be, a single attempt is all. -/
theorem length_eq_one (h : Rounds load attempts answer)
    (hroom : load.logSize = 0 ∨ maxLogSize ≤ load.logSize) :
  attempts.length = 1
  := by
  cases h with
  | last h => rfl
  | again h hrest =>
      obtain ⟨-, -, -, -, hpos, hsize⟩ := h
      simp only at hpos hsize
      omega

end Rounds

/-! ### Loads -/

/-- The limits on the configuration of a host are limits on the room for the log. -/
theorem Config.minLogSize_le {c : Config} (h : c.problem? = none) :
  minLogSize ≤ c.logSize
  := by
  unfold problem? at h
  split at h
  · cases h
  · split at h
    · cases h
    next hsize =>
      simp only [Bool.or_eq_true, decide_eq_true_eq, not_or, Nat.not_lt] at hsize
      apply hsize.1

namespace Program

/-- The request that the load of a program starts with, where the kernel has that much room for a
log. -/
def firstRequest (spec : ProgramSpec) (license : NulFree) (btfId : Option UInt32) (logLevel : UInt32)
    (room : Nat) : ProgramLoad where
  programType := spec.programType
  attachType := spec.attachType
  btfId
  insns := spec.insns
  license
  name := spec.name
  flags := spec.flags
  logLevel
  logSize := if logLevel > 0 then room else 0

section

variable {K : Kernel σ} {spec : ProgramSpec} {license : NulFree} {btfId : Option UInt32} {s₀ s : σ}

theorem run_request (hlicense : NulFree.ofString? spec.license = some license)
    (htarget : (targetId K spec.attachTo).run.run s₀ = (.ok btfId, s)) (logLevel : UInt32) :
  (request K spec logLevel).run.run s₀
    = (.ok (firstRequest spec license btfId logLevel (K.logSize s)), s)
  := by
  rw [request, hlicense]
  dsimp only
  rw [Action.run_bind_of_ok htarget]
  rfl

theorem run_loadsHeard_targetId (K : Kernel σ) (function : Option String) (s : σ)
    (heard : List Attempt) :
  (targetId K.loadsHeard function).run.run (s, heard)
    = (((targetId K function).run.run s).1, ((targetId K function).run.run s).2, heard)
  := by
  cases function with
  | none => rfl
  | some function =>
      have hheard : (K.loadsHeard.btfId function).run.run (s, heard)
          = (((K.btfId function).run.run s).1, ((K.btfId function).run.run s).2, heard) := rfl
      rw [targetId, targetId, map_eq_pure_bind, map_eq_pure_bind]
      rcases hid : (K.btfId function).run.run s with ⟨e | id, s'⟩
      · rw [hid] at hheard
        rw [Action.run_bind_of_error hheard, Action.run_bind_of_error hid]
      · rw [hid] at hheard
        rw [Action.run_bind_of_ok hheard, Action.run_bind_of_ok hid]
        rfl

/-- A load is heard from its first attempt to the last one, whose reply it comes to. -/
theorem rounds_load {first : ProgramLoad} {logLevel : UInt32} {heard : List Attempt}
    (hrequest : (request K spec logLevel).run.run s₀ = (.ok first, s))
    (hheard : (request K.loadsHeard spec logLevel).run.run (s₀, heard) = (.ok first, s, heard)) :
  ∃ attempts reply, Rounds first attempts reply
    ∧ ((load K spec logLevel).run.run s₀).1 = reply.map (fun fd => ⟨some fd, spec.programType⟩)
    ∧ (load K.loadsHeard spec logLevel).run.run (s₀, heard)
      = (((load K spec logLevel).run.run s₀).1, ((load K spec logLevel).run.run s₀).2,
          heard ++ attempts)
  := by
  obtain ⟨attempts, hrounds, hrun⟩ := rounds_loadGrowing K first s heard
  use attempts, ((loadGrowing K first).run.run s).1, hrounds
  rw [load, load, Action.run_bind_of_ok hrequest, Action.run_bind_of_ok hheard]
  rcases hgrowing : (loadGrowing K first).run.run s with ⟨e | fd, s'⟩
  · rw [hgrowing] at hrun
    rw [Action.run_bind_of_error hgrowing, Action.run_bind_of_error hrun]
    constructor
    · rfl
    · rfl
  · rw [hgrowing] at hrun
    rw [Action.run_bind_of_ok hgrowing, Action.run_bind_of_ok hrun]
    constructor
    · rfl
    · rfl

end

/-- The attempts of a load are for the same program, and the room for the log is what is due to each
of them.  Every reply but the last one says that the log has been cut short where there can be more room,
and the last one, which does not, is what the load comes to.  Hence there is a single attempt if there
is no log, no room for it, or the most there can be, there are never more than thirteen, and no more
than eight with the room that a configuration gives; and the log may be cut short in the end only if
there was no room for it at all, or the most there can be. -/
theorem attempts_of_load (K : Kernel σ) {spec : ProgramSpec} (logLevel : UInt32)
    {btfId : Option UInt32} {s₀ s : σ} (hlicense : '\x00' ∉ spec.license.toList)
    (htarget : (targetId K spec.attachTo).run.run s₀ = (.ok btfId, s)) :
  let first := firstRequest spec ⟨spec.license, hlicense⟩ btfId logLevel (K.logSize s)
  let answer := ((load K spec logLevel).run.run s₀).1
  ∃ attempts,
    (load K.loadsHeard spec logLevel).run.run (s₀, [])
        = (answer, ((load K spec logLevel).run.run s₀).2, attempts)
      ∧ attempts.map Attempt.request = (List.range attempts.length).map first.attempt
      ∧ (∃ earlier last, attempts = earlier ++ [last]
        ∧ (∀ attempt ∈ earlier, attempt.CutShort)
        ∧ ¬ last.CutShort
        ∧ answer = last.reply.map (fun fd => ⟨some fd, spec.programType⟩)
        ∧ ∀ source log, answer = .error (.verifier source log) →
          source.errno = some Errno.enospc →
          last.request.logSize = 0 ∨ maxLogSize ≤ last.request.logSize)
      ∧ (logLevel = 0 ∨ K.logSize s = 0 ∨ maxLogSize ≤ K.logSize s → attempts.length = 1)
      ∧ attempts.length ≤ 13
      ∧ ∀ c : Config, c.problem? = none → c.logSize = K.logSize s → attempts.length ≤ 8
  := by
  intro first answer
  have hchecked : NulFree.ofString? spec.license = some ⟨spec.license, hlicense⟩ :=
    NulFree.ofString?_eq_some_iff.mpr rfl
  have hheard : (targetId K.loadsHeard spec.attachTo).run.run (s₀, []) = (.ok btfId, s, []) := by
    rw [run_loadsHeard_targetId, htarget]
  obtain ⟨attempts, reply, hrounds, hanswer, hrun⟩ :=
    rounds_load (run_request hchecked htarget logLevel) (run_request hchecked hheard logLevel)
  obtain ⟨earlier, last, hattempts, hearlier, hlast, hreply⟩ := hrounds.exists_last
  have hone (h : logLevel = 0 ∨ K.logSize s = 0 ∨ maxLogSize ≤ K.logSize s) :
      attempts.length = 1 := by
    apply hrounds.length_eq_one
    by_cases hlevel : logLevel > 0
    · rw [firstRequest, if_pos hlevel]
      apply h.resolve_left
      rintro rfl
      apply absurd hlevel (by decide)
    · rw [firstRequest, if_neg hlevel]
      apply Or.inl rfl
  have hsized (n : Nat) (hroom : maxLogSize ≤ K.logSize s * 4 ^ n) : attempts.length ≤ n + 1 := by
    by_cases hlevel : logLevel > 0
    · apply hrounds.length_le
      rw [firstRequest, if_pos hlevel]
      apply hroom
    · rw [hone (Or.inl (UInt32.le_zero_iff.mp (UInt32.not_lt.mp hlevel)))]
      apply Nat.le_add_left
  use attempts, hrun, hrounds.requests_eq
  constructor
  · use earlier, last, hattempts, hearlier, hlast
    constructor
    · rw [hreply]
      apply hanswer
    · intro source log hrefused herrno
      have hrefused := hanswer.symm.trans hrefused
      cases reply with
      | ok fd => cases hrefused
      | error e =>
          cases hrefused
          apply Attempt.room_of_not_cutShort hlast hreply herrno
  constructor
  · apply hone
  constructor
  · by_cases hzero : K.logSize s = 0
    · rw [hone (Or.inr (Or.inl hzero))]
      omega
    · apply hsized 12
      simp only [maxLogSize]
      omega
  · intro c hc hsize
    have hmin := Config.minLogSize_le hc
    rw [hsize, Config.minLogSize] at hmin
    apply hsized 7
    simp only [maxLogSize]
    omega

/-- A kernel that has room for a single byte of log at first, and for which no room is enough. -/
def verboseKernel : Kernel (Memory.Machine Unit) :=
  Memory.kernel { btf := [("bpf_init", 7)], logSize := 1 }
    { loadProgram := some fun _ => throw (.verifier (.os Errno.enospc) ["0: (85) call"]) }

/-- With a single byte of room at first it takes thirteen attempts to get to the most there can be. -/
theorem attempts_of_load_verbose :
  let spec : ProgramSpec := { ProgramType.tracing.smallest with attachTo := some "bpf_init" }
  let m : Memory.Machine Unit := ⟨{}, ()⟩
  '\x00' ∉ spec.license.toList
    ∧ ((targetId verboseKernel spec.attachTo).run.run m).1 = .ok (some 7)
    ∧ ∃ attempts, ((load verboseKernel.loadsHeard spec 1).run.run (m, [])).2.2 = attempts
      ∧ attempts.map (fun attempt => attempt.request.logSize)
        = [1, 4, 16, 64, 256, 1024, 4096, 16384, 65536, 262144, 1048576, 4194304, 16777215]
  := by
  intro spec m
  have hlicense : '\x00' ∉ spec.license.toList := by decide
  have htarget : (targetId verboseKernel spec.attachTo).run.run m = (.ok (some 7), m) := by rfl
  have hlength : ((load verboseKernel.loadsHeard spec 1).run.run (m, [])).2.2.length = 13 := by cbv
  obtain ⟨attempts, hrun, hrequests, -⟩ :=
    attempts_of_load verboseKernel 1 hlicense htarget
  rw [hrun] at hlength ⊢
  constructor
  · apply hlicense
  constructor
  · rw [htarget]
  · use attempts, rfl
    have hsizes := congrArg (List.map ProgramLoad.logSize) hrequests
    rw [List.map_map, hlength] at hsizes
    apply Eq.trans hsizes
    cbv

end Program

end Bpf
