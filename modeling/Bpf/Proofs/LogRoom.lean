import Bpf.Host
import Bpf.Memory.Kernel
import Mathlib

/-!
# Room for the log of the verifier

A verifier has a final reply on each program, and a log of a certain length.  A kernel gives the final
reply when there is room for the whole log, and complains that there is none otherwise.  Loading with
a log then comes to the final reply from every size that the room may have at first, so nothing that
is read from the log depends on that size.
-/

namespace Bpf

variable {σ : Type}

/-- The kernel with `room` bytes for the log at the first attempt. -/
def Kernel.withRoom (room : Nat) (K : Kernel σ) : Kernel σ := { K with logSize := fun _ => room }

/-- The request with no say on the room for the log. -/
def ProgramLoad.unsized (load : ProgramLoad) : ProgramLoad := { load with logSize := 0 }

/-- What a verifier has to say of programs, however much room there is for its log. -/
structure Verifier where
  /-- The final reply, which has the whole log in it if it is an error with a log. -/
  reply : ProgramLoad → Except Error Unit
  /-- The bytes of the whole log. -/
  logLength : ProgramLoad → Nat

/-- A kernel answers requests with a log as its verifier says, as far as there is room for the log. -/
structure Verifier.Answers (V : Verifier) (K : Kernel σ) : Prop where
  short : ∀ load, V.logLength load < maxLogSize
  whole : ∀ load s, 0 < load.logLevel → V.logLength load.unsized < load.logSize →
    ((K.loadProgram load).run.run s).1.map (fun _ => ()) = V.reply load.unsized
  cut : ∀ load s, 0 < load.logLevel → load.logSize ≤ V.logLength load.unsized →
    ∃ log, ((K.loadProgram load).run.run s).1 = .error (.verifier (.os Errno.enospc) log)

/-! ### Growing -/

theorem one_le_grownSize {size : Nat} (h : 1 ≤ size) :
  1 ≤ grownSize size
  := by
  simp only [grownSize, maxLogSize]
  omega

theorem wantsRoom_of_enospc {size : Nat} (log : List String) (h : 1 ≤ size)
    (hsize : size < maxLogSize) :
  wantsRoom (.verifier (.os Errno.enospc) log) size = true
  := by
  simp [wantsRoom, IoError.errno, h, hsize]

/-- One round: the answer stands unless it wants more room. -/
theorem run_loadGrowing (K : Kernel σ) (load : ProgramLoad) (s : σ) :
  (loadGrowing K load).run.run s
    = match (K.loadProgram load).run.run s with
      | (.ok fd, s') => (.ok fd, s')
      | (.error e, s') =>
        if wantsRoom e load.logSize then
          (loadGrowing K { load with logSize := grownSize load.logSize }).run.run s'
        else (.error e, s')
  := by
  rw [loadGrowing, Action.run_attempt_bind]
  rcases (K.loadProgram load).run.run s with ⟨e | fd, s'⟩
  · dsimp only
    split
    · rfl
    · rfl
  · rfl

/-- Whatever the room at first, the last answer is the final reply. -/
theorem answer_loadGrowing {K : Kernel σ} {V : Verifier} (hV : V.Answers K) (load : ProgramLoad)
    (hlevel : 0 < load.logLevel) (hsize : 1 ≤ load.logSize) (s : σ) :
  ((loadGrowing K load).run.run s).1.map (fun _ => ()) = V.reply load.unsized
  := by
  induction load using loadGrowing.induct generalizing s with
  | case1 load ih =>
      have hagain (e : Error) (hwants : wantsRoom e load.logSize = true) (s' : σ) :=
        ih e hwants hlevel (one_le_grownSize hsize) s'
      have hwhole := hV.whole load s hlevel
      have hcut := hV.cut load s hlevel
      rw [run_loadGrowing]
      rcases hrun : (K.loadProgram load).run.run s with ⟨answer, s'⟩
      rw [hrun] at hwhole hcut
      by_cases hroom : V.logLength load.unsized < load.logSize
      · rw [← hwhole hroom]
        cases answer with
        | ok fd => rfl
        | error e =>
            -- The final reply may itself look like a log that is cut short.
            by_cases hwants : wantsRoom e load.logSize = true
            · simp only [hwants, if_true]
              rw [hagain e hwants]
              apply (hwhole hroom).symm
            · simp only [hwants, Bool.false_eq_true, if_false]
      · obtain ⟨log, hlog⟩ := hcut (Nat.not_lt.1 hroom)
        have hsmall : load.logSize < maxLogSize :=
          Nat.lt_of_le_of_lt (Nat.not_lt.1 hroom) (hV.short load.unsized)
        have hwants := wantsRoom_of_enospc log hsize hsmall
        cases hlog
        simp only [hwants, if_true]
        apply hagain _ hwants

/-! ### Loading -/

namespace Program

theorem targetId_withRoom (K : Kernel σ) (room : Nat) (function : Option String) :
  targetId (K.withRoom room) function = targetId K function
  := by
  cases function with
  | none => rfl
  | some function => rfl

theorem request_withRoom (K : Kernel σ) (room : Nat) (spec : ProgramSpec) (logLevel : UInt32) :
  request (K.withRoom room) spec logLevel
    = (fun load => { load with logSize := if logLevel > 0 then room else 0 })
        <$> request K spec logLevel
  := by
  unfold request
  cases NulFree.ofString? spec.license with
  | none => rfl
  | some license =>
      simp only [targetId_withRoom, map_bind]
      rfl

/-- A request without a log does not depend on the room for a log. -/
theorem request_zero_withRoom (K : Kernel σ) (room : Nat) (spec : ProgramSpec) :
  request (K.withRoom room) spec 0 = request K spec 0
  := by
  unfold request
  cases NulFree.ofString? spec.license with
  | none => rfl
  | some license =>
      simp only [targetId_withRoom]
      rfl

theorem logLevel_of_request {K : Kernel σ} {spec : ProgramSpec} {logLevel : UInt32} {s s' : σ}
    {load : ProgramLoad} (h : (request K spec logLevel).run.run s = (.ok load, s')) :
  load.logLevel = logLevel
  := by
  unfold request at h
  cases hlicense : NulFree.ofString? spec.license with
  | none =>
      rw [hlicense] at h
      cases h
  | some license =>
      rw [hlicense] at h
      rcases htarget : (targetId K spec.attachTo).run.run s with ⟨e | btfId, s₁⟩
      · rw [Action.run_bind_of_error htarget] at h
        cases h
      · rw [Action.run_bind_of_ok htarget] at h
        cases h
        rfl

theorem loadGrowing_withRoom (K : Kernel σ) (room : Nat) (load : ProgramLoad) :
  loadGrowing (K.withRoom room) load = loadGrowing K load
  := by
  induction load using loadGrowing.induct with
  | case1 load ih =>
      apply ExceptT.ext
      apply StateT.ext
      intro s
      rw [run_loadGrowing (K.withRoom room) load s, run_loadGrowing K load s]
      rcases hrun : (K.loadProgram load).run.run s with ⟨e | fd, s'⟩
      · have hrun' : ((K.withRoom room).loadProgram load).run.run s = (.error e, s') := hrun
        rw [hrun']
        dsimp only
        split
        next hwants => rw [ih e hwants]
        next => rfl
      · have hrun' : ((K.withRoom room).loadProgram load).run.run s = (.ok fd, s') := hrun
        rw [hrun']

theorem load_zero_withRoom (K : Kernel σ) (room : Nat) (spec : ProgramSpec) :
  load (K.withRoom room) spec 0 = load K spec 0
  := by
  simp only [load, request_zero_withRoom, loadGrowing_withRoom]

/-- Loading with a log comes to the final reply, if the program gets as far as the verifier. -/
theorem answer_load {K : Kernel σ} {V : Verifier} (hV : V.Answers K) {logLevel : UInt32}
    (hlevel : 0 < logLevel) {room : Nat} (hroom : 1 ≤ room) (spec : ProgramSpec) (s : σ) :
  ((load (K.withRoom room) spec logLevel).run.run s).1.map Program.programType
    = ((request K spec logLevel).run.run s).1.bind fun load =>
        (V.reply load.unsized).map fun _ => spec.programType
  := by
  simp only [load, request_withRoom, loadGrowing_withRoom, bind_map_left]
  rcases hrequest : (request K spec logLevel).run.run s with ⟨e | load, s'⟩
  · rw [Action.run_bind_of_error hrequest]
    rfl
  · rw [Action.run_bind_of_ok hrequest]
    have hload := logLevel_of_request hrequest
    have hreply := answer_loadGrowing hV
      { load with logSize := if logLevel > 0 then room else 0 } (by rw [hload]; exact hlevel)
      (by rw [if_pos hlevel]; exact hroom) s'
    show _ = (V.reply load.unsized).map _
    rcases hrun : (loadGrowing K { load with logSize := if logLevel > 0 then room else 0 }).run.run
      s' with ⟨e | fd, s''⟩
    · rw [hrun] at hreply
      have hreply : .error e = V.reply load.unsized := hreply
      rw [Action.run_bind_of_error hrun, ← hreply]
      rfl
    · rw [hrun] at hreply
      have hreply : .ok () = V.reply load.unsized := hreply
      rw [Action.run_bind_of_ok hrun, ← hreply]
      rfl

end Program

/-! ### Verdicts -/

theorem checkProgram_withRoom (K : Kernel σ) (room : Nat) (spec : ProgramSpec) :
  checkProgram (K.withRoom room) spec = checkProgram K spec
  := by
  simp only [checkProgram, Program.load_zero_withRoom]

namespace ProgramType

/-- Only the check for programs that replace functions asks for a log. -/
theorem check_withRoom (K : Kernel σ) (room : Nat) {t : ProgramType} (h : t ≠ .extension) :
  check (K.withRoom room) t = check K t
  := by
  cases t with
  | extension => apply absurd rfl h
  | _ => simp only [check, ownCheck, checkTarget, checkStructOps, checkProgram_withRoom]

theorem result_withRoom (K : Kernel σ) (room : Nat) {t : ProgramType} (h : t ≠ .extension) :
  (matrix (K.withRoom room)).result t = (matrix K).result t
  := by
  simp only [Matrix.result, probe?_matrix, check_withRoom K room h]
  rfl

end ProgramType

namespace AttachFeature

theorem loadTrivial_withRoom (K : Kernel σ) (room : Nat) :
  loadTrivial (K.withRoom room) = loadTrivial K
  := by
  funext programType attachType
  simp only [loadTrivial, Program.load_zero_withRoom]

/-- No check for an attachment asks for a log. -/
theorem check_withRoom (K : Kernel σ) (room : Nat) :
  check (K.withRoom room) = check K
  := by
  funext feature
  cases feature with
  | bpfLink => rfl
  | progQuery => rfl
  | progAttach => simp only [check, checkProgAttach, loadTrivial_withRoom]
  | progAttachReplace =>
      simp only [check, checkProgAttachReplace, checkProgAttach, loadTrivial_withRoom]
      rfl
  | kprobeMulti =>
      simp only [check, checkKprobeMulti, loadTrivial_withRoom]
      rfl
  | uprobeMulti =>
      simp only [check, checkUprobeMulti, loadTrivial_withRoom]
      rfl
  | _ =>
      simp only [check, checkChain, loadTrivial_withRoom]
      rfl

theorem matrix_withRoom (K : Kernel σ) (room : Nat) :
  matrix (K.withRoom room) = matrix K
  := by
  rw [matrix, matrix, check_withRoom]

end AttachFeature

theorem InsnFeature.matrix_withRoom (K : Kernel σ) (room : Nat) :
  matrix (K.withRoom room) = matrix K
  := by
  simp only [matrix, checkProgram_withRoom]

section Verdicts

variable {K : Kernel σ} {V : Verifier} {room room' : Nat}

theorem Program.answer_load_eq (hV : V.Answers K) (hroom : 1 ≤ room) (hroom' : 1 ≤ room')
    {logLevel : UInt32} (hlevel : 0 < logLevel) (spec : ProgramSpec) (s : σ) :
  ((load (K.withRoom room) spec logLevel).run.run s).1.map programType
    = ((load (K.withRoom room') spec logLevel).run.run s).1.map programType
  := by
  rw [answer_load hV hlevel hroom, answer_load hV hlevel hroom']

/-- Both loads fail for the same reason, or neither does. -/
theorem Program.load_cases (hV : V.Answers K) (hroom : 1 ≤ room) (hroom' : 1 ≤ room')
    {logLevel : UInt32} (hlevel : 0 < logLevel) (spec : ProgramSpec) (s : σ) :
  (∃ e s₁ s₂, (load (K.withRoom room) spec logLevel).run.run s = (.error e, s₁)
      ∧ (load (K.withRoom room') spec logLevel).run.run s = (.error e, s₂))
    ∨ ∃ p₁ p₂ s₁ s₂, (load (K.withRoom room) spec logLevel).run.run s = (.ok p₁, s₁)
      ∧ (load (K.withRoom room') spec logLevel).run.run s = (.ok p₂, s₂)
  := by
  have hload := answer_load_eq hV hroom hroom' hlevel spec s
  rcases h₁ : (load (K.withRoom room) spec logLevel).run.run s with ⟨e₁ | p₁, s₁⟩
  · rcases h₂ : (load (K.withRoom room') spec logLevel).run.run s with ⟨e₂ | p₂, s₂⟩
    · rw [h₁, h₂] at hload
      cases hload
      apply Or.inl ⟨e₁, s₁, s₂, rfl, rfl⟩
    · rw [h₁, h₂] at hload
      cases hload
  · rcases h₂ : (load (K.withRoom room') spec logLevel).run.run s with ⟨e₂ | p₂, s₂⟩
    · rw [h₁, h₂] at hload
      cases hload
    · apply Or.inr ⟨p₁, p₂, s₁, s₂, rfl, rfl⟩

theorem ProgramType.answer_checkExtension_eq (hV : V.Answers K) (hroom : 1 ≤ room)
    (hroom' : 1 ≤ room') (s : σ) :
  ((checkExtension (K.withRoom room)).run.run s).1
    = ((checkExtension (K.withRoom room')).run.run s).1
  := by
  simp only [checkExtension, Action.run_attempt_bind]
  obtain ⟨e, s₁, s₂, h₁, h₂⟩ | ⟨p₁, p₂, s₁, s₂, h₁, h₂⟩ :=
    Program.load_cases hV hroom hroom' (by decide : (0 : UInt32) < 1) extension.smallest s
  · rw [h₁, h₂]
    dsimp only
    split
    · rfl
    · rfl
  · rw [h₁, h₂]
    rfl

theorem ProgramType.answer_check_eq (hV : V.Answers K) (hroom : 1 ≤ room) (hroom' : 1 ≤ room')
    (t : ProgramType) (s : σ) :
  ((check (K.withRoom room) t).run.run s).1 = ((check (K.withRoom room') t).run.run s).1
  := by
  by_cases ht : t = .extension
  · subst ht
    apply answer_checkExtension_eq hV hroom hroom'
  · rw [check_withRoom K room ht, check_withRoom K room' ht]

theorem HelperCall.answer_tryLoad_eq (hV : V.Answers K) (hroom : 1 ≤ room) (hroom' : 1 ≤ room')
    (call : HelperCall) (s : σ) :
  ((tryLoad (K.withRoom room) call).run.run s).1 = ((tryLoad (K.withRoom room') call).run.run s).1
  := by
  simp only [tryLoad, Action.run_attempt_bind]
  obtain ⟨e, s₁, s₂, h₁, h₂⟩ | ⟨p₁, p₂, s₁, s₂, h₁, h₂⟩ :=
    Program.load_cases hV hroom hroom' (by decide : (0 : UInt32) < 1) call.spec s
  · rw [h₁, h₂]
    rfl
  · rw [h₁, h₂]
    rfl

/-- The verdict on the type is the same, and is followed by loads that are answered alike. -/
theorem HelperCall.answer_check_eq (hV : V.Answers K) (hroom : 1 ≤ room) (hroom' : 1 ≤ room')
    {call : HelperCall} (hcall : call.programType ≠ .extension) (s : Verdicts ProgramType × σ) :
  ((check (ProgramType.matrix (K.withRoom room)) (tryLoad (K.withRoom room) call) call).run.run s).1
    = ((check (ProgramType.matrix (K.withRoom room')) (tryLoad (K.withRoom room') call) call).run.run
        s).1
  := by
  rw [run_check, run_check, ProgramType.result_withRoom K room hcall,
    ProgramType.result_withRoom K room' hcall]
  rcases ((ProgramType.matrix K).result call.programType).run s with ⟨e | _, s'⟩
  · rfl
  · apply answer_tryLoad_eq hV hroom hroom'

/-- No verdict depends on the room for a log. -/
theorem Probes.answer_ask_eq (hV : V.Answers K) (hroom : 1 ≤ room) (hroom' : 1 ≤ room')
    (x : Feature) (h : Host σ) :
  (((ofKernel (K.withRoom room)).ask x).run h).1 = (((ofKernel (K.withRoom room')).ask x).run h).1
  := by
  cases x with
  | programType t =>
      have hcheck := ProgramType.answer_check_eq hV hroom hroom' t h.kernel
      simp only [ask, ofKernel, run_onPart, Host.programTypePart, Matrix.answer_result,
        ProgramType.probe?_matrix]
      cases ProgramType.declared.reverse.find? fun entry => entry.1 = t with
      | none => rfl
      | some entry => simp only [Option.map_some, Probe.run_run, hcheck]
  | insn feature => simp only [ask, ofKernel, InsnFeature.matrix_withRoom]
  | attachment feature => simp only [ask, ofKernel, AttachFeature.matrix_withRoom]
  | helperCall call =>
      by_cases hexcluded : HelperCall.isExcluded call.programType = true
      · simp only [ask, hexcluded, if_true]
      · have htype : call.programType ≠ .extension := by
          intro htype
          rw [htype] at hexcluded
          apply hexcluded rfl
        have hcheck := HelperCall.answer_check_eq hV hroom hroom' htype
          (h.features.programTypes, h.kernel)
        simp only [ask, hexcluded, Bool.false_eq_true, if_false, ofKernel, run_onPart,
          Host.helperCallPart, Cache.run_result, Cache.verdictPart, Verdicts.answer_ask,
          Cache.verdicts_including]
        cases h.features.helperCalls.made.get? call with
        | some p => simp only [Option.getD_some]
        | none => simp only [Option.getD_none, Probe.run_run, HelperCall.probe, hcheck]

/-- Loading with a log gives the final reply of the verifier with the whole log, if the program gets
as far as the verifier at all, and the room there is at first changes neither this nor the verdict
on a call of a helper or on a type of program. -/
theorem reply_independent_of_room (hV : V.Answers K) (hroom : 1 ≤ room) (hroom' : 1 ≤ room') :
  (∀ (spec : ProgramSpec) (logLevel : UInt32) (s : σ), 0 < logLevel →
    ((Program.load (K.withRoom room) spec logLevel).run.run s).1.map Program.programType
      = ((Program.request K spec logLevel).run.run s).1.bind fun load =>
          (V.reply load.unsized).map fun _ => spec.programType)
    ∧ (∀ (spec : ProgramSpec) (logLevel : UInt32) (s : σ), 0 < logLevel →
      ((Program.load (K.withRoom room) spec logLevel).run.run s).1.map Program.programType
        = ((Program.load (K.withRoom room') spec logLevel).run.run s).1.map Program.programType)
    ∧ (∀ (t : ProgramType) (helper : Helper) (h : Host σ),
      ((Host.haveHelper (K.withRoom room) t helper).run h).1
        = ((Host.haveHelper (K.withRoom room') t helper).run h).1)
    ∧ ∀ (t : ProgramType) (h : Host σ),
      ((Host.haveProgramType (K.withRoom room) t).run h).1
        = ((Host.haveProgramType (K.withRoom room') t).run h).1
  := by
  constructor
  · intro spec logLevel s hlevel
    apply Program.answer_load hV hlevel hroom
  constructor
  · intro spec logLevel s hlevel
    apply Program.answer_load_eq hV hroom hroom' hlevel
  constructor
  · intro t helper h
    apply Probes.answer_ask_eq hV hroom hroom'
  · intro t h
    apply Probes.answer_ask_eq hV hroom hroom'

/-- A verifier that goes on at length about every program, and in the end finds fault with most. -/
def wordyVerifier : Verifier where
  reply load :=
    match load.programType with
    | .socketFilter => .ok ()
    | .xdp => .error (.verifier (.os Errno.einval) ["invalid func unknown#23"])
    | _ => .error (.verifier (.os Errno.enospc) ["too many states"])
  logLength _ := 70000

/-- A kernel with that verifier. -/
def wordyKernel : Kernel (Memory.Machine Unit) :=
  { Memory.kernel {} {} with
    loadProgram := fun load =>
      if load.logLevel = 0 then pure { number := 3 }
      else if load.logSize ≤ 70000 then throw (.verifier (.os Errno.enospc) [])
      else Action.ofExcept ((wordyVerifier.reply load).map fun _ => { number := 3 }) }

theorem answers_wordyKernel :
  wordyVerifier.Answers wordyKernel
  := by
  constructor
  · intro load
    show 70000 < maxLogSize
    decide
  · intro load s hlevel (hroom : 70000 < load.logSize)
    have hlevel : load.logLevel ≠ 0 := (UInt32.ne_of_lt hlevel).symm
    have hroom : ¬ load.logSize ≤ 70000 := by omega
    simp only [wordyKernel, hlevel, hroom, if_false]
    show ((wordyVerifier.reply load).map _).map _ = wordyVerifier.reply load
    cases wordyVerifier.reply load with
    | error e => rfl
    | ok _ => rfl
  · intro load s hlevel (hroom : load.logSize ≤ 70000)
    have hlevel : load.logLevel ≠ 0 := (UInt32.ne_of_lt hlevel).symm
    simp only [wordyKernel, hlevel, hroom, if_false, if_true]
    apply Exists.intro []
    rfl

/-- With a single byte of room at first, a refusal that looks as if there were too little room is still
the last word, and the verdict on a helper is the one that ample room brings. -/
theorem reply_independent_of_room_wordy :
  let m : Memory.Machine Unit := ⟨{}, ()⟩
  wordyVerifier.Answers wordyKernel
    ∧ ((Program.load (wordyKernel.withRoom 1) (ProgramType.smallest .kprobe) 1).run.run m).1.map
        Program.programType
      = .error (.verifier (.os Errno.enospc) ["too many states"])
    ∧ ((Host.haveHelper (wordyKernel.withRoom 1) .xdp ⟨23⟩).run (.new m)).1
      = ((Host.haveHelper (wordyKernel.withRoom 100000) .xdp ⟨23⟩).run (.new m)).1
  := by
  intro m
  obtain ⟨hload, -, hhelper, -⟩ :=
    reply_independent_of_room answers_wordyKernel (by decide : 1 ≤ 1) (by decide : 1 ≤ 100000)
  constructor
  · apply answers_wordyKernel
  constructor
  · rw [hload (ProgramType.smallest .kprobe) 1 m (by decide)]
    cbv
  · apply hhelper

end Verdicts

end Bpf
