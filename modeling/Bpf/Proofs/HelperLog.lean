import Bpf.Linux.Kernel
import Bpf.Proofs.DecodedText
import Bpf.Proofs.LogRoom
import Bpf.Proofs.ProbedOnce

/-!
# Verdicts on helpers from the log

When the system refuses the program that calls a helper, the verdict on the helper is read from the
error number and from the last line of the log with something to see.  `Refuses` says how the system
comes to its last answer, over as many attempts as it wants more room for its log; what is in the log
before that line, be it text or not, makes no difference.
-/

namespace Bpf

variable {σ : Type}

/-! ### What the verifier says -/

theorem Helper.toList_tag (helper : Helper) :
  helper.tag.toList = '#' :: Nat.toDigits 10 helper.id.toNat
  := by
  have hdigits : toString helper.id = String.ofList (Nat.toDigits 10 helper.id.toNat) :=
    Nat.toString_eq_ofList_toDigits
  rw [tag, hdigits]
  simp
  rfl

theorem Helper.isPhrase_tag (helper : Helper) :
  Text.IsPhrase helper.tag
  := by
  have hchar (c : Char) (hc : c ∈ helper.tag.toList) : 0x23 ≤ c.toNat ∧ c.toNat < 0x80 := by
    rw [toList_tag] at hc
    obtain rfl | hc := List.mem_cons.1 hc
    · decide
    · have hdigit := Nat.isDigit_of_mem_toDigits (by decide) (by decide) hc
      have hdigit : 48 ≤ c.toNat ∧ c.toNat ≤ 57 := by
        simpa [Char.isDigit, UInt32.le_iff_toNat_le] using hdigit
      omega
  constructor
  · intro c hc
    apply (hchar c hc).2
  · intro hreturn
    apply absurd (hchar '\r' hreturn).1
    decide
  · rw [Text.isBlankText, toList_tag]
    rfl

theorem isPhrase_invalidFunc :
  Text.IsPhrase "invalid func"
  := by
  have htext : "invalid func".toList
      = ['i', 'n', 'v', 'a', 'l', 'i', 'd', ' ', 'f', 'u', 'n', 'c'] := rfl
  constructor
  · rw [htext]
    simp
  · rw [htext]
    decide
  · rw [Text.isBlankText, htext]
    decide

/-! ### Refusals -/

namespace Linux

/-- The system refuses a program: `errno` and `log` are its last answer, for which there is `room`.
It is asked again while it wants more room. -/
inductive Refuses (S : System σ) : ProgramLoad → σ → Errno → Nat → List UInt8 → Prop where
  | last {load : ProgramLoad} {s s' : σ} {reply : Reply} {errno : Errno}
      (hcall : (S.bpf (.progLoad (progLoadAttr load))).run s = (reply, s'))
      (hresult : reply.result = .error errno) (hlast : errno ≠ Errno.enospc) :
    Refuses S load s errno load.logSize reply.log
  | again {load : ProgramLoad} {s t : σ} {reply : Reply} {errno : Errno} {room : Nat}
      {log : List UInt8} (hcall : (S.bpf (.progLoad (progLoadAttr load))).run s = (reply, t))
      (hresult : reply.result = .error Errno.enospc)
      (hwants : wantsRoom (loadFailure load Errno.enospc reply.log) load.logSize = true)
      (hrest : Refuses S { load with logSize := grownSize load.logSize } t errno room log) :
    Refuses S load s errno room log

variable {S : System σ} {load : ProgramLoad} {s : σ} {errno : Errno} {room : Nat} {log : List UInt8}

theorem run_loadProgram_of_error {s' : σ} {reply : Reply}
    (hcall : (S.bpf (.progLoad (progLoadAttr load))).run s = (reply, s'))
    (hresult : reply.result = .error errno) (logSize : Nat) :
  ((kernel S logSize).loadProgram load).run.run s = (.error (loadFailure load errno reply.log), s')
  := by
  show (loadProgram S load).run.run s = _
  rw [loadProgram, Action.run_ofStep_bind, hcall, hresult]
  rfl

theorem wantsRoom_loadFailure (h : errno ≠ Errno.enospc) (load : ProgramLoad) (log : List UInt8)
    (size : Nat) :
  wantsRoom (loadFailure load errno log) size = false
  := by
  rw [loadFailure]
  split
  · rfl
  · simp [wantsRoom, IoError.errno, h]

/-- A program that the system refuses fails to load with its last answer. -/
theorem Refuses.answer_loadGrowing (h : Refuses S load s errno room log) (logSize : Nat) :
  ((loadGrowing (kernel S logSize) load).run.run s).1
    = .error (loadFailure { load with logSize := room } errno log)
  := by
  induction h with
  | last hcall hresult hlast =>
      rw [run_loadGrowing, run_loadProgram_of_error hcall hresult]
      simp only [wantsRoom_loadFailure hlast, Bool.false_eq_true, if_false]
  | again hcall hresult hwants hrest ih =>
      rw [run_loadGrowing, run_loadProgram_of_error hcall hresult]
      simp only [hwants, if_true]
      apply ih

/-- With something to see in its log, a failure is the verdict of the verifier. -/
theorem loadFailure_of_visible (hlog : logLines (log.take (logRoom load)) ≠ []) (errno : Errno) :
  loadFailure load errno log = .verifier (.os errno) (logLines (log.take (logRoom load)))
  := by
  rw [loadFailure]
  split
  next hnil => apply absurd hnil hlog
  next => rfl

end Linux

/-! ### Calls -/

namespace HelperCall

/-- The request for the program that calls the helper, with `room` for the log. -/
def load (call : HelperCall) (room : Nat) : ProgramLoad where
  programType := call.spec.programType
  attachType := call.spec.attachType
  btfId := none
  insns := call.spec.insns
  license := ⟨"GPL", by decide⟩
  name := call.spec.name
  flags := call.spec.flags
  logLevel := 1
  logSize := room

theorem run_request (K : Kernel σ) (call : HelperCall) (s : σ) :
  (Program.request K call.spec 1).run.run s = (.ok (call.load (K.logSize s)), s)
  := by
  have hspec : call.spec.license = "GPL" ∧ call.spec.attachTo = none := by
    unfold spec minimalSpec
    dsimp only
    split
    all_goals exact ⟨rfl, rfl⟩
  have hlicense : NulFree.ofString? "GPL" = some ⟨"GPL", by decide⟩ := rfl
  rw [Program.request, hspec.1, hlicense, hspec.2]
  rfl

/-- A refusal with something to see in its log is classified with the lines of the log. -/
theorem answer_tryLoad {S : Linux.System σ} {logSize : Nat} {call : HelperCall} {s : σ}
    {errno : Errno} {room : Nat} {log : List UInt8}
    (h : Linux.Refuses S (call.load logSize) s errno room log)
    (hlog : Linux.logLines (log.take room) ≠ []) :
  ((tryLoad (Linux.kernel S logSize) call).run.run s).1
    = classifyLoad call.helper
        (.error (.verifier (.os errno) (Linux.logLines (log.take room))))
  := by
  rcases hrun : (loadGrowing (Linux.kernel S logSize) (call.load logSize)).run.run s
    with ⟨answer, s'⟩
  have hanswer := h.answer_loadGrowing logSize
  have hroom : Linux.logRoom { call.load logSize with logSize := room } = room := rfl
  rw [hrun, Linux.loadFailure_of_visible, hroom] at hanswer
  · have hload : (Program.load (Linux.kernel S logSize) call.spec 1).run.run s
        = (.error (.verifier (.os errno) (Linux.logLines (log.take room))), s') := by
      rw [Program.load, Action.run_bind_of_ok (run_request _ call s)]
      apply Action.run_bind_of_error
      rw [← hanswer]
      apply hrun
    rw [tryLoad, Action.run_attempt_bind, hload]
    rfl
  · apply hlog

theorem classifyLoad_invalidFunc {helper : Helper} {log : List String}
    (h : logTellsAll log ["invalid func", helper.tag] = true) :
  classifyLoad helper (.error (.verifier (.os Errno.einval) log)) = .error (.notSupported none)
  := by
  have hdenied : (IoError.os Errno.einval).errno ≠ some Errno.eacces := by decide
  have hinvalid : (IoError.os Errno.einval).errno = some Errno.einval := rfl
  rw [classifyLoad, if_neg hdenied, if_pos hinvalid]
  apply if_pos h

end HelperCall

/-- The verdict on a call from programs of a supported type is that of the load. -/
theorem Host.answer_haveHelper {K : Kernel σ} {h h' : Host σ} {executed : List Feature}
    (hS : Sound K h.features executed) {t : ProgramType} {helper : Helper}
    (hprobed : ¬ HelperCall.isExcluded t = true)
    (hunasked : h.features.outcome (.helperCall ⟨t, helper⟩) = .notRun)
    (hsupported : (haveProgramType K t).run h = (.ok (), h')) :
  ((haveHelper K t helper).run h).1
    = Probe.judge s!"{helper.text} for {Code.text t} program" none
        ((HelperCall.tryLoad K ⟨t, helper⟩).run.run h'.kernel).1
  := by
  have hverdict := (Outcome.ofVerdict_eq_notRun_iff _).1 hunasked
  rcases hrun : ((ProgramType.matrix K).result t).run (h.features.programTypes, h.kernel)
    with ⟨answer, types, s⟩
  have hhost : (haveProgramType K t).run h
      = (answer, ⟨{ h.features with programTypes := types }, s⟩) := by
    show (onPart programTypePart ((ProgramType.matrix K).result t)).run h = _
    rw [run_onPart, programTypePart, hrun]
  rw [hhost] at hsupported
  cases hsupported
  rw [haveHelper, Probes.run_ask_helperCall hprobed hverdict hS.eq_helperCall, Probe.run_run]
  show Probe.judge _ _ ((HelperCall.check (ProgramType.matrix K) _ _).run.run _).1 = _
  rw [HelperCall.run_check, hrun]
  rfl

/-! ### Verdicts -/

/-- A helper that no query has been about, for a type of programs that is supported: if the system
refuses the call as invalid, and if the last line of its log with something to see speaks of an
invalid function and of the helper, then the helper is not supported; if it refuses the call for its
arguments, with something to see in the log, then the helper is supported.  It does not matter how
much room there is for the log at first, what is in the log before that line, nor what is behind the
NUL at its end. -/
theorem helper_verdict_read_from_log (S : Linux.System σ) (logSize : Nat) (s : σ)
    (before : List (Operation σ)) {t : ProgramType} {helper : Helper}
    (hprobed : ¬ HelperCall.isExcluded t = true) {h h' : Host σ}
    (hbefore : (((Probes.ofKernel (Linux.kernel S logSize)).performAll before).run (.new s)).2 = h)
    (hunasked : h.features.outcome (.helperCall ⟨t, helper⟩) = .notRun)
    (hsupported : (Host.haveProgramType (Linux.kernel S logSize) t).run h = (.ok (), h')) :
  (∀ {room : Nat} {text earlier line rest : List UInt8} {blanks : List (List UInt8)},
    Linux.Refuses S (HelperCall.load ⟨t, helper⟩ logSize) h'.kernel Errno.einval room
        (text ++ 0 :: rest) →
      text = earlier ++ line ++ blanks.flatMap (10 :: ·) →
      0 ∉ text →
      text.length ≤ room →
      10 ∉ line →
      Text.encode "invalid func" <:+: line →
      Text.encode helper.tag <:+: line →
      (∀ blank ∈ blanks, Text.isBlankText (Text.decodeLossy blank) = true) →
      ((Host.haveHelper (Linux.kernel S logSize) t helper).run h).1
        = .error (.notSupported s!"{helper.text} for {Code.text t} program" none none))
    ∧ ∀ {room : Nat} {log : List UInt8},
      Linux.Refuses S (HelperCall.load ⟨t, helper⟩ logSize) h'.kernel Errno.eacces room log →
      Text.isBlankText (Text.decodeLossy (Linux.beforeNul (log.take room))) = false →
      ((Host.haveHelper (Linux.kernel S logSize) t helper).run h).1 = .ok ()
  := by
  obtain ⟨log, -, hS, -⟩ := Probes.follows_performAll before (.new s) {}
    (Sound.unknown (Linux.kernel S logSize))
  rw [hbefore] at hS
  rw [Host.answer_haveHelper hS hprobed hunasked hsupported]
  constructor
  · intro room text earlier line rest blanks hrefuses htext hnul hroom hline hfunc htag hblanks
    have hbuffer := Linux.beforeNul_take hnul hroom rest
    rw [htext] at hbuffer
    have htells : logTellsAll (Linux.logLines ((text ++ 0 :: rest).take room))
        ["invalid func", helper.tag] = true := by
      rw [htext]
      apply logTellsAll_logLines hbuffer hline hblanks
      · apply List.cons_ne_nil
      · intro phrase hphrase
        simp only [List.mem_cons, List.not_mem_nil, or_false] at hphrase
        obtain rfl | rfl := hphrase
        · exact ⟨isPhrase_invalidFunc, hfunc⟩
        · exact ⟨helper.isPhrase_tag, htag⟩
    rw [HelperCall.answer_tryLoad hrefuses, HelperCall.classifyLoad_invalidFunc htells]
    · rfl
    · intro hnil
      rw [hnil] at htells
      cases htells
  · intro room log hrefuses hvisible
    rw [HelperCall.answer_tryLoad hrefuses]
    · rfl
    · rw [Ne, Linux.logLines_eq_nil_iff, hvisible]
      decide

/-- A line on the function with number 23. -/
def badCallLine : List UInt8 := "1: invalid func unknown#23\r".toList.map Text.asciiByte

/-- Bytes that encode no text, that line, and blank lines. -/
def badCallText : List UInt8 :=
  [0xff, 10, 0xe2, 0x82] ++ badCallLine ++ [[32, 13], []].flatMap (10 :: ·)

/-- A system that wants room for its log, and then refuses calls from programs on packets as invalid
and all others for their arguments. -/
def outspokenSystem : Linux.System Unit where
  bpf
    | .progLoad load =>
      pure <|
        if ! load.hasLog then { result := .ok 3 }
        else if load.logSize < 64 then { result := .error Errno.enospc, log := [48] }
        else if load.programType = Code.raw ProgramType.xdp then
          { result := .error Errno.einval, log := badCallText ++ [0, 7, 10] }
        else { result := .error Errno.eacces, log := [82, 49, 10, 0xff] }
    | _ => pure { result := .error Errno.einval }
  readLink _ := pure (.error (.os Errno.enoent))
  unlink _ := pure (.error Errno.enoent)
  btf _ := pure .absent
  interfaceIndex _ := pure 0

theorem supports_outspokenSystem {t : ProgramType} (ht : t = .xdp ∨ t = .kprobe) :
  ((Host.haveProgramType (Linux.kernel outspokenSystem 16) t).run (.new ())).1 = .ok ()
  := by
  have hcheck : (ProgramType.check (Linux.kernel outspokenSystem 16) t).run.run ()
      = (.ok (), ()) := by
    obtain rfl | rfl := ht
    · cbv
    · cbv
  obtain ⟨entry, hdeclared⟩ : ∃ entry, (ProgramType.declared.reverse.find? fun entry => entry.1 = t)
      = some entry := by
    obtain rfl | rfl := ht
    · exact ⟨_, rfl⟩
    · exact ⟨_, rfl⟩
  simp only [Host.haveProgramType, Probes.ask, Probes.ofKernel, run_onPart, Host.programTypePart,
    Matrix.answer_result, ProgramType.probe?_matrix, hdeclared, Option.map_some, Probe.run_run]
  rw [Host.new, hcheck]
  rfl

theorem refuses_outspokenSystem {call : HelperCall} {s' : Unit} {reply : Linux.Reply} {errno : Errno}
    (hcall : (outspokenSystem.bpf (.progLoad (Linux.progLoadAttr (call.load 64)))).run ()
      = (reply, s'))
    (hresult : reply.result = .error errno) (hlast : errno ≠ Errno.enospc) :
  Linux.Refuses outspokenSystem (call.load 16) () errno 64 reply.log
  := by
  have hvisible : Linux.logLines ([48].take (Linux.logRoom (call.load 16))) ≠ [] := by
    show Linux.logLines [48] ≠ []
    cbv
    apply List.cons_ne_nil
  apply Linux.Refuses.again (t := ())
  · rfl
  · rfl
  · show wantsRoom (Linux.loadFailure _ _ [48]) _ = true
    rw [Linux.loadFailure_of_visible hvisible]
    rfl
  · apply Linux.Refuses.last hcall hresult hlast

/-- Two bytes that begin a character come before the line, and a carriage return after it. -/
theorem helper_verdict_read_from_log_outspoken :
  let K := Linux.kernel outspokenSystem 16
  ((Host.haveHelper K .xdp ⟨23⟩).run (.new ())).1
      = .error (.notSupported "bpf_redirect for xdp program" none none)
    ∧ ((Host.haveHelper K .kprobe ⟨23⟩).run (.new ())).1 = .ok ()
  := by
  intro K
  have hunasked (call : HelperCall) :
    (Features.unknown : Features Unit).outcome (.helperCall call) = .notRun := rfl
  constructor
  · obtain ⟨hinvalid, -⟩ := helper_verdict_read_from_log outspokenSystem 16 () [] (by decide) rfl
      (hunasked ⟨.xdp, ⟨23⟩⟩) (Prod.ext (supports_outspokenSystem (Or.inl rfl)) rfl)
    have hrefuses : Linux.Refuses outspokenSystem (HelperCall.load ⟨.xdp, ⟨23⟩⟩ 16) () Errno.einval 64
        (badCallText ++ 0 :: [7, 10]) := refuses_outspokenSystem rfl rfl (by decide)
    have htext : badCallText = [0xff, 10, 0xe2, 0x82] ++ badCallLine
      ++ [[32, 13], []].flatMap (10 :: ·) := rfl
    apply hinvalid hrefuses htext
    · decide
    · decide
    · decide
    · rw [Text.encode_ascii isPhrase_invalidFunc.ascii]
      exact ⟨[49, 58, 32], _, rfl⟩
    · rw [Text.encode_ascii (Helper.isPhrase_tag _).ascii, Helper.toList_tag]
      apply Exists.intro (badCallLine.take 23)
      apply Exists.intro [13]
      rfl
    · intro blank hblank
      simp only [List.mem_cons, List.not_mem_nil, or_false] at hblank
      obtain rfl | rfl := hblank
      · cbv
      · cbv
  · obtain ⟨-, hdenied⟩ := helper_verdict_read_from_log outspokenSystem 16 () [] (by decide) rfl
      (hunasked ⟨.kprobe, ⟨23⟩⟩) (Prod.ext (supports_outspokenSystem (Or.inr rfl)) rfl)
    apply hdenied
    · apply refuses_outspokenSystem rfl rfl
      decide
    · cbv

end Bpf
