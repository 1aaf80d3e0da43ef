import Bpf.Proofs.Handles
import Bpf.Proofs.HelperLog
import Bpf.Proofs.LoadRequests
import Bpf.Proofs.Probing

/-!
# Programs that call helpers

A program that calls a helper is loaded for one reason only, which is that there is no verdict on the
call yet, and programs of its type are known to be supported.  So of all that has been heard of a
kernel, the loads of that program are those of a single probe, and the verdict is what their last
reply says.  `Account` relates the verdicts of a host to what has been heard of its kernel; it is kept
by all that can be done with a host.
-/

namespace Bpf

variable {σ α : Type}

/-! ### Checks that call nothing -/

/-- The program begins with the call of a helper. -/
def BeginsWithCall (insns : List Insn) : Prop := insns.head?.map Insn.code = some Insn.callCode

instance (insns : List Insn) : Decidable (BeginsWithCall insns) :=
  inferInstanceAs (Decidable (_ = _))

/-- The request is not for a program that begins with the call of a helper. -/
def Request.LoadsNoCall : Request → Prop
  | .loadProgram load => ¬ BeginsWithCall load.insns
  | _ => True

section Checks

variable (K : Kernel σ)

theorem asks_loadGrowing {load : ProgramLoad} (h : ¬ BeginsWithCall load.insns) :
  (loadGrowing K load).Asks K Request.LoadsNoCall
  := by
  induction load using loadGrowing.induct with
  | case1 load ih =>
      rw [loadGrowing]
      apply Action.Asks.bind
      · apply Action.Asks.attempt
        apply Action.asks_request (.loadProgram load) h
        intro s
        rfl
      · intro answer
        cases answer with
        | ok fd => apply Action.asks_pure
        | error e =>
            by_cases hwants : wantsRoom e load.logSize = true
            · simp only [hwants, if_true]
              apply ih e hwants h
            · simp only [hwants, Bool.false_eq_true, if_false]
              apply Action.asks_throw

theorem asks_targetId (function : Option String) :
  (targetId K function).Asks K Request.LoadsNoCall
  := by
  cases function with
  | none => apply Action.asks_pure
  | some function =>
      apply Action.Asks.map
      apply Action.asks_request (.btfId function) trivial
      intro s
      rfl

theorem Program.asks_load {spec : ProgramSpec} (h : ¬ BeginsWithCall spec.insns) (logLevel : UInt32) :
  (load K spec logLevel).Asks K Request.LoadsNoCall
  := by
  rw [load, request]
  cases NulFree.ofString? spec.license with
  | none => apply Action.asks_throw
  | some license =>
      simp only [bind_assoc, pure_bind]
      apply Action.Asks.bind
      · apply asks_targetId
      · intro btfId
        apply Action.Asks.bind
        · intro s
          apply Relation.ReflTransGen.refl
        · intro room
          apply Action.Asks.bind
          · apply asks_loadGrowing
            apply h
          · intro fd
            apply Action.asks_pure

theorem asks_checkProgram {spec : ProgramSpec} (h : ¬ BeginsWithCall spec.insns) :
  (checkProgram K spec).Asks K Request.LoadsNoCall
  := by
  apply Action.Asks.bind
  · apply Action.Asks.attempt
    apply Program.asks_load K h
  · intro answer
    cases answer with
    | ok program => apply Action.asks_pure
    | error e => apply Action.asks_throw

theorem insns_minimalSpec (t : ProgramType) (insns : List Insn) :
  (minimalSpec t insns).insns = insns ∧ (minimalSpec t insns).programType = t
  := by
  unfold minimalSpec
  dsimp only
  split
  all_goals exact ⟨rfl, rfl⟩

theorem ProgramType.not_beginsWithCall_smallest (t : ProgramType) :
  ¬ BeginsWithCall t.smallest.insns
  := by
  rw [smallest, (insns_minimalSpec t returnZero).1]
  intro h
  cases h

theorem ProgramType.asks_check (t : ProgramType) :
  (check K t).Asks K Request.LoadsNoCall
  := by
  have hsmallest := t.not_beginsWithCall_smallest
  cases t with
  | structOps =>
      apply Action.Asks.bind
      · apply Action.Asks.attempt
        apply asks_checkProgram K hsmallest
      · intro answer
        cases answer with
        | ok _ => apply Action.asks_pure
        | error e =>
            dsimp only
            split
            · apply Action.asks_pure
            · apply Action.asks_throw
  | extension =>
      apply Action.Asks.bind
      · apply Action.Asks.attempt
        apply Program.asks_load K hsmallest
      · intro answer
        cases answer with
        | ok program => apply Action.asks_pure
        | error e =>
            dsimp only
            split
            · apply Action.asks_pure
            · apply Action.asks_throw
  | _ =>
      apply asks_checkProgram
      apply hsmallest

theorem InsnFeature.not_beginsWithCall_insns (feature : InsnFeature) :
  ¬ BeginsWithCall feature.insns
  := by
  intro h
  cases feature with
  | _ => cases h

namespace AttachFeature

theorem asks_loadTrivial (t : ProgramType) (attachType : Option AttachType) :
  (loadTrivial K t attachType).Asks K Request.LoadsNoCall
  := by
  apply Action.Asks.bind
  · apply Action.Asks.attempt
    apply Program.asks_load
    intro h
    cases h
  · intro answer
    cases answer with
    | ok program => apply Action.asks_ofExcept
    | error e => apply Action.asks_throw

theorem asks_checkProgAttach :
  (checkProgAttach K).Asks K Request.LoadsNoCall
  := by
  apply Action.Asks.bind
  · apply asks_loadTrivial
  · intro program
    apply Action.asks_pure

theorem asks_tryLink (create : LinkCreate) :
  (tryLink K create).Asks K Request.LoadsNoCall
  := by
  apply Action.Asks.bind
  · apply Action.Asks.attempt
    apply Action.asks_request (.createLink create) trivial
    intro s
    rfl
  · intro answer
    apply Action.asks_pure

/-- A link is asked for, and what comes of it is judged without asking again. -/
theorem asks_tryLink_bind (create : LinkCreate) {judge : Except Error Unit → Action σ Unit}
    (hjudge : ∀ answer, (judge answer).Asks K Request.LoadsNoCall) :
  (tryLink K create >>= judge).Asks K Request.LoadsNoCall
  := by
  apply Action.Asks.bind
  · apply asks_tryLink
  · apply hjudge

theorem asks_checkChain (attachType : AttachType) :
  (checkChain K attachType).Asks K Request.LoadsNoCall
  := by
  apply Action.Asks.bind
  · apply asks_loadTrivial
  · intro program
    apply asks_tryLink_bind
    intro answer
    cases answer with
    | ok _ => apply Action.asks_throw
    | error e => apply Action.asks_ofExcept

theorem asks_check (feature : AttachFeature) :
  (check K feature).Asks K Request.LoadsNoCall
  := by
  cases feature with
  | progAttach => apply asks_checkProgAttach
  | progAttachReplace =>
      apply Action.Asks.bind
      · apply asks_checkProgAttach
      · intro _
        apply Action.Asks.bind
        · apply asks_loadTrivial
        · intro program
          apply Action.Asks.bind
          · apply Action.Asks.attempt
            apply Action.asks_request (.attachProgram _) trivial
            intro s
            rfl
          · intro answer
            apply Action.asks_ofExcept
  | bpfLink =>
      apply asks_tryLink_bind
      intro answer
      apply Action.asks_ofExcept
  | progQuery =>
      apply Action.Asks.bind
      · apply Action.Asks.attempt
        apply Action.asks_request (.queryPrograms nowhere .cgroupInetIngress) trivial
        intro s
        rfl
      · intro answer
        cases answer with
        | ok _ => apply Action.asks_throw
        | error e =>
            dsimp only
            split
            · apply Action.asks_pure
            · apply Action.asks_throw
  | tcx => apply asks_checkChain
  | netkit => apply asks_checkChain
  | kprobeMulti =>
      apply Action.Asks.bind
      · apply asks_loadTrivial
      · intro program
        apply asks_tryLink_bind
        intro answer
        apply Action.asks_ofExcept
  | uprobeMulti =>
      apply Action.Asks.bind
      · apply asks_loadTrivial
      · intro program
        apply asks_tryLink_bind
        intro answer
        apply Action.asks_ofExcept

end AttachFeature

end Checks

/-! ### Programs that try a call -/

/-- The attempt is for the program that calls the helper. -/
def Attempt.Tries (attempt : Attempt) (call : HelperCall) : Prop :=
  attempt.request.programType = call.programType ∧ attempt.request.insns = call.spec.insns

instance (attempt : Attempt) (call : HelperCall) : Decidable (attempt.Tries call) :=
  inferInstanceAs (Decidable (_ ∧ _))

/-- The attempts for the program that calls the helper. -/
def triesOf (call : HelperCall) (heard : List Attempt) : List Attempt :=
  heard.filter fun attempt => attempt.Tries call

section Tries

variable {call call' : HelperCall}

theorem triesOf_append (call : HelperCall) (first second : List Attempt) :
  triesOf call (first ++ second) = triesOf call first ++ triesOf call second
  := by
  apply List.filter_append

theorem triesOf_eq_nil {heard : List Attempt} (h : ∀ attempt ∈ heard, ¬ attempt.Tries call) :
  triesOf call heard = []
  := by
  rw [triesOf, List.filter_eq_nil_iff]
  intro attempt hattempt
  rw [decide_eq_true_eq]
  apply h attempt hattempt

theorem triesOf_eq_self {heard : List Attempt} (h : ∀ attempt ∈ heard, attempt.Tries call) :
  triesOf call heard = heard
  := by
  rw [triesOf, List.filter_eq_self]
  intro attempt hattempt
  rw [decide_eq_true_eq]
  apply h attempt hattempt

theorem HelperCall.insns_spec (call : HelperCall) :
  call.spec.insns = Insn.call call.helper :: (Insn.loadImm64 .result 0 ++ [Insn.exit])
  := (insns_minimalSpec _ _).1

/-- Calls from the same type of programs differ in the program that tries them. -/
theorem HelperCall.eq_of_insns_eq (htype : call.programType = call'.programType)
    (hinsns : call.spec.insns = call'.spec.insns) :
  call = call'
  := by
  rw [insns_spec, insns_spec, List.cons.injEq] at hinsns
  have hid : call.helper.id.toInt32 = call'.helper.id.toInt32 := congrArg Insn.imm hinsns.1
  have hid := congrArg Int32.toUInt32 hid
  rw [UInt32.toUInt32_toInt32, UInt32.toUInt32_toInt32] at hid
  obtain ⟨t, ⟨id⟩⟩ := call
  obtain ⟨t', ⟨id'⟩⟩ := call'
  cases htype
  cases hid
  rfl

/-- A program that does not begin with a call tries none. -/
theorem Attempt.not_tries {attempt : Attempt} (h : ¬ BeginsWithCall attempt.request.insns)
    (call : HelperCall) :
  ¬ attempt.Tries call
  := by
  rintro ⟨-, hinsns⟩
  apply h
  rw [hinsns, HelperCall.insns_spec]
  rfl

theorem Rounds.tries_iff {room : Nat} {attempts : List Attempt} {reply : Except Error Descriptor}
    (h : Rounds (call.load room) attempts reply) {attempt : Attempt} (hattempt : attempt ∈ attempts) :
  attempt.Tries call' ↔ call = call'
  := by
  have hrequest := List.mem_map_of_mem (f := Attempt.request) hattempt
  rw [h.requests_eq] at hrequest
  obtain ⟨i, -, hrequest⟩ := List.mem_map.mp hrequest
  have htype : attempt.request.programType = call.programType := by
    rw [← hrequest]
    apply (insns_minimalSpec _ _).2
  have hinsns : attempt.request.insns = call.spec.insns := by
    rw [← hrequest]
    rfl
  constructor
  · rintro ⟨htype', hinsns'⟩
    apply HelperCall.eq_of_insns_eq
    · rw [← htype, htype']
    · rw [← hinsns, hinsns']
  · rintro rfl
    apply And.intro htype hinsns

/-- All attempts of a load of the program try the call. -/
theorem Rounds.triesOf_eq {room : Nat} {attempts : List Attempt} {reply : Except Error Descriptor}
    (h : Rounds (call.load room) attempts reply) :
  triesOf call attempts = attempts
  := by
  apply triesOf_eq_self
  intro attempt hattempt
  apply (h.tries_iff hattempt).mpr rfl

/-- None of them tries another call. -/
theorem Rounds.triesOf_other {room : Nat} {attempts : List Attempt}
    {reply : Except Error Descriptor} (h : Rounds (call.load room) attempts reply)
    (hother : call ≠ call') :
  triesOf call' attempts = []
  := by
  apply triesOf_eq_nil
  intro attempt hattempt htries
  apply hother
  apply (h.tries_iff hattempt).mp htries

end Tries

/-! ### What is heard of queries -/

section Heard

variable (K : Kernel σ) (call : HelperCall)

theorem triesOf_of_asks {K : Kernel σ} {x : Action (σ × List Attempt) α}
    (hx : x.Asks K.loadsHeard Request.LoadsNoCall) (s : σ × List Attempt) :
  triesOf call (x.run.run s).2.2 = triesOf call s.2
  := by
  apply Kernel.Leads.keeps (fun s => triesOf call s.2) _ (hx s)
  intro s request hkind
  cases request with
  | loadProgram load =>
      have hnil : triesOf call [⟨load, ((K.loadProgram load).run.run s.1).1⟩] = [] := by
        apply triesOf_eq_nil
        intro attempt hattempt
        obtain rfl := List.mem_singleton.mp hattempt
        apply Attempt.not_tries
        apply hkind
      show triesOf call (s.2 ++ [⟨load, ((K.loadProgram load).run.run s.1).1⟩]) = triesOf call s.2
      rw [triesOf_append, hnil, List.append_nil]
  | _ => rfl

/-- A query to a matrix tries no call if the checks of its probes do not. -/
theorem Matrix.triesOf_result {κ : Type} [DecidableEq κ] {m : Matrix κ (σ × List Attempt)}
    (hm : ∀ key p, m.probe? key = some p → p.check.Asks K.loadsHeard Request.LoadsNoCall) (key : κ)
    (verdicts : Verdicts κ) (s : σ × List Attempt) :
  triesOf call ((m.result key).run (verdicts, s)).2.2.2 = triesOf call s.2
  := by
  cases hanswer : m.answer? verdicts key with
  | some v => rw [run_result_of_answer? hanswer]
  | none =>
      obtain ⟨p, hp, -, hrun⟩ := run_result_of_no_answer hanswer
      rw [hrun]
      apply triesOf_of_asks call (hm key p hp)

theorem triesOf_programType (t : ProgramType) (verdicts : Verdicts ProgramType)
    (s : σ × List Attempt) :
  triesOf call (((ProgramType.matrix K.loadsHeard).result t).run (verdicts, s)).2.2.2
    = triesOf call s.2
  := by
  apply Matrix.triesOf_result
  intro key p hp
  rw [ProgramType.probe?_matrix] at hp
  obtain ⟨entry, -, rfl⟩ := Option.map_eq_some_iff.mp hp
  apply ProgramType.asks_check

theorem triesOf_insn (feature : InsnFeature) (verdicts : Verdicts InsnFeature)
    (s : σ × List Attempt) :
  triesOf call (((InsnFeature.matrix K.loadsHeard).result feature).run (verdicts, s)).2.2.2
    = triesOf call s.2
  := by
  apply Matrix.triesOf_result
  intro key p hp
  obtain ⟨entry, hentry, -, rfl⟩ := Matrix.exists_entry_of_probe? hp
  obtain ⟨feature, -, rfl⟩ := List.mem_map.mp hentry
  apply asks_checkProgram
  apply InsnFeature.not_beginsWithCall_insns

theorem triesOf_attachment (feature : AttachFeature) (verdicts : Verdicts AttachFeature)
    (s : σ × List Attempt) :
  triesOf call (((AttachFeature.matrix K.loadsHeard).result feature).run (verdicts, s)).2.2.2
    = triesOf call s.2
  := by
  apply Matrix.triesOf_result
  intro key p hp
  obtain ⟨entry, hentry, -, rfl⟩ := Matrix.exists_entry_of_probe? hp
  obtain ⟨feature, -, rfl⟩ := List.mem_map.mp hentry
  apply AttachFeature.asks_check

end Heard

/-! ### Probes for calls -/

namespace HelperCall

/-- The verdict on a call, if that is the last reply to the load of the program that tries it. -/
def verdictOf (call : HelperCall) (reply : Except Error Descriptor) : Verdict :=
  Probe.judge s!"{call.helper.text} for {Code.text call.programType} program" none
    (classifyLoad call.helper (reply.map fun _ => ()))

variable (K : Kernel σ) (call : HelperCall)

theorem rounds_tryLoad (s : σ) (heard : List Attempt) :
  ∃ attempts reply s', Rounds (call.load (K.logSize s)) attempts reply
    ∧ (tryLoad K.loadsHeard call).run.run (s, heard)
      = (classifyLoad call.helper (reply.map fun _ => ()), s', heard ++ attempts)
  := by
  obtain ⟨attempts, reply, hrounds, hanswer, hrun⟩ :=
    Program.rounds_load (run_request K call s) (run_request K.loadsHeard call (s, heard))
  use attempts, reply, ((Program.load K call.spec 1).run.run s).2, hrounds
  rw [tryLoad, Action.run_attempt_bind, hrun, hanswer]
  cases reply with
  | ok fd => rfl
  | error e => rfl

variable {K call} {verdicts verdicts' : Verdicts ProgramType} {s s' : σ} {heard heard' : List Attempt}

/-- If the type is not supported, the verdict on the type is the verdict on the call. -/
theorem run_probe_of_error {e : FeatureError}
    (h : ((ProgramType.matrix K.loadsHeard).result call.programType).run (verdicts, s, heard)
      = (.error e, verdicts', s', heard')) :
  ((Probes.ofKernel K.loadsHeard).helperCall call).run.run (verdicts, s, heard)
    = (.error e, verdicts', s', heard')
  := by
  have hcheck : ((Probes.ofKernel K.loadsHeard).helperCall call).check
      = check (ProgramType.matrix K.loadsHeard) (tryLoad K.loadsHeard call) call := rfl
  rw [Probe.run_run, hcheck, run_check, h]
  rfl

/-- If the type is supported, the call is tried, and the last reply decides. -/
theorem run_probe_of_ok
    (h : ((ProgramType.matrix K.loadsHeard).result call.programType).run (verdicts, s, heard)
      = (.ok (), verdicts', s', heard')) :
  ∃ room attempts reply t, Rounds (call.load room) attempts reply
    ∧ ((Probes.ofKernel K.loadsHeard).helperCall call).run.run (verdicts, s, heard)
      = (call.verdictOf reply, verdicts', t, heard' ++ attempts)
  := by
  have hcheck : ((Probes.ofKernel K.loadsHeard).helperCall call).check
      = check (ProgramType.matrix K.loadsHeard) (tryLoad K.loadsHeard call) call := rfl
  obtain ⟨attempts, reply, t, hrounds, hload⟩ := rounds_tryLoad K call s' heard'
  use K.logSize s', attempts, reply, t, hrounds
  rw [Probe.run_run, hcheck, run_check, h]
  dsimp only
  rw [hload]
  rfl

end HelperCall

/-! ### Accounts -/

/-- What has been heard of a call accounts for the verdict on it. -/
inductive Account (K : Kernel σ) (call : HelperCall) (h : Host (σ × List Attempt)) : Prop
  | unasked (hverdict : h.features.helperCalls.verdicts.get? call = none)
    (htries : triesOf call h.kernel.2 = [])
  | unsupported {e : FeatureError}
    (htype : (ProgramType.matrix K.loadsHeard).answer? h.features.programTypes call.programType
      = some (.error e))
    (hverdict : h.features.helperCalls.verdicts.get? call = some (.error e))
    (htries : triesOf call h.kernel.2 = [])
  | tried {room : Nat} {reply : Except Error Descriptor}
    (htype : (ProgramType.matrix K.loadsHeard).answer? h.features.programTypes call.programType
      = some (.ok ()))
    (hverdict : h.features.helperCalls.verdicts.get? call = some (call.verdictOf reply))
    (hrounds : Rounds (call.load room) (triesOf call h.kernel.2) reply)

namespace Account

variable {K : Kernel σ} {call : HelperCall} {h h' : Host (σ × List Attempt)}

/-- Whatever else is found out does not matter. -/
theorem kept (hA : Account K call h) (hextends : h'.features.Extends h.features)
    (hverdict : h'.features.helperCalls.verdicts.get? call
      = h.features.helperCalls.verdicts.get? call)
    (htries : triesOf call h'.kernel.2 = triesOf call h.kernel.2) :
  Account K call h'
  := by
  have hmono {v : Verdict} : (ProgramType.matrix K.loadsHeard).answer? h.features.programTypes
      call.programType = some v → _ :=
    Matrix.answer?_mono (hextends.verdict (x := .programType _))
  cases hA with
  | unasked hnone hnil =>
      apply unasked
      · rw [hverdict, hnone]
      · rw [htries, hnil]
  | unsupported htype hsome hnil =>
      apply unsupported (hmono htype)
      · rw [hverdict, hsome]
      · rw [htries, hnil]
  | tried htype hsome hrounds =>
      apply tried (hmono htype)
      · rw [hverdict, hsome]
      · rw [htries]
        apply hrounds

/-- A call without a verdict has not been tried. -/
theorem triesOf_eq_nil (hA : Account K call h)
    (hverdict : h.features.helperCalls.verdicts.get? call = none) :
  triesOf call h.kernel.2 = []
  := by
  cases hA with
  | unasked _ hnil => apply hnil
  | unsupported _ hsome _ =>
      rw [hverdict] at hsome
      cases hsome
  | tried _ hsome _ =>
      rw [hverdict] at hsome
      cases hsome

/-- The probe for a call is asked. -/
theorem afterCall (hA : ∀ call, Account K call h)
    (hverdict : h.features.helperCalls.verdicts.get? call = none) (call' : HelperCall) :
  Account K call' (h.afterCall (Probes.ofKernel K.loadsHeard) call)
  := by
  let probed := ((Probes.ofKernel K.loadsHeard).helperCall call).run.run
    (h.features.programTypes, h.kernel)
  let after := h.afterCall (Probes.ofKernel K.loadsHeard) call
  have hextends : after.features.Extends h.features :=
    Probes.extends_afterCall K.loadsHeard hverdict
  have hself : after.features.helperCalls.verdicts.get? call = some probed.1 := by
    show (h.features.helperCalls.verdicts.insert call probed.1).get? call = _
    rw [Assoc.get?_insert, if_pos rfl]
  have hother (hcall : call' ≠ call) : after.features.helperCalls.verdicts.get? call'
      = h.features.helperCalls.verdicts.get? call' := by
    show (h.features.helperCalls.verdicts.insert call probed.1).get? call' = _
    rw [Assoc.get?_insert, if_neg hcall]
  have htypes : after.features.programTypes = probed.2.1 := rfl
  have hkernel : after.kernel = probed.2.2 := rfl
  have htype := Matrix.answer?_result (ProgramType.matrix K.loadsHeard) h.features.programTypes
    call.programType h.kernel
  have hheard (call' : HelperCall) :=
    triesOf_programType K call' call.programType h.features.programTypes h.kernel
  rcases hresult : ((ProgramType.matrix K.loadsHeard).result call.programType).run
    (h.features.programTypes, h.kernel) with ⟨e | _, verdicts, s, heard⟩
  · have hprobed : probed = (.error e, verdicts, s, heard) :=
      HelperCall.run_probe_of_error hresult
    rw [hresult] at htype hheard
    rw [hprobed] at hself htypes hkernel
    by_cases hcall : call' = call
    · subst hcall
      apply unsupported _ hself
      · rw [hkernel, hheard, (hA call').triesOf_eq_nil hverdict]
      · rw [htypes, htype]
    · apply (hA call').kept hextends (hother hcall)
      rw [hkernel, hheard]
  · obtain ⟨room, attempts, reply, t, hrounds, hprobed⟩ := HelperCall.run_probe_of_ok hresult
    have hprobed : probed = (call.verdictOf reply, verdicts, t, heard ++ attempts) := hprobed
    rw [hresult] at htype hheard
    rw [hprobed] at hself htypes hkernel
    by_cases hcall : call' = call
    · subst hcall
      apply tried _ hself
      · rw [hkernel, triesOf_append, hheard, (hA call').triesOf_eq_nil hverdict, List.nil_append,
          hrounds.triesOf_eq]
        apply hrounds
      · rw [htypes, htype]
    · apply (hA call').kept hextends (hother hcall)
      rw [hkernel, triesOf_append, hheard, hrounds.triesOf_other (Ne.symm hcall), List.append_nil]

/-- Any feature is asked for. -/
theorem ask {executed : List Feature} (hS : Sound K.loadsHeard h.features executed)
    (hA : ∀ call, Account K call h) (x : Feature) (call : HelperCall) :
  Account K call (((Probes.ofKernel K.loadsHeard).ask x).run h).2
  := by
  cases x with
  | programType t =>
      apply (hA call).kept
      · apply (verdictPart_programTypes K.loadsHeard).extends_result
      · rfl
      · apply triesOf_programType
  | insn feature =>
      apply (hA call).kept
      · apply (verdictPart_insns K.loadsHeard).extends_result
      · rfl
      · apply triesOf_insn
  | attachment feature =>
      apply (hA call).kept
      · apply (verdictPart_attachments K.loadsHeard).extends_result
      · rfl
      · apply triesOf_attachment
  | helperCall asked =>
      cases hanswer : (Probes.ofKernel K.loadsHeard).answer? h.features (.helperCall asked) with
      | some v =>
          rw [Probes.run_ask_of_answer? hS.known hanswer]
          apply hA
      | none =>
          rw [Probes.answer?] at hanswer
          by_cases hexcluded : HelperCall.isExcluded asked.programType = true
          · rw [if_pos hexcluded] at hanswer
            cases hanswer
          · rw [if_neg hexcluded] at hanswer
            rw [Probes.run_ask_helperCall hexcluded hanswer hS.eq_helperCall]
            apply afterCall hA hanswer

end Account

/-! ### Operations -/

namespace Probes

variable {P : Probes σ} {Inv : Host σ → Prop}

theorem holds_askAll (hask : ∀ x h, Inv h → Inv ((P.ask x).run h).2) (features : List Feature)
    {h : Host σ} (hInv : Inv h) :
  Inv ((features.forM fun x => discard (P.ask x)).run h).2
  := by
  induction features generalizing h with
  | nil => apply hInv
  | cons x features ih =>
      apply ih
      apply hask x h hInv

/-- What every query keeps, and what others do to the kernel, an operation keeps. -/
theorem holds_perform (hask : ∀ x h, Inv h → Inv ((P.ask x).run h).2) {operation : Operation σ}
    (helsewhere : ∀ change, operation = .elsewhere change →
      ∀ h, Inv h → Inv { h with kernel := change h.kernel })
    {h : Host σ} (hInv : Inv h) :
  Inv ((P.perform operation).run h).2
  := by
  cases operation with
  | ask x => apply hask x h hInv
  | probeAll =>
      rw [perform, probeAll]
      apply holds_askAll hask P.declared hInv
  | report => apply hInv
  | elsewhere change => apply helsewhere change rfl h hInv

/-- And so do any number of operations. -/
theorem holds_performAll (hask : ∀ x h, Inv h → Inv ((P.ask x).run h).2)
    {operations : List (Operation σ)}
    (helsewhere : ∀ change, .elsewhere change ∈ operations →
      ∀ h, Inv h → Inv { h with kernel := change h.kernel })
    {h : Host σ} (hInv : Inv h) :
  Inv ((P.performAll operations).run h).2
  := by
  induction operations generalizing h with
  | nil => apply hInv
  | cons operation operations ih =>
      apply ih
      · intro change hchange
        apply helsewhere change (List.mem_cons_of_mem _ hchange)
      · apply holds_perform hask _ hInv
        rintro change rfl
        apply helsewhere change List.mem_cons_self

end Probes

/-- The same with a kernel whose loads are heard. -/
def Operation.heard : Operation σ → Operation (σ × List Attempt)
  | .ask x => .ask x
  | .probeAll => .probeAll
  | .report => .report
  | .elsewhere change => .elsewhere fun s => (change s.1, s.2)

/-- What has been heard of calls accounts for the verdicts on them, and these are kept with the right
probes. -/
structure Accounted (K : Kernel σ) (h : Host (σ × List Attempt)) : Prop where
  sound : ∃ executed, Sound K.loadsHeard h.features executed
  account : ∀ call, Account K call h

namespace Accounted

variable {K : Kernel σ} {h : Host (σ × List Attempt)}

theorem new (K : Kernel σ) (s : σ) :
  Accounted K (.new (s, []))
  := by
  constructor
  · use []
    apply Sound.unknown
  · intro call
    apply Account.unasked
    · rfl
    · rfl

theorem ask (hA : Accounted K h) (x : Feature) :
  Accounted K (((Probes.ofKernel K.loadsHeard).ask x).run h).2
  := by
  obtain ⟨executed, hS⟩ := hA.sound
  constructor
  · obtain ⟨log, -, hS', -⟩ := Probes.follows_ask K.loadsHeard x h { executed } hS
    use log.executed
  · apply Account.ask hS hA.account

theorem performAll (hA : Accounted K h) (operations : List (Operation σ)) :
  Accounted K (((Probes.ofKernel K.loadsHeard).performAll (operations.map .heard)).run h).2
  := by
  apply Probes.holds_performAll _ _ hA
  · intro x h hA
    apply hA.ask
  · intro change hchange h hA
    obtain ⟨operation, -, hoperation⟩ := List.mem_map.mp hchange
    cases operation with
    | elsewhere change =>
        cases hoperation
        constructor
        · apply hA.sound
        · intro call
          apply (hA.account call).kept
          · apply Features.Extends.refl
          · rfl
          · rfl
    | _ => cases hoperation

/-- A call with a verdict is from programs of a type with a verdict. -/
theorem exists_type_answer (hA : Accounted K h) {call : HelperCall}
    (hverdict : h.features.helperCalls.verdicts.get? call ≠ none) :
  ∃ v, (ProgramType.matrix K.loadsHeard).answer? h.features.programTypes call.programType = some v
  := by
  cases hA.account call with
  | unasked hnone _ => apply absurd hnone hverdict
  | unsupported htype _ _ => exact ⟨_, htype⟩
  | tried htype _ _ => exact ⟨_, htype⟩

/-- After a query about a call the answer on its type is known, and if that type is not supported then
the kernel is where the query about the type would have left it. -/
theorem type_after_call (hA : Accounted K h) (call : HelperCall)
    (hexcluded : ¬ HelperCall.isExcluded call.programType = true) :
  let typed := (Host.haveProgramType K.loadsHeard call.programType).run h
  let called := ((Probes.ofKernel K.loadsHeard).ask (.helperCall call)).run h
  (ProgramType.matrix K.loadsHeard).answer? called.2.features.programTypes call.programType
      = some typed.1
    ∧ ∀ e, typed.1 = .error e → called.2.kernel = typed.2.kernel
  := by
  intro typed called
  obtain ⟨executed, hS⟩ := hA.sound
  cases hverdict : h.features.helperCalls.verdicts.get? call with
  | some v =>
      obtain ⟨w, htype⟩ := hA.exists_type_answer (by rw [hverdict]; apply Option.some_ne_none)
      have htyped : typed = (w, h) := Matrix.run_onPart_result_of_answer? rfl htype
      have hcalled : called = (v, h) := by
        apply Probes.run_ask_of_answer? hS.known
        rw [Probes.answer?, if_neg hexcluded, hverdict]
      rw [htyped, hcalled]
      constructor
      · apply htype
      · intro e _
        rfl
  | none =>
      have hcalled : called = _ :=
        Probes.run_ask_helperCall hexcluded hverdict hS.eq_helperCall
      have hrun : typed.1 = (((ProgramType.matrix K.loadsHeard).result call.programType).run
          (h.features.programTypes, h.kernel)).1
        ∧ typed.2.kernel = (((ProgramType.matrix K.loadsHeard).result call.programType).run
          (h.features.programTypes, h.kernel)).2.2 := ⟨rfl, rfl⟩
      rw [hcalled, hrun.1, hrun.2]
      dsimp only [Host.afterCall]
      constructor
      · rw [Probes.verdicts_run_helperCall]
        apply Matrix.answer?_result
      · intro e he
        rcases hresult : ((ProgramType.matrix K.loadsHeard).result call.programType).run
          (h.features.programTypes, h.kernel) with ⟨answer, verdicts, s, heard⟩
        rw [hresult] at he
        cases he
        rw [HelperCall.run_probe_of_error hresult]

/-- What a query about a call gives, and what has been heard by then, depends on the verdict on the
type. -/
theorem verdict_cases (hA : Accounted K h) (call : HelperCall)
    (hexcluded : ¬ HelperCall.isExcluded call.programType = true) :
  let typed := (Host.haveProgramType K.loadsHeard call.programType).run h
  let called := ((Probes.ofKernel K.loadsHeard).ask (.helperCall call)).run h
  (∃ e, typed.1 = .error e ∧ called.1 = .error e ∧ triesOf call called.2.kernel.2 = [])
    ∨ ∃ room reply, typed.1 = .ok () ∧ called.1 = call.verdictOf reply
      ∧ Rounds (call.load room) (triesOf call called.2.kernel.2) reply
  := by
  intro typed called
  obtain ⟨executed, hS⟩ := hA.sound
  obtain ⟨htyped, -⟩ := hA.type_after_call call hexcluded
  have hcalled := Probes.answer?_ask hS (.helperCall call)
  rw [Probes.answer?, if_neg hexcluded] at hcalled
  cases (hA.ask (.helperCall call)).account call with
  | unasked hnone _ =>
      rw [hcalled] at hnone
      cases hnone
  | @unsupported e htype hsome hnil =>
      rw [htyped] at htype
      rw [hcalled] at hsome
      apply Or.inl
      use e, Option.some.inj htype, Option.some.inj hsome, hnil
  | @tried room reply htype hsome hrounds =>
      rw [htyped] at htype
      rw [hcalled] at hsome
      apply Or.inr
      use room, reply, Option.some.inj htype, Option.some.inj hsome, hrounds

end Accounted

/-! ### Verdicts -/

theorem HelperCall.isExcluded_iff {t : ProgramType} :
  isExcluded t = true ↔ t ∈ [.extension, .lsm, .structOps, .tracing]
  := by
  cases t with
  | unknown raw => simp [isExcluded]
  | _ => decide

/-- Programs of four types need a target, and there is no probe for calls from them: such a query is
refused and changes nothing.  For all other types the verdict on the type comes first, whatever has
been done with the host before.  If the type is not supported, the query gives that verdict as it is,
the kernel is left where the query about the type would have left it, and the program that calls the
helper has never been loaded.  If it is supported, that program has been loaded once, with as many
attempts as the log took, and the verdict is read from the last reply; an error that is itself a
verdict on some feature is passed on. -/
theorem verdict_on_call (K : Kernel σ) (s : σ) (before : List (Operation σ)) (t : ProgramType)
    (helper : Helper) :
  let h := (((Probes.ofKernel K.loadsHeard).performAll (before.map .heard)).run (.new (s, []))).2
  let typed := (Host.haveProgramType K.loadsHeard t).run h
  let called := (Host.haveHelper K.loadsHeard t helper).run h
  let tries := triesOf ⟨t, helper⟩ called.2.kernel.2
  let name := s!"{helper.text} for {Code.text t} program"
  (t ∈ [.extension, .lsm, .structOps, .tracing] →
      called = (.error (.noProbe s!"helper {helper.text} for {Code.text t} programs"), h))
    ∧ (t ∉ [.extension, .lsm, .structOps, .tracing] →
      (∀ e, typed.1 = .error e →
        called.1 = .error e ∧ called.2.kernel = typed.2.kernel ∧ tries = [])
      ∧ (typed.1 = .ok () → ∃ room reply, Rounds (HelperCall.load ⟨t, helper⟩ room) tries reply
        ∧ match HelperCall.classifyLoad helper (reply.map fun _ => ()) with
          | .ok () => called.1 = .ok ()
          | .error (.notSupported reason) => called.1 = .error (.notSupported name none reason)
          | .error (.feature e) => called.1 = .error e
          | .error e => called.1 = .error (.inconclusive name e)))
  := by
  intro h typed called tries name
  have hA : Accounted K h := (Accounted.new K s).performAll before
  rw [← HelperCall.isExcluded_iff]
  constructor
  · intro hexcluded
    show (if HelperCall.isExcluded t = true then _ else _ : StateM _ Verdict).run h = _
    rw [if_pos hexcluded]
    rfl
  · intro hexcluded
    obtain ⟨-, hkernel⟩ := hA.type_after_call ⟨t, helper⟩ hexcluded
    obtain ⟨e, htyped, hcalled, hnil⟩ | ⟨room, reply, htyped, hcalled, hrounds⟩ :=
      hA.verdict_cases ⟨t, helper⟩ hexcluded
    · have htyped : typed.1 = .error e := htyped
      rw [htyped]
      constructor
      · rintro _ ⟨⟩
        use hcalled, hkernel e htyped, hnil
      · intro hok
        cases hok
    · have htyped : typed.1 = .ok () := htyped
      rw [htyped]
      constructor
      · intro e he
        cases he
      · intro _
        use room, reply, hrounds
        have hcalled : called.1 = Probe.judge name none
          (HelperCall.classifyLoad helper (reply.map fun _ => ())) := hcalled
        rw [hcalled]
        cases HelperCall.classifyLoad helper (reply.map fun _ => ()) with
        | ok _ => rfl
        | error e =>
            cases e with
            | _ => rfl

/-- The first query about a type that is supported. -/
theorem Host.run_haveProgramType_new {K : Kernel σ} {t : ProgramType} {s s' : σ}
    {version : UInt16 × UInt16}
    (hentry : (ProgramType.declared.reverse.find? fun entry => entry.1 = t) = some (t, version))
    (hcheck : (ProgramType.check K t).run.run s = (.ok (), s')) :
  (haveProgramType K t).run (.new s)
    = (.ok (), ⟨{ Features.unknown with programTypes := ⟨[(t, .ok ())]⟩ }, s'⟩)
  := by
  show (onPart programTypePart ((ProgramType.matrix K).result t)).run (.new s) = _
  rw [run_onPart, Matrix.run_result, ProgramType.probe?_matrix, hentry, Option.map_some]
  dsimp only [programTypePart, new, Features.unknown]
  rw [Verdicts.run_ask]
  have hnone : (⟨[]⟩ : Verdicts ProgramType).get? t = none := rfl
  rw [hnone]
  dsimp only
  rw [Probe.run_run, hcheck]
  rfl

/-- A kernel that loads all programs but those that call helpers, for which it points to another
question. -/
def evasiveKernel : Kernel (Memory.Machine Unit) :=
  { Memory.kernel {} {} with
    loadProgram := fun load =>
      if BeginsWithCall load.insns then throw (.feature (.noProbe "x")) else pure { number := 3 } }

/-- So the verdict on a call from programs of a supported type need not be that the helper is
supported, that it is not, or that the question is open. -/
theorem verdict_on_call_passed_on :
  let h : Host (Memory.Machine Unit) := .new ⟨{}, ()⟩
  let called := (Host.haveHelper evasiveKernel .xdp ⟨2⟩).run h
  ProgramType.xdp ∉ [.extension, .lsm, .structOps, .tracing]
    ∧ ((Host.haveProgramType evasiveKernel .xdp).run h).1 = .ok ()
    ∧ called.1 = .error (.noProbe "x")
    ∧ ¬ (called.1 = .ok ()
      ∨ (∃ name version reason, called.1 = .error (.notSupported name version reason))
      ∨ ∃ name e, called.1 = .error (.inconclusive name e))
  := by
  intro h called
  have hcheck : (ProgramType.check evasiveKernel .xdp).run.run ⟨{}, ()⟩ = (.ok (), ⟨{}, ()⟩) := by
    cbv
  have hload : ((HelperCall.tryLoad evasiveKernel ⟨.xdp, ⟨2⟩⟩).run.run ⟨{}, ()⟩).1
      = .error (.feature (.noProbe "x")) := by
    cbv
  have htyped : (Host.haveProgramType evasiveKernel .xdp).run h
      = (.ok (), ⟨{ h.features with programTypes := ⟨[(.xdp, .ok ())]⟩ }, ⟨{}, ()⟩⟩) := by
    have hentry : (ProgramType.declared.reverse.find? fun entry => entry.1 = .xdp)
        = some (.xdp, 4, 8) := rfl
    apply Host.run_haveProgramType_new hentry hcheck
  have hcalled : called.1 = .error (.noProbe "x") := by
    apply Eq.trans (Host.answer_haveHelper (Sound.unknown evasiveKernel) (by decide) rfl htyped)
    rw [hload]
    rfl
  rw [hcalled]
  constructor
  · decide
  constructor
  · rw [htyped]
  constructor
  · rfl
  · rintro (hok | ⟨name, version, reason, hnot⟩ | ⟨name, e, hopen⟩)
    · cases hok
    · cases hnot
    · cases hopen

end Bpf
