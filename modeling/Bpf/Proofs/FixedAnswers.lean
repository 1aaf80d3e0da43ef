import Bpf.Host
import Bpf.Proofs.Scripted

/-!
# Checks with fixed answers

What a check of a feature answers does not depend on what was asked of the kernel before, as long as
descriptors can be opened and ids are left (`State.Runs`).  Its requests concern nothing that was there
before: they name programs that the check has loaded itself, or a descriptor that nobody has.  An action
`Meets` a postcondition from a precondition on, as in Hoare logic; it `Settles` on an answer if it
always gives that answer, and all checks do, on a kernel with a script that always answers a request in
the same way.
-/

namespace Bpf

variable {η α β : Type}

/-- A bind goes on from what an attempt has answered. -/
theorem Action.bind_eq_attempt {σ : Type} (x : Action σ α) (f : α → Action σ β) :
  x >>= f = attempt x >>= fun answer =>
    match answer with
    | .ok a => f a
    | .error e => ofExcept (.error e)
  := by
  apply ExceptT.ext
  apply StateT.ext
  intro s
  rw [run_attempt_bind]
  rcases hrun : x.run.run s with ⟨e | a, s'⟩
  · rw [run_bind_of_error hrun]
    rfl
  · rw [run_bind_of_ok hrun]

/-- The script always answers a request in the same way, whatever its own state, and whatever the
descriptor of the program is. -/
structure Memory.Script.IsPure (script : Memory.Script η) : Prop where
  loadProgram : ∀ f, script.loadProgram = some f → ∀ load a b,
    ((f load).run.run a).1 = ((f load).run.run b).1
  createLink : ∀ f, script.createLink = some f → ∀ request program a b,
    ((f request).run.run a).1 = ((f { request with program }).run.run b).1
  queryPrograms : ∀ f, script.queryPrograms = some f → ∀ target attachType a b,
    ((f target attachType).run.run a).1 = ((f target attachType).run.run b).1

namespace Memory

open AttachFeature (nowhere nobody)

theorem isPure_unscripted :
  ({} : Script η).IsPure
  := by
  constructor
  · rintro f ⟨⟩
  · rintro f ⟨⟩
  · rintro f ⟨⟩

/-! ### What steps keep -/

namespace State

variable {s s' : State}

/-- Descriptors can be opened, and there always was an id to go on with. -/
structure Runs (s : State) : Prop where
  hasDescriptors : s.HasDescriptors
  going : s.stopped = false

theorem nthDescriptor_ne_nobody (serial : Nat) :
  nthDescriptor serial ≠ nobody
  := by
  intro heq
  have hnumber : UInt32.ofNat (3 + serial % 0x7ffffffc) = nowhere :=
    congrArg Descriptor.number heq
  have hlt : serial % 0x7ffffffc < 0x7ffffffc := Nat.mod_lt _ (by decide)
  have hvalue := congrArg UInt32.toNat hnumber
  have hnowhere : nowhere.toNat = 4294967295 := rfl
  have hsize : UInt32.size = 4294967296 := rfl
  rw [UInt32.toNat_ofNat_of_lt' (by omega)] at hvalue
  omega

/-- No step opens the descriptor that nobody has. -/
theorem object?_nobody_of_step (h : Step s s') :
  s'.object? nobody = s.object? nobody
  := by
  cases h with
  | openObject object hoffers =>
      have hne : nobody ≠ s.nextDescriptor := (nthDescriptor_ne_nobody _).symm
      rw [object?, opened, Assoc.get?_insert, if_neg hne]
      rfl
  | _ => rfl

theorem object?_nobody_of_steps (h : Steps s s') :
  s'.object? nobody = s.object? nobody
  := by
  induction h with
  | refl => rfl
  | tail _ hstep ih => rw [object?_nobody_of_step hstep, ih]

/-- What runs after a step did so before. -/
theorem runs_of_step (h : Step s s') (hruns : s'.Runs) :
  s.Runs
  := by
  cases h with
  | haltProgram hlast => cases hruns.going
  | haltLink hlast => cases hruns.going
  | loseDevice failure => cases hruns.hasDescriptors
  | _ => exact ⟨hruns.hasDescriptors, hruns.going⟩

theorem runs_of_steps (h : Steps s s') (hruns : s'.Runs) :
  s.Runs
  := by
  induction h with
  | refl => apply hruns
  | tail _ hstep ih => apply ih (runs_of_step hstep hruns)

/-- An object is opened if it all runs afterwards. -/
theorem run_openObject_of_runs {object : Object}
    (h : ((openObject object).run.run s).2.Runs) :
  (openObject object).run.run s = (.ok s.nextDescriptor, s.opened object)
  := by
  by_cases hfd : s.HasDescriptors
  · apply run_openObject object hfd
  · obtain ⟨failure, -, hrun⟩ := exists_run_openObject object hfd
    rw [hrun] at h
    exact absurd h.hasDescriptors hfd

theorem run_loadProgram_of_runs {load : ProgramLoad} (hinsns : load.insns.isEmpty = false)
    (h : ((loadProgram load).run.run s).2.Runs) :
  (loadProgram load).run.run s
    = (.ok s.nextDescriptor, s.loaded load.programType load.attachType)
  := by
  rw [run_loadProgram, hinsns, if_neg Bool.false_ne_true] at h ⊢
  split at h
  next => cases h.going
  next hid =>
    rw [if_neg hid]
    apply run_openObject_of_runs h

theorem run_addLink_of_runs {link : UInt32 → LinkRecord}
    (h : ((addLink link).run.run s).2.Runs) :
  (addLink link).run.run s = (.ok s.nextDescriptor, s.linked (link s.nextLinkId))
  := by
  rw [run_addLink] at h ⊢
  split at h
  next => cases h.going
  next hid =>
    rw [if_neg hid]
    apply run_openObject_of_runs h

/-- There is a program behind the descriptor. -/
def IsProgram (s : State) (fd : Descriptor) : Prop :=
  ∃ id programType attachType, s.object? fd = some (.program id programType attachType)

theorem IsProgram.exists_programId {fd : Descriptor} (h : s.IsProgram fd) (call : String) :
  ∃ id, s.programId call fd = .ok id
  := by
  obtain ⟨id, programType, attachType, hobject⟩ := h
  refine ⟨id, ?_⟩
  rw [programId, program, hobject]
  rfl

/-- A link for a program that is there. -/
theorem run_createLink_of_isProgram {request : LinkCreate} (h : s.IsProgram request.program)
    (hplace : s.checkPlace request = true) :
  ∃ id, (createLink request).run.run s
    = if isOnInterface request.attachType && request.target = 0xffffffff then
        (.error (.ofErrno Command.linkCreate Errno.enodev), s)
      else (addLink (requested request id)).run.run s
  := by
  obtain ⟨id, hid⟩ := h.exists_programId Command.linkCreate
  refine ⟨id, ?_⟩
  rw [run_createLink, hid, hplace]
  rfl

/-- What is answered where a program is needed and there is none. -/
theorem programId_of_not_isProgram {fd : Descriptor} (h : ¬ s.IsProgram fd) (call : String) :
  s.programId call fd
    = .error (.ofErrno call (if (s.object? fd).isSome then Errno.einval else Errno.ebadf))
  := by
  rw [programId, program]
  cases hobject : s.object? fd with
  | none => rfl
  | some object =>
      cases object with
      | program id programType attachType => exact absurd ⟨_, _, _, hobject⟩ h
      | link id => rfl
      | map => rfl

end State

/-! ### Triples -/

/-- From states with `P` on, an action ends with `Q` if it all runs until then.  What the descriptor
that nobody has stands for is `o`. -/
def Meets (o : Option Object) (P : State → Prop) (x : Action (Machine η) α)
    (Q : Except Error α → State → Prop) : Prop :=
  ∀ m, State.Steps m.state (x.run.run m).2.state
    ∧ (m.state.object? nobody = o → P m.state → (x.run.run m).2.state.Runs →
      Q (x.run.run m).1 (x.run.run m).2.state)

/-- An action does to the state what requests can do. -/
def TakesSteps (x : Action (Machine η) α) : Prop :=
  ∀ m, State.Steps m.state (x.run.run m).2.state

/-- An action always gives the same answer if it all runs. -/
def Settles (o : Option Object) (x : Action (Machine η) α) (answer : Except Error α) : Prop :=
  Meets o (fun _ => True) x fun a _ => a = answer

/-- Whether an action succeeds is always the same if it all runs. -/
def Decides (o : Option Object) (x : Action (Machine η) α) (Q : α → State → Prop) : Prop :=
  (∃ e, Settles o x (.error e))
    ∨ Meets o (fun _ => True) x fun answer s => ∃ a, answer = .ok a ∧ Q a s

section Triples

variable {o : Option Object} {P P' : State → Prop} {x : Action (Machine η) α}
variable {Q Q' : Except Error α → State → Prop} {R : Except Error β → State → Prop}
variable {f : α → Action (Machine η) β} {g : Except Error α → Action (Machine η) β}

theorem Meets.of_pre (h : Meets o P x Q) (hpre : ∀ s, P' s → P s) :
  Meets o P' x Q
  := by
  intro m
  refine ⟨(h m).1, ?_⟩
  intro ho hP hruns
  apply (h m).2 ho (hpre _ hP) hruns

theorem Meets.of_post (h : Meets o P x Q) (hpost : ∀ a s, Q a s → Q' a s) :
  Meets o P x Q'
  := by
  intro m
  refine ⟨(h m).1, ?_⟩
  intro ho hP hruns
  apply hpost _ _ ((h m).2 ho hP hruns)

theorem Meets.takesSteps (h : Meets o P x Q) :
  TakesSteps x
  := by
  intro m
  exact (h m).1

/-- From states that there are none of on, an action does what is asked of it. -/
theorem TakesSteps.meets (h : TakesSteps x) (habsurd : ∀ s, ¬ P s) :
  Meets o P x Q
  := by
  intro m
  refine ⟨h m, ?_⟩
  intro _ hP
  exact absurd hP (habsurd _)

theorem Decides.takesSteps {Q : α → State → Prop} (h : Decides o x Q) :
  TakesSteps x
  := by
  rcases h with ⟨e, hsettles⟩ | hmeets
  · exact hsettles.takesSteps
  · exact hmeets.takesSteps

theorem Settles.meets {answer : Except Error α} (h : Settles o x answer) :
  Meets o P x fun a _ => a = answer
  := by
  apply Meets.of_pre h
  intro s _
  trivial

theorem meets_ofExcept {answer : Except Error α} (h : ∀ s, P s → Q answer s) :
  Meets o P (Action.ofExcept answer : Action (Machine η) α) Q
  := by
  intro m
  refine ⟨Relation.ReflTransGen.refl, ?_⟩
  intro _ hP _
  apply h _ hP

theorem settles_ofExcept (answer : Except Error α) :
  Settles o (Action.ofExcept answer : Action (Machine η) α) answer
  := by
  apply meets_ofExcept
  intro s _
  rfl

/-- An attempt goes on from where the action has ended, whether it has succeeded or not. -/
theorem Meets.attempt_bind (hx : Meets o P x Q) (hg : ∀ a, Meets o (Q a) (g a) R) :
  Meets o P (Action.attempt x >>= g) R
  := by
  intro m
  obtain ⟨hsteps, hanswer⟩ := hx m
  obtain ⟨hsteps', hanswer'⟩ := hg (x.run.run m).1 (x.run.run m).2
  rw [Action.run_attempt_bind]
  refine ⟨hsteps.trans hsteps', ?_⟩
  intro ho hP hruns
  have hmiddle := State.runs_of_steps hsteps' hruns
  apply hanswer' ((State.object?_nobody_of_steps hsteps).trans ho) (hanswer ho hP hmiddle) hruns

/-- What comes after an action goes on from where the action has ended, if it has succeeded. -/
theorem Meets.bind (hx : Meets o P x Q) (hf : ∀ a, Meets o (Q (.ok a)) (f a) R)
    (herror : ∀ e s, Q (.error e) s → R (.error e) s) :
  Meets o P (x >>= f) R
  := by
  rw [Action.bind_eq_attempt]
  apply hx.attempt_bind
  intro answer
  cases answer with
  | ok a => apply hf
  | error e =>
      apply meets_ofExcept
      intro s
      apply herror

/-- What comes after an attempt that settles on an answer comes after that answer. -/
theorem Settles.attempt_bind {answer : Except Error α} (hx : Settles o x answer)
    (hg : Meets o (fun _ => True) (g answer) R) (hsteps : ∀ a, TakesSteps (g a)) :
  Meets o P (Action.attempt x >>= g) R
  := by
  apply hx.meets.attempt_bind
  intro a
  by_cases ha : a = answer
  · rw [ha]
    apply hg.of_pre
    intro s _
    trivial
  · apply (hsteps a).meets
    intro s heq
    exact ha heq

/-- What comes after an attempt is decided if it is so after a failure, and a success after a
success. -/
theorem Decides.attempt_bind {Q : α → State → Prop} {R : β → State → Prop} (hx : Decides o x Q)
    (hok : ∀ a, Meets o (Q a) (g (.ok a)) fun answer s => ∃ b, answer = .ok b ∧ R b s)
    (herror : ∀ e, Decides o (g (.error e)) R) :
  Decides o (Action.attempt x >>= g) R
  := by
  have hsteps (answer : Except Error α) : TakesSteps (g answer) := by
    cases answer with
    | ok a => exact (hok a).takesSteps
    | error e => exact (herror e).takesSteps
  rcases hx with ⟨e, hsettles⟩ | hmeets
  · rcases herror e with ⟨e', he'⟩ | hmeets'
    · exact .inl ⟨e', hsettles.attempt_bind he' hsteps⟩
    · exact .inr (hsettles.attempt_bind hmeets' hsteps)
  · right
    apply hmeets.attempt_bind
    intro answer
    cases answer with
    | ok a =>
        apply (hok a).of_pre
        rintro s ⟨a', heq, hQ⟩
        cases heq
        exact hQ
    | error e =>
        apply (hsteps (.error e)).meets
        rintro s ⟨a, heq, -⟩
        cases heq

/-- What comes after an attempt settles if it does so after a failure and after a success. -/
theorem Decides.exists_settles_attempt {Q : α → State → Prop} (hx : Decides o x Q)
    (hok : ∃ b, ∀ a, Meets o (Q a) (g (.ok a)) fun answer _ => answer = b)
    (herror : ∀ e, ∃ b, Settles o (g (.error e)) b) :
  ∃ b, Settles o (Action.attempt x >>= g) b
  := by
  obtain ⟨b, hok⟩ := hok
  have hsteps (answer : Except Error α) : TakesSteps (g answer) := by
    cases answer with
    | ok a => exact (hok a).takesSteps
    | error e =>
        obtain ⟨c, hc⟩ := herror e
        exact hc.takesSteps
  rcases hx with ⟨e, hsettles⟩ | hmeets
  · obtain ⟨c, hc⟩ := herror e
    exact ⟨c, hsettles.attempt_bind hc hsteps⟩
  · refine ⟨b, hmeets.attempt_bind ?_⟩
    intro answer
    cases answer with
    | ok a =>
        apply (hok a).of_pre
        rintro s ⟨a', heq, hQ⟩
        cases heq
        exact hQ
    | error e =>
        apply (hsteps (.error e)).meets
        rintro s ⟨a, heq, -⟩
        cases heq

/-- What comes after an attempt that settles does so if it does after every answer. -/
theorem exists_settles_attempt (hx : ∃ a, Settles o x a) (hg : ∀ a, ∃ b, Settles o (g a) b) :
  ∃ b, Settles o (Action.attempt x >>= g) b
  := by
  obtain ⟨a, hx⟩ := hx
  obtain ⟨b, hb⟩ := hg a
  refine ⟨b, hx.attempt_bind hb ?_⟩
  intro a'
  obtain ⟨c, hc⟩ := hg a'
  exact hc.takesSteps

/-- What comes after an action that settles does so if it does after every success. -/
theorem exists_settles_bind (hx : ∃ a, Settles o x a) (hf : ∀ a, ∃ b, Settles o (f a) b) :
  ∃ b, Settles o (x >>= f) b
  := by
  rw [Action.bind_eq_attempt]
  apply exists_settles_attempt hx
  intro answer
  cases answer with
  | ok a => exact hf a
  | error e => exact ⟨_, settles_ofExcept _⟩

/-- What comes after an action settles if it does so after a success. -/
theorem Decides.exists_settles_bind {Q : α → State → Prop} (hx : Decides o x Q)
    (hf : ∃ b, ∀ a, Meets o (Q a) (f a) fun answer _ => answer = b) :
  ∃ b, Settles o (x >>= f) b
  := by
  rw [Action.bind_eq_attempt]
  apply hx.exists_settles_attempt hf
  intro e
  exact ⟨_, settles_ofExcept _⟩

/-- What is made of the result of an action is decided with the action. -/
theorem Decides.bind_pure {Q : α → State → Prop} (hx : Decides o x Q) (h : α → β) :
  Decides o (x >>= fun a => pure (h a)) fun b s => ∃ a, b = h a ∧ Q a s
  := by
  rcases hx with ⟨e, hsettles⟩ | hmeets
  · left
    refine ⟨e, Meets.bind hsettles ?_ ?_⟩
    · intro a
      apply meets_ofExcept
      rintro s ⟨⟩
    · rintro e' s ⟨⟩
      rfl
  · right
    apply Meets.bind hmeets
    · intro a
      apply meets_ofExcept
      rintro s ⟨a', heq, hQ⟩
      cases heq
      exact ⟨h a, rfl, a, rfl, hQ⟩
    · rintro e s ⟨a, heq, -⟩
      cases heq

end Triples

/-! ### Requests -/

section Requests

variable {o : Option Object} {settings : Settings} {script : Script η}

/-- A script that always answers in the same way lets a request pass, or never does. -/
theorem Script.IsPure.exists_ruling_loadProgram (hpure : script.IsPure) (load : ProgramLoad) :
  ∃ ruling, ∀ m, ((Machine.permit script.loadProgram load).run.run m).1 = ruling
  := by
  cases hhook : script.loadProgram with
  | none => exact ⟨.ok (), fun m => rfl⟩
  | some f =>
      rcases isEmpty_or_nonempty η with hempty | ⟨⟨a⟩⟩
      · exact ⟨.ok (), fun m => hempty.elim m.script⟩
      · exact ⟨_, fun m => hpure.loadProgram f hhook load m.script a⟩

theorem Script.IsPure.exists_ruling_createLink (hpure : script.IsPure) (request : LinkCreate) :
  ∃ ruling, ∀ program m,
    ((Machine.permit script.createLink { request with program }).run.run m).1 = ruling
  := by
  cases hhook : script.createLink with
  | none => exact ⟨.ok (), fun program m => rfl⟩
  | some f =>
      rcases isEmpty_or_nonempty η with hempty | ⟨⟨a⟩⟩
      · exact ⟨.ok (), fun program m => hempty.elim m.script⟩
      · exact ⟨_, fun program m => (hpure.createLink f hhook request program a m.script).symm⟩

/-- A request that a script has a say in. -/
theorem meets_permitted {ρ : Type} {call : String} {hook : Option (ρ → Action η Unit)} {request : ρ}
    {operation : Action State α} {ruling : Except Error Unit}
    {P : State → Prop} {Q : Except Error α → State → Prop}
    (hruling : ∀ m, ((Machine.permit hook request).run.run m).1 = ruling)
    (hcount : ∀ s, P s → P (s.counted call))
    (hrefused : ∀ e s, ruling = .error e → Q (.error e) s)
    (hsteps : ∀ s, State.Steps s (operation.run.run (s.counted call)).2)
    (hanswer : ∀ s, ruling = .ok () → s.object? nobody = o → P s →
      (operation.run.run s).2.Runs → Q (operation.run.run s).1 (operation.run.run s).2) :
  Meets o P (do Machine.count call; Machine.permit hook request; Machine.change operation) Q
  := by
  intro m
  constructor
  · apply Machine.holds_permitted (P := State.Steps m.state)
    · apply Relation.ReflTransGen.single
      apply State.Step.count
    · apply hsteps
  · intro ho hP hruns
    have hcounted : P (m.state.counted call) := hcount _ hP
    have hruled := hruling (m.counted call)
    have hrun : ((do Machine.count call; Machine.permit hook request; Machine.change operation :
        Action (Machine η) α)).run.run m
        = ((do Machine.permit hook request; Machine.change operation :
            Action (Machine η) α)).run.run (m.counted call) := rfl
    have hstate := Machine.state_permit hook request (m.counted call)
    rw [hrun] at hruns ⊢
    rcases hpermit : (Machine.permit hook request).run.run (m.counted call) with ⟨e | u, m₁⟩
    · rw [Action.run_bind_of_error hpermit]
      rw [hpermit] at hruled
      apply hrefused e _ hruled.symm
    · rw [hpermit] at hruled hstate
      have hstate : m₁.state = m.state.counted call := hstate
      rw [Action.run_bind_of_ok hpermit, Machine.run_change, hstate] at hruns ⊢
      exact hanswer _ hruled.symm ho hcounted hruns

/-- Whether a program can be loaded is decided. -/
theorem decides_loadProgram (hpure : script.IsPure) (load : ProgramLoad) :
  Decides o ((kernel settings script).loadProgram load) fun fd s => s.IsProgram fd
  := by
  have hsteps := State.steps_loadProgram load
  obtain ⟨ruling, hruling⟩ := hpure.exists_ruling_loadProgram load
  cases ruling with
  | error e =>
      left
      refine ⟨e, meets_permitted hruling (fun _ _ => trivial) ?_ hsteps ?_⟩
      · rintro e' s ⟨⟩
        rfl
      · rintro s ⟨⟩
  | ok u =>
      cases hempty : load.insns.isEmpty with
      | true =>
          left
          refine ⟨.ofErrno Command.progLoad Errno.einval,
            meets_permitted hruling (fun _ _ => trivial) ?_ hsteps ?_⟩
          · rintro e s ⟨⟩
          · intro s _ _ _ _
            rw [State.run_loadProgram, if_pos hempty]
      | false =>
          right
          refine meets_permitted hruling (fun _ _ => trivial) ?_ hsteps ?_
          · rintro e s ⟨⟩
          · intro s _ _ _ hruns
            rw [State.run_loadProgram_of_runs hempty hruns]
            exact ⟨_, rfl, _, _, _, State.object?_opened _ _⟩

/-- A request for a link for the sake of the answer, where what the kernel answers is known. -/
theorem meets_tryLink {request : LinkCreate} {P : State → Prop} {ruling made : Except Error Unit}
    (hruling : ∀ m, ((Machine.permit script.createLink request).run.run m).1 = ruling)
    (hcount : ∀ s, P s → P (s.counted Command.linkCreate))
    (hmade : ∀ s, s.object? nobody = o → P s → ((State.createLink request).run.run s).2.Runs →
      ((State.createLink request).run.run s).1.map (fun _ => ()) = made) :
  Meets o P (AttachFeature.tryLink (kernel settings script) request)
    fun answer _ => answer = .ok (ruling.bind fun _ => made)
  := by
  apply Meets.attempt_bind
    (Q := fun answer _ => answer.map (fun _ => ()) = ruling.bind fun _ => made)
  · apply meets_permitted hruling hcount
    · rintro e s rfl
      rfl
    · intro s
      apply Relation.ReflTransGen.head (State.Step.count Command.linkCreate)
      apply State.steps_createLink
    · rintro s rfl ho hP hruns
      exact hmade s ho hP hruns
  · intro answer
    apply meets_ofExcept
    rintro s heq
    rw [← heq]

/-- What a request for a link is answered with, if there is the program that it names. -/
theorem exists_answer_tryLink (settings : Settings) (hpure : script.IsPure) (request : LinkCreate)
    (hplace : ∀ s program, State.checkPlace s { request with program } = true) :
  ∃ b, ∀ program, Meets o (fun s => s.IsProgram program)
    (AttachFeature.tryLink (kernel settings script) { request with program })
    fun answer _ => answer = .ok b
  := by
  obtain ⟨ruling, hruling⟩ := hpure.exists_ruling_createLink request
  let made : Except Error Unit :=
    if State.isOnInterface request.attachType && request.target = 0xffffffff then
      .error (.ofErrno Command.linkCreate Errno.enodev)
    else .ok ()
  refine ⟨ruling.bind fun _ => made, ?_⟩
  intro program
  apply meets_tryLink (hruling program) (fun s h => h)
  intro s _ hprogram hruns
  have hprogram : s.IsProgram { request with program }.program := hprogram
  obtain ⟨id, heq⟩ := State.run_createLink_of_isProgram hprogram (hplace s program)
  rw [heq] at hruns ⊢
  unfold made
  split at hruns
  next hinterface =>
    rw [if_pos hinterface, if_pos hinterface]
    rfl
  next hinterface =>
    rw [if_neg hinterface, if_neg hinterface, State.run_addLink_of_runs hruns]
    rfl

/-- What a request for a link is answered with that names the descriptor that nobody has. -/
theorem exists_answer_tryLink_nobody (settings : Settings) (hpure : script.IsPure)
    (request : LinkCreate)
    (hplace : ∀ s program, State.checkPlace s { request with program } = true) :
  ∃ b, Meets o (fun _ => True)
    (AttachFeature.tryLink (kernel settings script) { request with program := nobody })
    fun answer _ => answer = .ok b
  := by
  by_cases hprogram : ∃ id programType attachType, o = some (.program id programType attachType)
  · obtain ⟨b, hb⟩ := exists_answer_tryLink (o := o) settings hpure request hplace
    refine ⟨b, ?_⟩
    intro m
    refine ⟨(hb nobody m).1, ?_⟩
    intro ho _ hruns
    apply (hb nobody m).2 ho _ hruns
    rw [State.IsProgram, ho]
    exact hprogram
  · obtain ⟨ruling, hruling⟩ := hpure.exists_ruling_createLink request
    let refusal := Error.ofErrno Command.linkCreate (if o.isSome then Errno.einval else Errno.ebadf)
    refine ⟨ruling.bind fun _ => .error refusal, ?_⟩
    apply meets_tryLink (hruling nobody) (fun s h => h)
    intro s ho _ _
    have hnone : ¬ s.IsProgram nobody := by
      rw [State.IsProgram, ho]
      exact hprogram
    rw [State.run_createLink, State.programId_of_not_isProgram hnone, ho]
    rfl

/-- An attachment of a program that is there to a target that is not. -/
theorem meets_attachProgram {request : ProgramAttach} {fd : Descriptor}
    (hprogram : request.program = fd) (htarget : request.target = nowhere) :
  Meets o (fun s => s.IsProgram fd) ((kernel settings script).attachProgram request)
    fun answer _ => answer = .error (.ofErrno Command.progAttach Errno.ebadf)
  := by
  subst hprogram
  intro m
  refine ⟨?_, ?_⟩
  · exact Machine.steps_afterUnder settings script m (.attachProgram request)
  · intro _ hprogram _
    obtain ⟨id, hid⟩ := hprogram.exists_programId Command.progAttach
    show State.attachProgram request (m.state.counted Command.progAttach) = _
    have hcounted : (m.state.counted Command.progAttach).programId Command.progAttach request.program
        = .ok id := hid
    unfold State.attachProgram
    rw [hcounted, htarget]
    rfl

/-- The number of programs at a target that is not there. -/
theorem exists_settles_queryPrograms (hpure : script.IsPure) (attachType : AttachType) :
  ∃ b, Settles o ((kernel settings script).queryPrograms nowhere attachType) b
  := by
  have hsettles (b : Except Error UInt32)
      (h : ∀ m, (((kernel settings script).queryPrograms nowhere attachType).run.run m).1 = b) :
      Settles o ((kernel settings script).queryPrograms nowhere attachType) b := by
    intro m
    refine ⟨Machine.steps_afterUnder settings script m (.queryPrograms nowhere attachType), ?_⟩
    intro _ _ _
    exact h m
  cases hhook : script.queryPrograms with
  | none =>
      refine ⟨.error (.ofErrno Command.progQuery Errno.ebadf), hsettles _ ?_⟩
      intro m
      simp only [kernel, hhook]
      rfl
  | some f =>
      rcases isEmpty_or_nonempty η with hempty | ⟨⟨a⟩⟩
      · refine ⟨.ok 0, hsettles _ ?_⟩
        intro m
        exact hempty.elim m.script
      · refine ⟨_, hsettles ((f nowhere attachType).run.run a).1 ?_⟩
        intro m
        rw [← hpure.queryPrograms f hhook nowhere attachType m.script a]
        simp only [kernel, hhook]
        rfl

end Requests

/-! ### Loading -/

section Loading

variable {o : Option Object} {settings : Settings} {script : Script η} (hpure : script.IsPure)

include hpure

theorem decides_loadGrowing (load : ProgramLoad) :
  Decides o (loadGrowing (kernel settings script) load) fun fd s => s.IsProgram fd
  := by
  induction load using loadGrowing.induct with
  | case1 load ih =>
      rw [loadGrowing.eq_def]
      apply (decides_loadProgram hpure load).attempt_bind
      · intro fd
        apply meets_ofExcept
        intro s hprogram
        exact ⟨fd, rfl, hprogram⟩
      · intro e
        by_cases hwants : wantsRoom e load.logSize = true
        · simp only [hwants, if_true]
          exact ih e hwants
        · simp only [hwants, Bool.false_eq_true, if_false]
          exact .inl ⟨e, settles_ofExcept _⟩

omit hpure in
/-- The request for a program depends on nothing but the settings. -/
theorem exists_request_eq (settings : Settings) (script : Script η) (spec : ProgramSpec)
    (logLevel : UInt32) :
  ∃ load, Program.request (kernel settings script) spec logLevel = Action.ofExcept load
  := by
  have htarget : ∃ id, ∀ m, (targetId (kernel settings script) spec.attachTo).run.run m = (id, m) := by
    cases spec.attachTo with
    | none => exact ⟨.ok none, fun m => rfl⟩
    | some function =>
        refine ⟨(btfId settings.btf function).map some, ?_⟩
        intro m
        show (some <$> (Action.ofExcept (btfId settings.btf function) :
          Action (Machine η) UInt32)).run.run m = _
        cases btfId settings.btf function with
        | error e => rfl
        | ok id => rfl
  have hequal (load : Except Error ProgramLoad)
      (h : ∀ m, (Program.request (kernel settings script) spec logLevel).run.run m = (load, m)) :
      Program.request (kernel settings script) spec logLevel = Action.ofExcept load := by
    apply ExceptT.ext
    apply StateT.ext
    intro m
    rw [h m]
    rfl
  cases hlicense : NulFree.ofString? spec.license with
  | none =>
      refine ⟨.error (.invalidInput "license contains a NUL byte"), hequal _ ?_⟩
      intro m
      rw [Program.request, hlicense]
      rfl
  | some license =>
      obtain ⟨id | id, hid⟩ := htarget
      · refine ⟨.error id, hequal _ ?_⟩
        intro m
        rw [Program.request, hlicense]
        exact Action.run_bind_of_error (hid m)
      · let load : ProgramLoad :=
          { programType := spec.programType
            attachType := spec.attachType
            btfId := id
            insns := spec.insns
            license
            name := spec.name
            flags := spec.flags
            logLevel
            logSize := if logLevel > 0 then settings.logSize else 0 }
        refine ⟨.ok load, hequal _ ?_⟩
        intro m
        rw [Program.request, hlicense]
        exact Action.run_bind_of_ok (hid m)

/-- Whether a program can be loaded is decided. -/
theorem decides_load (spec : ProgramSpec) (logLevel : UInt32) :
  Decides o (Program.load (kernel settings script) spec logLevel) fun program s =>
    ∃ fd, program.descriptor = .ok fd ∧ s.IsProgram fd
  := by
  obtain ⟨load, hload⟩ := exists_request_eq settings script spec logLevel
  rw [Program.load, hload]
  cases load with
  | error e => exact .inl ⟨e, settles_ofExcept _⟩
  | ok load =>
      have hgrowing : Decides o (loadGrowing (kernel settings script) load) fun fd s =>
        s.IsProgram fd := decides_loadGrowing hpure load
      have h := hgrowing.bind_pure fun fd => (⟨some fd, spec.programType⟩ : Program)
      rcases h with ⟨e, hsettles⟩ | hmeets
      · exact .inl ⟨e, hsettles⟩
      · right
        apply Meets.of_post hmeets
        rintro answer s ⟨program, rfl, fd, rfl, hprogram⟩
        exact ⟨_, rfl, fd, rfl, hprogram⟩

end Loading

/-! ### Checks -/

section Checks

variable {o : Option Object} {settings : Settings} {script : Script η} (hpure : script.IsPure)

include hpure

theorem exists_settles_checkProgram (spec : ProgramSpec) :
  ∃ b, Settles o (checkProgram (kernel settings script) spec) b
  := by
  apply (decides_load hpure spec 0).exists_settles_attempt
  · refine ⟨.ok (), ?_⟩
    intro program
    apply meets_ofExcept
    intro s _
    rfl
  · intro e
    exact ⟨_, settles_ofExcept _⟩

theorem exists_settles_checkStructOps :
  ∃ b, Settles o (ProgramType.checkStructOps (kernel settings script)) b
  := by
  apply exists_settles_attempt (exists_settles_checkProgram hpure _)
  intro answer
  cases answer with
  | ok u => exact ⟨_, settles_ofExcept _⟩
  | error e =>
      dsimp only
      split
      next => exact ⟨_, settles_ofExcept _⟩
      next => exact ⟨_, settles_ofExcept _⟩

theorem exists_settles_checkExtension :
  ∃ b, Settles o (ProgramType.checkExtension (kernel settings script)) b
  := by
  apply (decides_load hpure ProgramType.extension.smallest 1).exists_settles_attempt
  · refine ⟨.ok (), ?_⟩
    intro program
    apply meets_ofExcept
    intro s _
    rfl
  · intro e
    dsimp only
    split
    next => exact ⟨_, settles_ofExcept _⟩
    next => exact ⟨_, settles_ofExcept _⟩

/-- The check for a type of programs. -/
theorem exists_settles_programType (t : ProgramType) :
  ∃ b, Settles o (ProgramType.check (kernel settings script) t) b
  := by
  cases t with
  | structOps => apply exists_settles_checkStructOps hpure
  | extension => apply exists_settles_checkExtension hpure
  | _ => apply exists_settles_checkProgram hpure

/-- The load that tells whether a helper can be called. -/
theorem exists_settles_tryLoad (call : HelperCall) :
  ∃ b, Settles o (HelperCall.tryLoad (kernel settings script) call) b
  := by
  apply (decides_load hpure call.spec 1).exists_settles_attempt
  · refine ⟨HelperCall.classifyLoad call.helper (.ok ()), ?_⟩
    intro program
    apply meets_ofExcept
    intro s _
    rfl
  · intro e
    exact ⟨_, settles_ofExcept _⟩

theorem decides_loadTrivial (t : ProgramType) (attachType : Option AttachType) :
  Decides o (AttachFeature.loadTrivial (kernel settings script) t attachType)
    fun fd s => s.IsProgram fd
  := by
  apply (decides_load hpure _ 0).attempt_bind
  · intro program
    apply meets_ofExcept
    rintro s ⟨fd, hfd, hprogram⟩
    exact ⟨fd, hfd, hprogram⟩
  · intro e
    exact .inl ⟨_, settles_ofExcept _⟩

theorem exists_settles_checkProgAttach :
  ∃ b, Settles o (AttachFeature.checkProgAttach (kernel settings script)) b
  := by
  apply (decides_loadTrivial hpure .cgroupSkb none).exists_settles_bind
  refine ⟨.ok (), ?_⟩
  intro fd
  apply meets_ofExcept
  intro s _
  rfl

theorem exists_settles_checkProgAttachReplace :
  ∃ b, Settles o (AttachFeature.checkProgAttachReplace (kernel settings script)) b
  := by
  apply exists_settles_bind (exists_settles_checkProgAttach hpure)
  intro _
  apply (decides_loadTrivial hpure .cgroupSkb (some .cgroupInetIngress)).exists_settles_bind
  refine ⟨AttachFeature.reached [Errno.einval] (some Errno.ebadf)
    (.error (.ofErrno Command.progAttach Errno.ebadf)), ?_⟩
  intro program
  refine Meets.attempt_bind (meets_attachProgram ?_ ?_) ?_
  · rfl
  · rfl
  · intro answer
    apply meets_ofExcept
    rintro s rfl
    rfl

/-- A request for a link that names a program which the check has loaded. -/
theorem exists_settles_loadAndTry {t : ProgramType} {attachType : Option AttachType}
    (request : LinkCreate)
    (hplace : ∀ s program, State.checkPlace s { request with program } = true)
    {next : Except Error Unit → Action (Machine η) Unit} (hnext : ∀ a, ∃ b, Settles o (next a) b) :
  ∃ b, Settles o (do
    let program ← AttachFeature.loadTrivial (kernel settings script) t attachType
    let answer ← AttachFeature.tryLink (kernel settings script)
      { request with program := program }
    next answer) b
  := by
  obtain ⟨answer, hanswer⟩ := exists_answer_tryLink (o := o) settings hpure request hplace
  obtain ⟨b, hb⟩ := hnext answer
  apply (decides_loadTrivial hpure t attachType).exists_settles_bind
  refine ⟨b, ?_⟩
  intro program
  apply Meets.bind (hanswer program)
  · intro answer'
    by_cases heq : answer' = answer
    · rw [heq]
      exact hb.meets
    · obtain ⟨c, hc⟩ := hnext answer'
      apply hc.takesSteps.meets
      intro s hok
      cases hok
      exact heq rfl
  · rintro e s ⟨⟩

/-- The check for a way to attach programs. -/
theorem exists_settles_attachment (feature : AttachFeature) :
  ∃ b, Settles o (AttachFeature.check (kernel settings script) feature) b
  := by
  cases feature with
  | progAttach => apply exists_settles_checkProgAttach hpure
  | progAttachReplace => apply exists_settles_checkProgAttachReplace hpure
  | bpfLink =>
      obtain ⟨b, hb⟩ := exists_answer_tryLink_nobody (o := o) settings hpure
        ⟨nobody, nowhere, .cgroupInetIngress, 0, .none⟩ fun s program => rfl
      apply exists_settles_bind ⟨_, hb⟩
      intro answer
      exact ⟨_, settles_ofExcept _⟩
  | progQuery =>
      apply exists_settles_attempt (exists_settles_queryPrograms hpure _)
      intro answer
      cases answer with
      | ok count => exact ⟨_, settles_ofExcept _⟩
      | error e =>
          dsimp only
          split
          next => exact ⟨_, settles_ofExcept _⟩
          next => exact ⟨_, settles_ofExcept _⟩
  | tcx =>
      apply exists_settles_loadAndTry hpure
        ⟨nobody, nowhere, .tcxIngress, 0, .ordered 0 0⟩ fun s program => rfl
      intro answer
      cases answer with
      | ok u => exact ⟨_, settles_ofExcept _⟩
      | error e => exact ⟨_, settles_ofExcept _⟩
  | netkit =>
      apply exists_settles_loadAndTry hpure
        ⟨nobody, nowhere, .netkitPrimary, 0, .ordered 0 0⟩ fun s program => rfl
      intro answer
      cases answer with
      | ok u => exact ⟨_, settles_ofExcept _⟩
      | error e => exact ⟨_, settles_ofExcept _⟩
  | kprobeMulti =>
      apply exists_settles_loadAndTry hpure ⟨nobody, 0, .traceKprobeMulti, 0,
        .kprobeMulti 0 [AttachFeature.probedSymbol] [] []⟩ fun s program => rfl
      intro answer
      exact ⟨_, settles_ofExcept _⟩
  | uprobeMulti =>
      apply exists_settles_loadAndTry hpure ⟨nobody, 0, .traceUprobeMulti, 0,
        .uprobeMulti AttachFeature.rootPath [0] [] [] 0 0⟩ fun s program => rfl
      intro answer
      exact ⟨_, settles_ofExcept _⟩

end Checks

end Memory

end Bpf
