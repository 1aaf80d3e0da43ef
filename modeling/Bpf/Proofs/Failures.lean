import Bpf.Proofs.Handles
import Bpf.Proofs.Scripted

/-!
# Operations that fail

A request that a kernel in memory answers with an error leaves no trace but the count of its command,
whether a script has refused it or the state does not allow it, as long as descriptors can be opened.
The operations check first and change afterwards (`Action.Refuses`), except that a new program and a new
link are recorded before they are opened.  An operation through a handle that fails leaves the handle
as it was, whatever the kernel is.
-/

namespace Bpf

variable {σ η α : Type}

/-- The answer of a kernel to a request is not an error. -/
def Kernel.succeeds (K : Kernel σ) (s : σ) : Request → Bool
  | .loadProgram load => ((K.loadProgram load).run.run s).1.isOk
  | .programInfo fd => ((K.programInfo fd).run.run s).1.isOk
  | .attachProgram attach => ((K.attachProgram attach).run.run s).1.isOk
  | .queryPrograms target attachType => ((K.queryPrograms target attachType).run.run s).1.isOk
  | .openRawTracepoint name fd => ((K.openRawTracepoint name fd).run.run s).1.isOk
  | .createLink create => ((K.createLink create).run.run s).1.isOk
  | .updateLink link fd old => ((K.updateLink link fd old).run.run s).1.isOk
  | .detachLink link => ((K.detachLink link).run.run s).1.isOk
  | .linkInfo link => ((K.linkInfo link).run.run s).1.isOk
  | .nextLinkId start => ((K.nextLinkId start).run.run s).1.isOk
  | .openLink id => ((K.openLink id).run.run s).1.isOk
  | .pin fd path => ((K.pin fd path).run.run s).1.isOk
  | .openPin path flags => ((K.openPin path flags).run.run s).1.isOk
  | .objectType fd => ((K.objectType fd).run.run s).1.isOk
  | .removePin path => ((K.removePin path).run s).1.isOk
  | .btfId name => ((K.btfId name).run.run s).1.isOk

/-! ### Requests -/

namespace Memory

namespace State

/-- Where the operation fails, although descriptors can be opened, it changes nothing, but it may stop
the program. -/
def FailsUnchanged (operation : Action State α) : Prop :=
  ∀ s e s', s.HasDescriptors → operation.run.run s = (.error e, s') → s' = s ∨ s' = s.halted

theorem failsUnchanged_of_refuses {operation : Action State α} (h : operation.Refuses) :
  FailsUnchanged operation
  := by
  intro s e s' hfd hrun
  exact .inl (h s e s' hrun)

/-- Once there is an id the program is recorded, and then it is opened too. -/
theorem failsUnchanged_loadProgram (load : ProgramLoad) :
  FailsUnchanged (loadProgram load)
  := by
  intro s e s' hfd hrun
  rw [run_loadProgram] at hrun
  split at hrun
  next =>
    cases hrun
    exact .inl rfl
  next =>
    split at hrun
    next =>
      cases hrun
      exact .inr rfl
    next =>
      rw [run_openObject (s := s.withProgram load.programType) _ hfd] at hrun
      cases hrun

theorem failsUnchanged_addLink (link : UInt32 → LinkRecord) :
  FailsUnchanged (addLink link)
  := by
  intro s e s' hfd hrun
  rw [run_addLink] at hrun
  split at hrun
  next =>
    cases hrun
    exact .inr rfl
  next =>
    rw [run_openObject (s := s.withLink (link s.nextLinkId)) _ hfd] at hrun
    cases hrun

theorem failsUnchanged_openRawTracepoint (name : Option NulFree) (program : Descriptor) :
  FailsUnchanged (openRawTracepoint name program)
  := by
  intro s e s' hfd hrun
  obtain ⟨e', hrefused⟩ | ⟨id, programType, loaded, attachType, -, -, hadd⟩ :=
    openRawTracepoint_cases name program s
  · rw [hrefused] at hrun
    cases hrun
    exact .inl rfl
  · rw [hadd] at hrun
    apply failsUnchanged_addLink _ s e s' hfd hrun

theorem failsUnchanged_createLink (request : LinkCreate) :
  FailsUnchanged (createLink request)
  := by
  intro s e s' hfd hrun
  obtain ⟨e', hrefused⟩ | ⟨id, programType, loaded, -, -, -, hadd⟩ := createLink_cases request s
  · rw [hrefused] at hrun
    cases hrun
    exact .inl rfl
  · rw [hadd] at hrun
    apply failsUnchanged_addLink _ s e s' hfd hrun

theorem uncounted_of_unchanged {s s' : State} (h : s' = s ∨ s' = s.halted) :
  s'.uncounted = s.uncounted
  := by
  rcases h with rfl | rfl
  · rfl
  · rfl

end State

namespace Machine

variable {call : String} {operation : Action State α} {m : Machine η}

/-- A request fails as its operation does. -/
theorem uncounted_of_failed (hunchanged : State.FailsUnchanged operation)
    (hfd : m.state.HasDescriptors)
    (h : ((do count call; change operation : Action (Machine η) α).run.run m).1.isOk = false) :
  ((do count call; change operation : Action (Machine η) α).run.run m).2.state.uncounted
    = m.state.uncounted
  := by
  rcases hrun : operation.run.run (m.state.counted call) with ⟨e | a, s'⟩
  · rw [run_request hrun]
    apply State.uncounted_of_unchanged (hunchanged (m.state.counted call) e s' hfd hrun)
  · rw [run_request hrun] at h
    cases h

/-- It makes no difference whether a script has refused a request or its operation has failed. -/
theorem uncounted_of_failed_permitted {ρ : Type} {hook : Option (ρ → Action η Unit)} {request : ρ}
    (hunchanged : State.FailsUnchanged operation) (hfd : m.state.HasDescriptors)
    (h : ((do count call; permit hook request; change operation :
      Action (Machine η) α).run.run m).1.isOk = false) :
  ((do count call; permit hook request; change operation :
    Action (Machine η) α).run.run m).2.state.uncounted = m.state.uncounted
  := by
  obtain ⟨e, script, hrun⟩ | ⟨script, hrun⟩ := run_permitted_cases call hook request operation m
  · rw [hrun]
    rfl
  · rw [hrun] at h ⊢
    rcases hanswer : operation.run.run (m.state.counted call) with ⟨e | a, s'⟩
    · apply State.uncounted_of_unchanged (hunchanged (m.state.counted call) e s' hfd hanswer)
    · rw [hanswer] at h
      cases h

/-- A pin that could not be removed was not there. -/
theorem uncounted_of_failed_removePin (settings : Settings) {path : Path}
    (h : (((kernel settings {}).removePin path).run m).1.isOk = false) :
  (((kernel settings {}).removePin path).run m).2.state.uncounted = m.state.uncounted
  := by
  rw [run_removePin] at h ⊢
  split at h
  next => cases h
  next hfree =>
    rw [if_neg hfree]
    rfl

/-- A request that fails although descriptors can be opened changes nothing but how often its command
was issued. -/
theorem uncounted_after_of_failed (settings : Settings) (script : Script η) {m : Machine η}
    (hfd : m.state.HasDescriptors) {request : Request}
    (h : (kernel settings script).succeeds m request = false) :
  ((kernel settings script).after m request).state.uncounted = m.state.uncounted
  := by
  cases request with
  | loadProgram load =>
      apply uncounted_of_failed_permitted (State.failsUnchanged_loadProgram load) hfd h
  | createLink create =>
      apply uncounted_of_failed_permitted (State.failsUnchanged_createLink create) hfd h
  | openRawTracepoint name fd =>
      apply uncounted_of_failed (State.failsUnchanged_openRawTracepoint name fd) hfd h
  | updateLink link fd old =>
      have hunchanged := State.failsUnchanged_of_refuses (State.refuses_updateLink link fd old)
      apply uncounted_of_failed hunchanged hfd h
  | detachLink link =>
      have hunchanged := State.failsUnchanged_of_refuses (State.refuses_detachLink link)
      apply uncounted_of_failed hunchanged hfd h
  | openLink id =>
      have hunchanged := State.failsUnchanged_of_refuses (State.refuses_openLink id)
      apply uncounted_of_failed hunchanged hfd h
  | pin fd path =>
      have hunchanged := State.failsUnchanged_of_refuses (State.refuses_pin fd path)
      apply uncounted_of_failed hunchanged hfd h
  | openPin path flags =>
      have hunchanged := State.failsUnchanged_of_refuses (State.refuses_openPin path flags)
      apply uncounted_of_failed hunchanged hfd h
  | removePin path => apply uncounted_of_failed_removePin settings h
  | queryPrograms target attachType =>
      simp only [Kernel.after, kernel]
      cases script.queryPrograms with
      | none => rfl
      | some f => rfl
  | nextLinkId start =>
      simp only [Kernel.after, kernel]
      cases script.nextLinkId with
      | none => rfl
      | some f => rfl
  -- The others look at the state and do not change it.
  | _ => rfl

end Machine

end Memory

/-! ### Handles -/

/-- An action that is given the first component of the state and works on the second one. -/
def Action.through {ρ : Type} (action : ρ → Action σ α) : Action (ρ × σ) Unit := do
  let handle := (← get).1
  discard (Action.onPart (Part.second ρ σ) (action handle))

theorem Action.run_through {ρ : Type} (action : ρ → Action σ α) (handle : ρ) (s : σ) :
  (through action).run.run (handle, s)
    = (((action handle).run.run s).1.map fun _ => (), (handle, ((action handle).run.run s).2))
  := run_discard (Action.onPart (Part.second ρ σ) (action handle)) (handle, s)

/-- Such an action does not touch the first component. -/
theorem Action.eq_of_run_through {ρ : Type} {action : ρ → Action σ α} {handle handle' : ρ} {s s' : σ}
    {answer : Except Error Unit}
    (h : (through action).run.run (handle, s) = (answer, (handle', s'))) :
  handle' = handle
  := by
  rw [run_through] at h
  cases h
  rfl

namespace Link

variable (K : Kernel σ) {link link' : Link} {s s' : σ} {e : Error}

/-- What can be done through a handle on a link. -/
inductive Use where
  | descriptor
  | info
  | id
  | pin (path : Path)
  | unpin
  | update (program : ProgramHandle)
  | replace (program old : ProgramHandle)
  | detach
  | close
  | intoDescriptor

/-- Does something through a handle on a link, on the handle together with the kernel's state. -/
def Use.run : Use → Action (Link × σ) Unit
  | .descriptor => Action.through fun link => Action.ofExcept link.descriptor
  | .info => Action.through (Link.info K)
  | .id => Action.through (Link.id K)
  | .pin path => Link.pin K path
  | .unpin => Link.unpin K
  | .update program => Action.through fun link => link.update K program
  | .replace program old => Action.through fun link => link.replace K program old
  | .detach => Action.through (Link.detach K)
  | .close => modify fun s => (s.1.close, s.2)
  | .intoDescriptor => Action.through fun link => Action.ofExcept link.intoDescriptor

theorem eq_of_failed_pin {path : Path}
    (h : (Link.pin K path).run.run (link, s) = (.error e, (link', s'))) :
  link' = link
  := by
  have hcases := handle_run_pin_cases K path link s
  rw [h] at hcases
  obtain hlink | ⟨-, hok, -⟩ := hcases
  · exact hlink
  · cases hok

theorem eq_of_failed_unpin (h : (Link.unpin K).run.run (link, s) = (.error e, (link', s'))) :
  link' = link
  := by
  have hcases := handle_run_unpin_cases K link s
  rw [h] at hcases
  obtain hlink | ⟨hok, -⟩ := hcases
  · exact hlink
  · cases hok

/-- A handle on a link is as it was after an operation through it that fails. -/
theorem Use.eq_of_failed {use : Use}
    (h : (use.run K).run.run (link, s) = (.error e, (link', s'))) :
  link' = link
  := by
  cases use with
  | pin path => apply eq_of_failed_pin K h
  | unpin => apply eq_of_failed_unpin K h
  | close => cases h
  | _ =>
      rw [Use.run] at h
      apply Action.eq_of_run_through h

end Link

namespace Program

/-- What can be done through a handle on a program. -/
inductive Use where
  | descriptor
  | info
  | id
  | pin (path : Path)
  | close

/-- Does something through a handle on a program, on the handle together with the kernel's state. -/
def Use.run (K : Kernel σ) : Use → Action (Program × σ) Unit
  | .descriptor => Action.through fun program => Action.ofExcept program.descriptor
  | .info => Action.through (Program.info K)
  | .id => Action.through (Program.id K)
  | .pin path => Action.through fun program => program.pin K path
  | .close => modify fun s => (s.1.close, s.2)

/-- A handle on a program is as it was after an operation through it that fails. -/
theorem Use.eq_of_failed {K : Kernel σ} {use : Use} {program program' : Program} {s s' : σ}
    {e : Error} (h : (use.run K).run.run (program, s) = (.error e, (program', s'))) :
  program' = program
  := by
  cases use with
  | close => cases h
  | _ =>
      rw [Use.run] at h
      apply Action.eq_of_run_through h

end Program

/-! ### Failures -/

open Memory

/-- What fails changes nothing.  A request to a kernel in memory in which descriptors can be opened,
with or without a script, leaves all of its state but the counts of commands as it was; that there is no
id to go on with stops the program, and changes nothing else.  An operation through a handle, on any
kernel, leaves the handle as it was. -/
theorem failure_changes_nothing :
  (∀ (settings : Settings) (script : Script η) (m : Machine η) (request : Request),
    m.state.HasDescriptors → (kernel settings script).succeeds m request = false →
    ((kernel settings script).after m request).state.uncounted = m.state.uncounted)
  ∧ (∀ (K : Kernel σ) (use : Link.Use) (link link' : Link) (s s' : σ) (e : Error),
    (use.run K).run.run (link, s) = (.error e, (link', s')) → link' = link)
  ∧ (∀ (K : Kernel σ) (use : Program.Use) (program program' : Program) (s s' : σ) (e : Error),
    (use.run K).run.run (program, s) = (.error e, (program', s')) → program' = program)
  := by
  refine ⟨?_, ?_, ?_⟩
  · intro settings script m request hfd h
    apply Machine.uncounted_after_of_failed settings script hfd h
  · intro K use link link' s s' e h
    apply Link.Use.eq_of_failed K h
  · intro K use program program' s s' e h
    apply Program.Use.eq_of_failed h

/-- A machine with a program behind its first descriptor and a link behind its second one, which is
pinned. -/
def pinnedOnce : Machine Unit :=
  let load : ProgramLoad := ⟨.xdp, none, none, [.exit], ⟨"MIT", nul_not_mem_mit⟩, "", 0, 0, 0⟩
  [Request.loadProgram load, .createLink ⟨nthDescriptor 0, 1, .xdp, 0, .none⟩,
    .pin (nthDescriptor 1) ⟨"/sys/fs/bpf/a"⟩].foldl (kernel {} {}).after (Machine.fresh ())

/-- A link that a script refuses, a link for which there is no device to open, and a pin at a path that
is taken.  Only the second one stays in the table. -/
theorem failure_changes_nothing_refused :
  let strict : Script Unit :=
    { createLink := some fun _ => throw (.ofErrno Command.linkCreate Errno.eperm) }
  let request : Request := .createLink ⟨nthDescriptor 0, 2, .xdp, 0, .none⟩
  let refused := (kernel {} strict).after pinnedOnce request
  let lost : Machine Unit :=
    { pinnedOnce with state := pinnedOnce.state.withoutDevice (.os Errno.enoent) }
  let link : Link := ⟨.xdp, some (nthDescriptor 1), none⟩
  let pinning := ((Link.Use.pin ⟨"/sys/fs/bpf//a"⟩).run (kernel {} {})).run.run (link, pinnedOnce)
  let program : Program := ⟨some (nthDescriptor 0), .xdp⟩
  let pinningProgram :=
    ((Program.Use.pin ⟨"/sys/fs/bpf/a"⟩).run (kernel {} {})).run.run (program, pinnedOnce)
  pinnedOnce.state.HasDescriptors
    ∧ (kernel {} strict).succeeds pinnedOnce request = false
    ∧ refused.state.uncounted = pinnedOnce.state.uncounted
    ∧ refused.state.callCount Command.linkCreate = 2
    ∧ (kernel {} {}).succeeds lost request = false
    ∧ ((kernel {} {}).after lost request).state.links.keys = [1, 2]
    ∧ pinning.1 = .error (.ofErrno Command.objPin Errno.eexist)
    ∧ pinning.2.1 = link
    ∧ pinningProgram.1 = .error (.ofErrno Command.objPin Errno.eexist)
    ∧ pinningProgram.2.1 = program
  := by
  intro strict request refused lost link pinning program pinningProgram
  obtain ⟨hrequests, hlinks, hprograms⟩ := failure_changes_nothing (η := Unit) (σ := Machine Unit)
  have hfd : pinnedOnce.state.HasDescriptors := by decide +kernel
  have hrefused : (kernel {} strict).succeeds pinnedOnce request = false := by decide +kernel
  have hpinning : pinning.1 = .error (.ofErrno Command.objPin Errno.eexist) := by decide +kernel
  have hprogram : pinningProgram.1 = .error (.ofErrno Command.objPin Errno.eexist) := by
    decide +kernel
  have hunchanged := hrequests {} strict pinnedOnce request hfd hrefused
  refine ⟨hfd, hrefused, hunchanged, ?_, ?_, ?_, hpinning, ?_, hprogram, ?_⟩
  · decide +kernel
  · decide +kernel
  · decide +kernel
  · apply hlinks (kernel {} {}) (.pin ⟨"/sys/fs/bpf//a"⟩)
    apply Prod.ext hpinning rfl
  · apply hprograms (kernel {} {}) (.pin ⟨"/sys/fs/bpf/a"⟩)
    apply Prod.ext hprogram rfl

end Bpf
