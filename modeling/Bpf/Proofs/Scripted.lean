import Bpf.Proofs.Reachable

/-!
# Kernels in memory with a script

A script may refuse a request or answer in place of the kernel, and has a state of its own.  On the
state of the kernel it can do no more than keep an operation from being carried out, so a kernel with
a script takes the same steps as one without.
-/

namespace Bpf

variable {η α : Type}

/-- A script has a say in the answer to the request. -/
def Request.IsScripted : Request → Prop
  | .loadProgram _ => True
  | .createLink _ => True
  | .queryPrograms _ _ => True
  | .nextLinkId _ => True
  | _ => False

namespace Memory

/-! ### Requests that a script may refuse -/

namespace Machine

variable {call : String} {ρ : Type} {hook : Option (ρ → Action η Unit)} {request : ρ}
variable {operation : Action State α} {m m' : Machine η}

/-- A script changes its own state and nothing else. -/
theorem state_permit (hook : Option (ρ → Action η Unit)) (request : ρ) (m : Machine η) :
  ((permit hook request).run.run m).2.state = m.state
  := by
  cases hook with
  | none => rfl
  | some f => rfl

/-- A request that a script may refuse ends once it has been counted, or its operation is carried
out. -/
theorem run_permitted_cases (call : String) (hook : Option (ρ → Action η Unit)) (request : ρ)
    (operation : Action State α) (m : Machine η) :
  let run :=
    ((do count call; permit hook request; change operation : Action (Machine η) α)).run.run m
  (∃ e script, run = (.error e, ⟨m.state.counted call, script⟩))
    ∨ ∃ script, run
      = ((operation.run.run (m.state.counted call)).1,
          ⟨(operation.run.run (m.state.counted call)).2, script⟩)
  := by
  intro run
  have hstate := state_permit hook request (m.counted call)
  have hrun : run = ((permit hook request >>= fun _ => change operation :
    Action (Machine η) α)).run.run (m.counted call) := rfl
  rw [hrun]
  rcases hpermit : (permit hook request).run.run (m.counted call) with ⟨e | u, state, script⟩
  · rw [hpermit] at hstate
    cases hstate
    left
    rw [Action.run_bind_of_error hpermit]
    exact ⟨e, script, rfl⟩
  · rw [hpermit] at hstate
    cases hstate
    right
    rw [Action.run_bind_of_ok hpermit]
    exact ⟨script, rfl⟩

/-- A request that succeeds has been let pass, and its operation has been carried out. -/
theorem run_permitted_eq_ok {answer : α}
    (h : ((do count call; permit hook request; change operation : Action (Machine η) α)).run.run m
      = (.ok answer, m')) :
  operation.run.run (m.state.counted call) = (.ok answer, m'.state)
  := by
  obtain ⟨e, script, hrun⟩ | ⟨script, hrun⟩ := run_permitted_cases call hook request operation m
  · rw [hrun] at h
    cases h
  · rw [hrun] at h
    obtain ⟨hanswer, rfl⟩ := Prod.mk.inj h
    exact Prod.ext hanswer rfl

/-- What holds once a request has been counted, and after its operation too, holds after the request,
whether or not a script lets it pass. -/
theorem holds_permitted {P : State → Prop} (hcount : P (m.state.counted call))
    (hoperation : P (operation.run.run (m.state.counted call)).2) :
  P (((do count call; permit hook request; change operation :
    Action (Machine η) α)).run.run m).2.state
  := by
  obtain ⟨e, script, hrun⟩ | ⟨script, hrun⟩ := run_permitted_cases call hook request operation m
  · rw [hrun]
    exact hcount
  · rw [hrun]
    exact hoperation

/-- Where a script has no say the kernel does what it does without one. -/
theorem after_of_not_isScripted (settings : Settings) (script : Script η) (m : Machine η)
    {request : Request} (h : ¬ request.IsScripted) :
  (kernel settings script).after m request = (kernel settings {}).after m request
  := by
  cases request with
  | loadProgram => exact absurd trivial h
  | createLink => exact absurd trivial h
  | queryPrograms => exact absurd trivial h
  | nextLinkId => exact absurd trivial h
  | _ => rfl

/-- Whatever is asked of a kernel with a script, its state takes steps. -/
theorem steps_afterUnder (settings : Settings) (script : Script η) (m : Machine η)
    (request : Request) :
  State.Steps m.state ((kernel settings script).after m request).state
  := by
  have hcount (call : String) : State.Steps m.state (m.state.counted call) :=
    Relation.ReflTransGen.single (State.Step.count call)
  cases request with
  | loadProgram load =>
      apply holds_permitted (P := State.Steps m.state) (hcount Command.progLoad)
      apply State.steps_loadProgram
  | createLink create =>
      apply holds_permitted (P := State.Steps m.state) (hcount Command.linkCreate)
      apply (hcount Command.linkCreate).trans
      apply State.steps_createLink
  | queryPrograms target attachType =>
      have hstate : ((kernel settings script).after m (.queryPrograms target attachType)).state
          = m.state.counted Command.progQuery := by
        simp only [Kernel.after, kernel]
        cases script.queryPrograms with
        | none => rfl
        | some f => rfl
      rw [hstate]
      apply hcount
  | nextLinkId start =>
      have hstate : ((kernel settings script).after m (.nextLinkId start)).state
          = m.state.counted Command.linkNextId := by
        simp only [Kernel.after, kernel]
        cases script.nextLinkId with
        | none => rfl
        | some f => rfl
      rw [hstate]
      apply hcount
  | _ =>
      rw [after_of_not_isScripted settings script m (by intro h; exact h)]
      apply steps_after

end Machine

/-! ### Events -/

/-- The kernel after an event, with a script that may refuse requests or answer them. -/
def Event.applyUnder (settings : Settings) (script : Script η) (m : Machine η) (event : Event) :
    Machine η :=
  match event with
  | .request r => (kernel settings script).after m r
  | _ => event.apply settings m

theorem Event.steps_applyUnder (settings : Settings) (script : Script η) (m : Machine η)
    {event : Event} (h : event.KeepsLinks) :
  State.Steps m.state (event.applyUnder settings script m).state
  := by
  cases event with
  | request r => apply Machine.steps_afterUnder
  | _ => apply Event.steps_apply settings m h

/-- An event takes the state steps further, or takes a link out. -/
theorem Event.applyUnder_cases (settings : Settings) (script : Script η) (m : Machine η)
    (event : Event) :
  State.Steps m.state (event.applyUnder settings script m).state
    ∨ ∃ id, (event.applyUnder settings script m).state = m.state.removeLink id
  := by
  by_cases hkeeps : event.KeepsLinks
  · apply Or.inl (Event.steps_applyUnder settings script m hkeeps)
  · cases event with
    | removeLink id => exact Or.inr ⟨id, rfl⟩
    | _ => exact absurd trivial hkeeps

theorem Event.valid_applyUnder (settings : Settings) (script : Script η) {m : Machine η}
    (h : m.state.Valid) (event : Event) :
  (event.applyUnder settings script m).state.Valid
  := by
  obtain hsteps | ⟨id, hremoved⟩ := event.applyUnder_cases settings script m
  · apply h.steps hsteps
  · rw [hremoved]
    apply h.removeLink

/-! ### States that can be reached -/

namespace Machine

variable {settings : Settings} {script : Script η} {m : Machine η}

/-- A state that a kernel with a script can reach, whatever is asked of it and whatever links come and go
elsewhere. -/
inductive ReachableUnder (settings : Settings) (script : Script η) : Machine η → Prop
  | fresh (state : η) : ReachableUnder settings script (Machine.fresh state)
  | after {m : Machine η} (hm : ReachableUnder settings script m) (event : Event) :
    ReachableUnder settings script (event.applyUnder settings script m)

theorem ReachableUnder.valid (h : m.ReachableUnder settings script) :
  m.state.Valid
  := by
  induction h with
  | fresh state => apply State.valid_initial
  | after hm event ih => apply event.valid_applyUnder settings script ih

theorem ReachableUnder.foldl (h : m.ReachableUnder settings script) (events : List Event) :
  (events.foldl (Event.applyUnder settings script) m).ReachableUnder settings script
  := by
  induction events generalizing m with
  | nil => exact h
  | cons event events ih => exact ih (h.after event)

end Machine

end Memory

end Bpf
