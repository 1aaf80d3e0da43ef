import Bpf.Error

/-!
# Actions

An `Action σ α` runs on a state of type `σ`, which it may change whether it succeeds or fails, and
gives an `α` or an `Error`.  `onPart` runs a step on one part of a larger state, and `attempt` turns
failure into a value.
-/

namespace Bpf

/-- A computation on a state of type `σ` that may fail. -/
abbrev Action (σ : Type) := ExceptT Error (StateM σ)

/-- A way to look at a part of a state and to put another in its place. -/
structure Part (τ σ : Type) where
  /-- The part of the whole. -/
  get : τ → σ
  /-- The whole with another part. -/
  set : τ → σ → τ

namespace Part

/-- The first component of a pair. -/
def first (σ ρ : Type) : Part (σ × ρ) σ := ⟨Prod.fst, fun whole part => (part, whole.2)⟩

/-- The second component of a pair. -/
def second (σ ρ : Type) : Part (σ × ρ) ρ := ⟨Prod.snd, fun whole part => (whole.1, part)⟩

end Part

/-- A step on a part of a state, as a step on the whole. -/
def onPart {τ σ α : Type} (part : Part τ σ) (step : StateM σ α) : StateM τ α :=
  fun whole =>
    let (answer, inner) := step.run (part.get whole)
    (answer, part.set whole inner)

theorem run_onPart {τ σ α : Type} (part : Part τ σ) (step : StateM σ α) (whole : τ) :
  (onPart part step).run whole
    = ((step.run (part.get whole)).1, part.set whole (step.run (part.get whole)).2)
  := rfl

namespace Action

variable {σ τ α : Type}

/-- A step that cannot fail, as an action. -/
def ofStep (step : StateM σ α) : Action σ α := ExceptT.lift step

/-- An action on a part of a state, as an action on the whole. -/
def onPart (part : Part τ σ) (action : Action σ α) : Action τ α :=
  ExceptT.mk (Bpf.onPart part action.run)

/-- The answer of an action, failure included, as a value. -/
def attempt (action : Action σ α) : Action σ (Except Error α) := ExceptT.lift action.run

/-- The action that gives an answer or fails with an error. -/
def ofExcept (answer : Except Error α) : Action σ α := ExceptT.mk (pure answer)

/-! ### Running -/

section Run

variable {β : Type} {x : Action σ α} {f : α → Action σ β} {s s' : σ}

/-- After a success the rest goes on. -/
theorem run_bind_of_ok {a : α} (h : x.run.run s = (.ok a, s')) :
  (x >>= f).run.run s = (f a).run.run s'
  := by
  simp only [ExceptT.run_bind, StateT.run_bind, h]
  rfl

/-- After a failure there is no more to do. -/
theorem run_bind_of_error {e : Error} (h : x.run.run s = (.error e, s')) :
  (x >>= f).run.run s = (.error e, s')
  := by
  simp only [ExceptT.run_bind, StateT.run_bind, h]
  rfl

/-- An attempt goes on with the answer, failure included. -/
theorem run_attempt_bind {g : Except Error α → Action σ β} :
  (attempt x >>= g).run.run s = (g (x.run.run s).1).run.run (x.run.run s).2
  := rfl

/-- A step that cannot fail goes on with its answer. -/
theorem run_ofStep_bind {step : StateM σ α} :
  (ofStep step >>= f).run.run s = (f (step.run s).1).run.run (step.run s).2
  := rfl

/-- What has an answer already goes on with it. -/
theorem run_ofExcept_bind (answer : Except Error α) (f : α → Action σ β) (s : σ) :
  (ofExcept answer >>= f).run.run s
    = match answer with
      | .ok a => (f a).run.run s
      | .error e => (.error e, s)
  := by
  cases answer with
  | ok a => rfl
  | error e => rfl

theorem run_discard (x : Action σ α) (s : σ) :
  (Functor.discard x).run.run s = ((x.run.run s).1.map fun _ => (), (x.run.run s).2)
  := by
  rcases h : x.run.run s with ⟨e | a, s'⟩
  · exact run_bind_of_error h
  · exact run_bind_of_ok h

theorem run_onPart (part : Part τ σ) (action : Action σ α) (whole : τ) :
  (onPart part action).run.run whole
    = ((action.run.run (part.get whole)).1, part.set whole (action.run.run (part.get whole)).2)
  := rfl

/-- An action that succeeds after another one comes after a success. -/
theorem exists_of_run_bind_ok {b : β} (h : (x >>= f).run.run s = (.ok b, s')) :
  ∃ a t, x.run.run s = (.ok a, t) ∧ (f a).run.run t = (.ok b, s')
  := by
  rcases hrun : x.run.run s with ⟨e | a, t⟩
  · rw [run_bind_of_error hrun] at h
    cases h
  · rw [run_bind_of_ok hrun] at h
    exact ⟨a, t, rfl, h⟩

/-- An action that succeeds after an answer comes after a success. -/
theorem exists_of_run_ofExcept_bind_ok {answer : Except Error α} {b : β}
    (h : (ofExcept answer >>= f).run.run s = (.ok b, s')) :
  ∃ a, answer = .ok a ∧ (f a).run.run s = (.ok b, s')
  := by
  cases answer with
  | error e => cases h
  | ok a => exact ⟨a, rfl, h⟩

theorem run_ofExcept_eq_ok {answer : Except Error α} {a : α}
    (h : (ofExcept answer : Action σ α).run.run s = (.ok a, s')) :
  answer = .ok a ∧ s' = s
  := by
  cases h
  exact ⟨rfl, rfl⟩

theorem run_pure_eq_ok {a b : α} (h : (pure a : Action σ α).run.run s = (.ok b, s')) :
  b = a ∧ s' = s
  := by
  cases h
  exact ⟨rfl, rfl⟩

end Run

end Action

end Bpf
