import Bpf.Feature.Cache
import Bpf.Feature.ProgramTypes

/-!
# Probes for helper functions

Whether programs of a type may call a helper is tried on a program that calls it and does nothing
else.  The arguments of the call are never set, so the verifier refuses the program even if it knows
the helper; `classifyLoad` reads from the answer, and from the last lines of the log, what it was that
the verifier objected to.
-/

namespace Bpf

variable {σ : Type}

/-- A helper called from programs of a type. -/
structure HelperCall where
  programType : ProgramType
  helper : Helper
deriving DecidableEq

namespace HelperCall

/-- Programs of these types need a target before the verifier looks at their calls. -/
def isExcluded : ProgramType → Bool
  | .extension => true
  | .lsm => true
  | .structOps => true
  | .tracing => true
  | _ => false

/-- What the verifier says of a helper that other types of programs may call. -/
def wrongType : String := "program of this type cannot use helper"

/-- What the answer to the load of a program that calls `helper` says of the helper.  Access denied
means that the verifier knows the helper and has gone on to its arguments. -/
def classifyLoad (helper : Helper) : Except Error Unit → Except Error Unit
  | .ok () => .ok ()
  | .error (.verifier source log) =>
    if source.errno = some Errno.eacces then .ok ()
    else if source.errno = some Errno.einval then
      if logTellsAll log ["invalid func", helper.tag] then .error (.notSupported none)
      else if logTellsAll log [wrongType, helper.tag] || logTellsAll log ["unknown func"] then
        .error (.notSupported (some wrongType))
      else .error (.verifier source log)
    else .error (.verifier source log)
  | .error e => .error e

/-- The program that calls the helper. -/
def spec (call : HelperCall) : ProgramSpec :=
  minimalSpec call.programType
    (Insn.call call.helper :: (Insn.loadImm64 .result 0 ++ [Insn.exit]))

/-- Loads the program that calls the helper. -/
def tryLoad (K : Kernel σ) (call : HelperCall) : Action σ Unit := do
  let answer ← Action.attempt (Program.load K call.spec 1)
  Action.ofExcept (classifyLoad call.helper (answer.map fun _ => ()))

/-- The check for a call: first the type of program, whose verdict stands if it is not supported, and
then the load. -/
def check (types : Matrix ProgramType σ) (load : Action σ Unit) (call : HelperCall) :
    Action (Verdicts ProgramType × σ) Unit := do
  match ← Action.ofStep (types.result call.programType) with
  | .error e => throw (.feature e)
  | .ok () => Action.onPart (Part.second (Verdicts ProgramType) σ) load

theorem run_check (types : Matrix ProgramType σ) (load : Action σ Unit) (call : HelperCall)
    (s : Verdicts ProgramType × σ) :
  (check types load call).run.run s
    = match (types.result call.programType).run s with
      | (.error e, s') => (.error (.feature e), s')
      | (.ok (), s') => ((load.run.run s'.2).1, (s'.1, (load.run.run s'.2).2))
  := by
  rw [check, Action.run_ofStep_bind]
  rcases (types.result call.programType).run s with ⟨e | _, s'⟩
  · rfl
  · rfl

/-- The probe for a call. -/
def probe (types : Matrix ProgramType σ) (load : Action σ Unit) (call : HelperCall) :
    Probe (Verdicts ProgramType × σ) where
  name := s!"{call.helper.text} for {Code.text call.programType} program"
  version := none
  check := check types load call

/-- A call comes before another one in a report: by the type, then by the helper. -/
def isBefore (a b : HelperCall) : Bool :=
  Code.raw a.programType < Code.raw b.programType
    || (Code.raw a.programType = Code.raw b.programType && a.helper.id ≤ b.helper.id)

end HelperCall

end Bpf
