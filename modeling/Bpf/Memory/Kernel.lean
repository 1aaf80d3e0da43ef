import Bpf.Memory.Report

/-!
# The kernel in memory

`Memory.kernel` answers requests from a `Memory.State`.  A script may answer in its place: it may
refuse programs and links, and replace the answers on ids and on attached programs.  The state of the
script is carried along with that of the kernel.
-/

namespace Bpf.Memory

variable {η α : Type}

/-- Answers in place of the kernel, on a state of type `η`. -/
structure Script (η : Type) where
  /-- A program may be loaded. -/
  loadProgram : Option (ProgramLoad → Action η Unit) := none
  /-- A link may be made. -/
  createLink : Option (LinkCreate → Action η Unit) := none
  /-- The id after the given one. -/
  nextLinkId : Option (UInt32 → Action η (Option UInt32)) := none
  /-- The number of programs attached to a target. -/
  queryPrograms : Option (UInt32 → AttachType → Action η UInt32) := none

/-- What a kernel in memory is made with. -/
structure Settings where
  /-- The ids of the kernel's functions by name.  A kernel without any of them has no information on
  types. -/
  btf : List (String × UInt32) := []
  /-- How many bytes of a reply on a link the kernel fills in, unless all of them. -/
  infoLength : Option Nat := none
  logSize : Nat := defaultLogSize

/-- The state of a kernel in memory with that of its script. -/
structure Machine (η : Type) where
  state : State
  script : η

namespace Machine

/-- The state of the kernel. -/
def statePart : Part (Machine η) State where
  get machine := machine.state
  set machine state := { machine with state }

/-- The state of the script. -/
def scriptPart : Part (Machine η) η where
  get machine := machine.script
  set machine script := { machine with script }

/-- Counts a command. -/
def count (call : String) : Action (Machine η) Unit :=
  modify fun machine => { machine with state := machine.state.counted call }

/-- An operation on the state of the kernel. -/
def change (operation : Action State α) : Action (Machine η) α :=
  Action.onPart statePart operation

/-- An operation that only looks at the state of the kernel. -/
def look (answer : State → Except Error α) : Action (Machine η) α := do
  Action.ofExcept (answer (← get).state)

theorem run_change (operation : Action State α) (m : Machine η) :
  (change operation).run.run m
    = ((operation.run.run m.state).1, { m with state := (operation.run.run m.state).2 })
  := rfl

/-- Lets a script refuse a request. -/
def permit {ρ : Type} (script : Option (ρ → Action η Unit)) (request : ρ) :
    Action (Machine η) Unit :=
  match script with
  | some f => Action.onPart scriptPart (f request)
  | none => pure ()

end Machine

open Machine

/-- The id of a function of the kernel. -/
def btfId (btf : List (String × UInt32)) (name : String) : Except Error UInt32 :=
  if btf.isEmpty then .error (.notSupported (some "kernel BTF"))
  else
    match btf.reverse.find? (fun entry => entry.1 = name) with
    | some entry => .ok entry.2
    | none => .error (.notFound s!"BTF type {name}")

/-- The kernel in memory. -/
def kernel (settings : Settings) (script : Script η) : Kernel (Machine η) where
  logSize _ := settings.logSize
  loadProgram load := do
    count Command.progLoad
    permit script.loadProgram load
    change (State.loadProgram load)
  programInfo fd := look (State.programInfo fd)
  attachProgram request := do
    count Command.progAttach
    look (State.attachProgram request)
  queryPrograms target attachType := do
    count Command.progQuery
    match script.queryPrograms with
    | some f => Action.onPart scriptPart (f target attachType)
    | none => look (State.queryPrograms target attachType)
  openRawTracepoint name program := do
    count Command.rawTracepointOpen
    change (State.openRawTracepoint name program)
  createLink request := do
    count Command.linkCreate
    permit script.createLink request
    change (State.createLink request)
  updateLink link program old := do
    count Command.linkUpdate
    change (State.updateLink link program old)
  detachLink link := do
    count Command.linkDetach
    change (State.detachLink link)
  linkInfo link := do
    count Command.infoByFd
    look (State.linkInfo settings.infoLength link)
  nextLinkId start := do
    count Command.linkNextId
    match script.nextLinkId with
    | some f => Action.onPart scriptPart (f start)
    | none => look fun s => .ok (s.nextLinkIdFrom start)
  openLink id := do
    count Command.linkFdById
    change (State.openLink id)
  pin fd path := do
    count Command.objPin
    change (State.pin fd path)
  openPin path flags := do
    count Command.objGet
    change (State.openPin path flags)
  objectType fd := look (State.objectType fd)
  removePin path := do
    modify fun machine => { machine with state := machine.state.counted Command.unlink }
    onPart statePart (State.removePin path)
  btfId name := Action.ofExcept (btfId settings.btf name)

end Bpf.Memory
