import Bpf.Assoc
import Bpf.Kernel
import Bpf.Table

/-!
# A kernel in memory

The state of a kernel that lives in memory: what each descriptor stands for, the programs, the links
and the pins.  An operation that fails keeps what it has changed until then, so what a failure leaves
behind depends on the order in which an operation checks and changes.  Links stay in their table until
they are taken out, and ids are given out by ascending number; an addition that goes beyond the largest
id stops the program.  Descriptors are opened on a device of the process that the kernel lives in, which
may fail.
-/

namespace Bpf.Memory

/-- What a descriptor stands for. -/
inductive Object where
  | program (id : UInt32) (programType : ProgramType) (attachType : Option AttachType)
  | link (id : UInt32)
  | map
deriving DecidableEq

/-- The kind of an object. -/
def Object.objectType : Object → ObjectType
  | .program .. => .program
  | .link _ => .link
  | .map => .map

/-- The hook of a netfilter link. -/
structure NetfilterHook where
  family : UInt32
  hook : UInt32
  priority : Int32
  flags : UInt32
deriving DecidableEq

/-- A link as the kernel keeps it. -/
structure LinkRecord where
  id : UInt32
  linkType : LinkType
  programId : UInt32
  attachType : AttachType
  /-- What the program is attached to: the number of an interface, a group, a type or a process. -/
  target : UInt32 := 0
  flags : UInt32 := 0
  /-- The number of probes. -/
  count : UInt32 := 0
  missed : UInt64 := 0
  netfilter : Option NetfilterHook := none
  detached : Bool := false
  /-- The link is listed, and gone when it is opened. -/
  released : Bool := false
deriving DecidableEq

/-- A link of the type that its attach type makes. -/
def LinkRecord.ofAttachType (id : UInt32) (attachType : AttachType) (programId : UInt32) :
    LinkRecord :=
  { id, linkType := attachType.linkType, programId, attachType }

/-- The state of a kernel in memory. -/
structure State where
  /-- The objects by their descriptor. -/
  objects : Assoc Descriptor Object := .empty
  /-- The types of the programs by id. -/
  programs : Table ProgramType := .empty
  /-- The links by id. -/
  links : Table LinkRecord := .empty
  /-- The pinned objects by the names on their path. -/
  pins : Assoc (List String) Object := .empty
  /-- How often each command was issued. -/
  calls : Assoc String Nat := .empty
  nextProgramId : UInt32 := 1
  nextLinkId : UInt32 := 1
  /-- How many descriptors have been opened. -/
  descriptorCount : Nat := 0
  /-- What fails when the device is opened, if it cannot be opened. -/
  device : Option IoError := none
  /-- There was no id to go on with, which has stopped the program.  Nothing depends on what is asked
  for from then on. -/
  stopped : Bool := false

/-- The largest id. -/
def lastId : UInt32 := 0xffffffff

/-- The descriptor that is opened after as many others.  The numbers below three are taken, and once
there are no larger ones left, those of closed descriptors come back. -/
def nthDescriptor (serial : Nat) : Descriptor := ⟨.ofNat (3 + serial % 0x7ffffffc), serial⟩

namespace State

/-! ### Tables -/

/-- How often a command was issued. -/
def callCount (s : State) (call : String) : Nat := (s.calls.get? call).getD 0

/-- The state after a command has been counted. -/
def counted (s : State) (call : String) : State :=
  { s with calls := s.calls.insert call (s.callCount call + 1) }

/-- What a descriptor stands for. -/
def object? (s : State) (fd : Descriptor) : Option Object := s.objects.get? fd

/-- What the latest descriptor with a number stands for. -/
def objectAt? (s : State) (number : UInt32) : Option Object :=
  (s.objects.entries.find? fun entry => entry.1.number = number).map Prod.snd

/-- The descriptor that is opened next. -/
def nextDescriptor (s : State) : Descriptor := nthDescriptor s.descriptorCount

/-- A new descriptor for an object. -/
def openObject (object : Object) : Action State Descriptor := do
  let s ← get
  match s.device with
  | some failure => throw (.io failure)
  | none =>
    set { s with
      objects := s.objects.insert s.nextDescriptor object
      descriptorCount := s.descriptorCount + 1 }
    return s.nextDescriptor

/-- What is thrown when the program stops. -/
def overflow : Error := .fatal "attempt to add with overflow"

/-- The id after the given one; there has to be one. -/
def idAfter (id : UInt32) : Action State UInt32 := do
  if id = lastId then
    modify fun s => { s with stopped := true }
    throw overflow
  return id + 1

/-- A link of which the kernel was told from elsewhere. -/
def insertLink (s : State) (link : LinkRecord) : State :=
  let next := if link.id = 0xffffffff then link.id else link.id + 1
  { s with
    nextLinkId := max s.nextLinkId next
    links := s.links.insert link.id link }

/-- The state without a link. -/
def removeLink (s : State) (id : UInt32) : State := { s with links := s.links.erase id }

/-- The state after a link is gone that is still listed. -/
def releaseLink (s : State) (id : UInt32) : State :=
  { s with links := s.links.modify id fun link => { link with released := true } }

/-! ### Looking things up -/

/-- The program behind a descriptor: its id, its type and its attach type. -/
def program (s : State) (call : String) (fd : Descriptor) :
    Except Error (UInt32 × ProgramType × Option AttachType) :=
  match s.object? fd with
  | some (.program id programType attachType) => .ok (id, programType, attachType)
  | some _ => .error (.ofErrno call Errno.einval)
  | none => .error (.ofErrno call Errno.ebadf)

/-- The id of the program behind a descriptor. -/
def programId (s : State) (call : String) (fd : Descriptor) : Except Error UInt32 :=
  return (← s.program call fd).1

/-- The id of the link behind a descriptor. -/
def linkId (s : State) (call : String) (fd : Descriptor) : Except Error UInt32 :=
  match s.object? fd with
  | some (.link id) => .ok id
  | some _ => .error (.ofErrno call Errno.einval)
  | none => .error (.ofErrno call Errno.ebadf)

/-- The link with an id; `missing` is the error number if there is none. -/
def record (s : State) (call : String) (missing : Errno) (id : UInt32) : Except Error LinkRecord :=
  match s.links.get? id with
  | some link => .ok link
  | none => .error (.ofErrno call missing)

/-! ### Programs -/

/-- Loads a program, which has to have instructions, and opens it. -/
def loadProgram (load : ProgramLoad) : Action State Descriptor := do
  if load.insns.isEmpty then throw (.ofErrno Command.progLoad Errno.einval)
  let id := (← get).nextProgramId
  let next ← idAfter id
  modify fun s => { s with nextProgramId := next, programs := s.programs.insert id load.programType }
  openObject (.program id load.programType load.attachType)

/-- Reports on a program. -/
def programInfo (fd : Descriptor) (s : State) : Except Error ProgramInfo := do
  let (id, programType, _) ← s.program Command.infoByFd fd
  return ⟨programType, id, ""⟩

/-- Attaches a program without a link, which leaves no trace. -/
def attachProgram (request : ProgramAttach) (s : State) : Except Error Unit := do
  let _ ← s.programId Command.progAttach request.program
  if request.target = 0xffffffff then throw (.ofErrno Command.progAttach Errno.ebadf)

/-- The number of programs attached to a target. -/
def queryPrograms (target : UInt32) (attachType : AttachType) (s : State) : Except Error UInt32 :=
  if target = 0xffffffff then .error (.ofErrno Command.progQuery Errno.ebadf)
  else
    let attached := s.links.values.filter fun link =>
      link.target = target && link.attachType = attachType && !link.detached
    .ok (UInt32.ofNat attached.length)

/-! ### New links -/

/-- Puts a new link into the table, under the next id, and opens it. -/
def addLink (link : UInt32 → LinkRecord) : Action State Descriptor := do
  let id := (← get).nextLinkId
  let next ← idAfter id
  modify fun s => { s with nextLinkId := next, links := s.links.insert id (link id) }
  openObject (.link id)

/-- The attach type of a program that is attached to a raw tracepoint, or to its own target. -/
def tracepointType (name : Option NulFree) (loaded : Option AttachType) :
    Except Error AttachType :=
  match name, loaded with
  | some _, _ => .ok .traceRawTp
  | none, some attachType => .ok attachType
  | none, none => .error (.ofErrno Command.rawTracepointOpen Errno.einval)

/-- Attaches a program to a raw tracepoint, or to its own target. -/
def openRawTracepoint (name : Option NulFree) (fd : Descriptor) : Action State Descriptor := do
  let (programId, _, loaded) ←
    Action.ofExcept ((← get).program Command.rawTracepointOpen fd)
  let attachType ← Action.ofExcept (tracepointType name loaded)
  addLink fun id => .ofAttachType id attachType programId

/-- The neighbour in a chain is there: zero is none, and the flags tell whether it is a link or a
program, by id or by descriptor. -/
def hasNeighbour (s : State) (flags relative : UInt32) : Bool :=
  if relative = 0 then true
  else
    match flags &&& Flag.id != 0, flags &&& Flag.link != 0 with
    | true, true => s.links.contains relative
    | true, false => s.programs.contains relative
    | false, true => (s.objectAt? relative).any fun o => o.objectType = .link
    | false, false => (s.objectAt? relative).any fun o => o.objectType = .program

/-- The link that a request makes. -/
def requested (request : LinkCreate) (programId id : UInt32) : LinkRecord :=
  let link : LinkRecord :=
    { LinkRecord.ofAttachType id request.attachType programId with
      target := request.target
      flags := request.flags }
  match request.extra with
  | .none => link
  | .perfEvent _ => link
  | .ordered _ _ => link
  | .targetBtfId btfId => { link with target := btfId }
  | .tracing btfId _ => { link with target := btfId }
  | .kprobeMulti flags symbols addresses _ =>
    { link with flags, count := UInt32.ofNat (max symbols.length addresses.length) }
  | .uprobeMulti _ offsets _ _ pid flags =>
    { link with flags, count := UInt32.ofNat offsets.length, target := pid }
  | .netfilter family hook priority flags =>
    { link with netfilter := some ⟨family, hook, priority, flags⟩ }

/-- The links of an attach type are made on an interface. -/
def isOnInterface (attachType : AttachType) : Bool :=
  match attachType.linkType with
  | .xdp => true
  | .tcx => true
  | .netkit => true
  | _ => false

/-- The place next to which a request wants its link is there. -/
def checkPlace (s : State) (request : LinkCreate) : Bool :=
  match request.extra with
  | .ordered relative _ => s.hasNeighbour request.flags relative
  | _ => true

/-- Makes a link. -/
def createLink (request : LinkCreate) : Action State Descriptor := do
  let s ← get
  let programId ← Action.ofExcept (s.programId Command.linkCreate request.program)
  if isOnInterface request.attachType && request.target = 0xffffffff then
    throw (.ofErrno Command.linkCreate Errno.enodev)
  if !s.checkPlace request then throw (.ofErrno Command.linkCreate Errno.enoent)
  addLink (requested request programId)

/-! ### Changes of links -/

/-- Replaces the program of a link, if need be only while the old one is attached. -/
def updateLink (link program : Descriptor) (old : Option Descriptor) : Action State Unit := do
  let s ← get
  let id ← Action.ofExcept (s.linkId Command.linkUpdate link)
  let new ← Action.ofExcept (s.programId Command.linkUpdate program)
  let expected ← Action.ofExcept (old.mapM fun fd => s.programId Command.linkUpdate fd)
  let record ← Action.ofExcept (s.record Command.linkUpdate Errno.enolink id)
  if record.detached then throw (.ofErrno Command.linkUpdate Errno.enolink)
  if expected.any (· ≠ record.programId) then throw (.ofErrno Command.linkUpdate Errno.eperm)
  set { s with links := s.links.insert id { record with programId := new } }

/-- Detaches the program of a link. -/
def detachLink (link : Descriptor) : Action State Unit := do
  let s ← get
  let id ← Action.ofExcept (s.linkId Command.linkDetach link)
  let record ← Action.ofExcept (s.record Command.linkDetach Errno.enolink id)
  set { s with links := s.links.insert id { record with detached := true } }

/-- The smallest id of a link above the given one; above the largest number it starts over with that
number. -/
def nextLinkIdFrom (start : UInt32) (s : State) : Option UInt32 :=
  s.links.firstFrom (if start = 0xffffffff then start else start + 1)

/-- Opens the link with an id, unless it is gone. -/
def openLink (id : UInt32) : Action State Descriptor := do
  let record ← Action.ofExcept ((← get).record Command.linkFdById Errno.enoent id)
  if record.released then throw (.ofErrno Command.linkFdById Errno.enoent)
  openObject (.link id)

/-! ### Pins -/

/-- Pins an object at a path that is free. -/
def pin (fd : Descriptor) (path : Path) : Action State Unit := do
  let s ← get
  match s.object? fd with
  | none => throw (.ofErrno Command.objPin Errno.ebadf)
  | some object =>
    if s.pins.contains path.components then throw (.ofErrno Command.objPin Errno.eexist)
    set { s with pins := s.pins.insert path.components object }

/-- Opens the object pinned at a path. -/
def openPin (path : Path) (flags : UInt32) : Action State Descriptor := do
  if flags &&& (0xffffffff ^^^ (Flag.readOnly ||| Flag.writeOnly)) ≠ 0 then
    throw (.ofErrno Command.objGet Errno.einval)
  match (← get).pins.get? path.components with
  | some object => openObject object
  | none => throw (.ofErrno Command.objGet Errno.enoent)

/-- Removes the pin at a path. -/
def removePin (path : Path) : StateM State (Except IoError Unit) := do
  let s ← get
  if s.pins.contains path.components then
    set { s with pins := s.pins.erase path.components }
    return .ok ()
  else return .error (.os Errno.enoent)

/-- What a descriptor stands for. -/
def objectType (fd : Descriptor) (s : State) : Except Error ObjectType :=
  match s.object? fd with
  | some object => .ok object.objectType
  | none => .error (.invalidInput s!"descriptor {fd.number} is not a BPF object")

end State

end Bpf.Memory
