import Bpf.Link.Info
import Bpf.Program

/-!
# Links

A `Link` is a handle on an attachment of a program to a hook: the type of the link, the descriptor
until the handle is closed, and the path under which the handle has last pinned the link or found it.
Operations that change the handle run on the handle together with the kernel's state, and change the
handle only if they succeed.
-/

namespace Bpf

variable {σ : Type}

/-- A handle on a link. -/
structure Link where
  linkType : LinkType
  /-- The descriptor, until the handle is closed. -/
  fd : Option Descriptor
  /-- The path at which the link is pinned, as far as the handle knows. -/
  pinned : Option Path
deriving DecidableEq

namespace Link

/-! ### The kernel's report -/

/-- The report in the kernel's reply on a link; a reply without an id breaks the contract. -/
def readInfo (raw : RawLinkInfo) : Except Error LinkInfo :=
  match LinkInfo.decode raw with
  | some info => .ok info
  | none => .error (.fatal s!"link info truncated to {raw.length} bytes")

/-- What the kernel reports about the link behind a descriptor. -/
def queryInfo (K : Kernel σ) (fd : Descriptor) : Action σ LinkInfo := do
  Action.ofExcept (readInfo (← K.linkInfo fd))

/-- The handle that owns a descriptor, with the path at which the link was found. -/
def ofDescriptor (K : Kernel σ) (fd : Descriptor) (pinned : Option Path) : Action σ Link := do
  let info ← queryInfo K fd
  return ⟨info.linkType, some fd, pinned⟩

/-- Opens the link pinned at a path. -/
def loadPinned (K : Kernel σ) (path : Path) (flags : UInt32) : Action σ Link := do
  Pin.check path
  let fd ← K.openPin path flags
  ofDescriptor K fd (some path)

/-- What an operation on a closed handle is answered. -/
def closed : Error := .invalidInput "link is closed"

/-- The descriptor of an open handle. -/
def descriptor (l : Link) : Except Error Descriptor :=
  match l.fd with
  | some fd => .ok fd
  | none => .error closed

/-- What the kernel reports about the link. -/
def info (K : Kernel σ) (l : Link) : Action σ LinkInfo := do
  queryInfo K (← Action.ofExcept l.descriptor)

/-- The id that the kernel gave the link. -/
def id (K : Kernel σ) (l : Link) : Action σ UInt32 := return (← l.info K).id

/-! ### Pins -/

/-- The link is pinned, as far as the handle knows. -/
def isPinned (l : Link) : Bool := l.pinned.isSome

/-- The path is the one that the handle has recorded. -/
def isPinnedAt (l : Link) (path : Path) : Bool := l.pinned.any (·.same path)

/-- Pins the link and records the path.  At the recorded path there is nothing to do. -/
def pin (K : Kernel σ) (path : Path) : Action (Link × σ) Unit := do
  Pin.check path
  let l := (← get).1
  if l.isPinnedAt path then return
  let fd ← Action.ofExcept l.descriptor
  Action.onPart (Part.second Link σ) (Pin.add K fd path)
  modify fun s => ({ s.1 with pinned := some path }, s.2)

/-- Removes the recorded pin, if there is one. -/
def unpin (K : Kernel σ) : Action (Link × σ) Unit := do
  match (← get).1.pinned with
  | none => return
  | some path =>
    Action.onPart (Part.second Link σ) (Pin.remove K path)
    modify fun s => ({ s.1 with pinned := none }, s.2)

/-! ### The attached program -/

/-- The descriptor of the program that an operation is given. -/
def needProgram (what : String) (program : ProgramHandle) : Except Error Descriptor :=
  match program with
  | some fd => .ok fd
  | none => .error (.invalidInput s!"{what} is closed")

/-- Attaches another program in place of the present one. -/
def update (K : Kernel σ) (l : Link) (program : ProgramHandle) : Action σ Unit := do
  let program ← Action.ofExcept (needProgram "update link: program" program)
  K.updateLink (← Action.ofExcept l.descriptor) program none

/-- Attaches another program, if the present one is still `old`. -/
def replace (K : Kernel σ) (l : Link) (program old : ProgramHandle) : Action σ Unit := do
  let program ← Action.ofExcept (needProgram "replace link: program" program)
  let old ← Action.ofExcept (needProgram "replace link: old program" old)
  K.updateLink (← Action.ofExcept l.descriptor) program (some old)

/-- Detaches the program; the link and its pins stay. -/
def detach (K : Kernel σ) (l : Link) : Action σ Unit := do
  K.detachLink (← Action.ofExcept l.descriptor)

/-! ### Printing -/

/-- What the handle itself knows of the link. -/
def toJson (l : Link) : Json :=
  .object
    [ ("link_type", .string (Code.text l.linkType)),
      ("pinned", Json.optional (fun p : Path => .string p.text) l.pinned) ]

/-! ### The end of a handle -/

/-- The handle without its descriptor. -/
def close (l : Link) : Link := { l with fd := none }

/-- The descriptor, which the handle gives up. -/
def intoDescriptor (l : Link) : Except Error Descriptor := l.descriptor

end Link

end Bpf
