import Bpf.Link.Info
import Bpf.Linux.Attr
import Bpf.Linux.Log

/-!
# The Linux kernel

`Linux.kernel` makes requests by the system call `bpf`.  A `System` is what the operating system
answers, on a state of its own; this module says how each request is laid out and how each answer is
read: which answers are descriptors, which error comes with a log, and what the bytes of a report
mean.
-/

namespace Bpf.Linux

variable {σ : Type}

/-- What the system call leaves behind. -/
structure Reply where
  /-- The result of the call, or its error number. -/
  result : Except Errno Nat
  /-- What is written to the buffer for the log. -/
  log : List UInt8 := []
  /-- What is written to the buffer for a report. -/
  info : List UInt8 := []
  /-- The length of the report, if the kernel sets it. -/
  infoLength : Option UInt32 := none
  programCount : UInt32 := 0
  nextId : UInt32 := 0

/-- What the kernel's information on types says about a function. -/
inductive BtfAnswer where
  /-- The kernel has none. -/
  | absent
  | unreadable (message : String)
  | unknown
  | found (id : UInt32)
deriving DecidableEq

/-- What the operating system answers. -/
structure System (σ : Type) where
  /-- The system call. -/
  bpf : Attr → StateM σ Reply
  /-- What the link of a descriptor in the file system for processes points to. -/
  readLink : Descriptor → StateM σ (Except IoError (List UInt8))
  /-- Removes a file. -/
  unlink : NulFree → StateM σ (Except Errno Unit)
  /-- The id of a function of the kernel. -/
  btf : String → StateM σ BtfAnswer
  /-- The index of an interface, or zero. -/
  interfaceIndex : NulFree → StateM σ UInt32

/-! ### Answers -/

/-- The result of a call, or its error number as the failure of its command. -/
def checked (attr : Attr) (reply : Reply) : Except Error Nat :=
  match reply.result with
  | .ok n => .ok n
  | .error errno => .error (.ofErrno attr.command errno)

/-- The greatest number of a descriptor. -/
def maxDescriptor : Nat := 0x7fffffff

/-- The descriptor that a call has returned. -/
def returned (attr : Attr) (n : Nat) : Except Error Descriptor :=
  if n ≤ maxDescriptor then .ok { number := UInt32.ofNat n }
  else .error (.fatal s!"{attr.command} returned descriptor {n}")

/-- A buffer of zeros into which bytes have been written. -/
def written (size : Nat) (bytes : List UInt8) : List UInt8 :=
  let kept := bytes.take size
  kept ++ List.replicate (size - kept.length) 0

/-- Makes a call. -/
def call (S : System σ) (attr : Attr) : Action σ Reply := do
  let reply ← Action.ofStep (S.bpf attr)
  let _ ← Action.ofExcept (checked attr reply)
  return reply

/-- Makes a call that returns a descriptor. -/
def callForDescriptor (S : System σ) (attr : Attr) : Action σ Descriptor := do
  let reply ← Action.ofStep (S.bpf attr)
  let n ← Action.ofExcept (checked attr reply)
  Action.ofExcept (returned attr n)

/-- A path for the kernel. -/
def kernelPath (path : Path) : Except Error NulFree :=
  match NulFree.ofString? path.text with
  | some p => .ok p
  | none => .error (.invalidInput s!"path contains a NUL byte: {path.text}")

/-! ### Programs -/

/-- The room for a log: none unless a log is asked for. -/
def logRoom (load : ProgramLoad) : Nat := if load.logLevel > 0 then load.logSize else 0

/-- The arguments for the load of a program. -/
def progLoadAttr (load : ProgramLoad) : ProgLoadAttr :=
  let hasLog := logRoom load ≠ 0
  { programType := Code.raw load.programType
    insnCount := UInt32.ofNat load.insns.length
    insns := load.insns
    license := load.license
    flags := load.flags
    name := objectName load.name
    attachType := (load.attachType.map Code.raw).getD 0
    attachBtfId := load.btfId.getD 0
    logLevel := if hasLog then load.logLevel else 0
    logSize := UInt32.ofNat (logRoom load)
    hasLog }

/-- What a failed load means: with something in the log it is the verifier's verdict. -/
def loadFailure (load : ProgramLoad) (errno : Errno) (log : List UInt8) : Error :=
  match logLines (log.take (logRoom load)) with
  | [] => .ofErrno Command.progLoad errno
  | lines => .verifier (.os errno) lines

/-- Loads a program. -/
def loadProgram (S : System σ) (load : ProgramLoad) : Action σ Descriptor := do
  let attr := Attr.progLoad (progLoadAttr load)
  let reply ← Action.ofStep (S.bpf attr)
  match reply.result with
  | .ok n => Action.ofExcept (returned attr n)
  | .error errno => throw (loadFailure load errno reply.log)

/-- The size of a report on a program. -/
def programInfoSize : Nat := 232

/-- Where the name is in a report on a program. -/
def programNameOffset : Nat := 64

/-- A report on a program. -/
def readProgramInfo (info : List UInt8) : ProgramInfo :=
  let bytes := written programInfoSize info
  { programType := Code.ofRaw (word32At bytes 0)
    id := word32At bytes 4
    name := nameString ((bytes.drop programNameOffset).take nameSize) }

/-! ### Links -/

/-- The report in a reply on a link. -/
def readLinkInfo (reply : Reply) : RawLinkInfo :=
  let length := (reply.infoLength.map UInt32.toNat).getD LinkInfo.size
  ⟨written LinkInfo.size reply.info, min length LinkInfo.size⟩

/-- The id in the answer to a question for the next one: that there is none is no failure. -/
def readNextId (reply : Reply) : Except Error (Option UInt32) :=
  match reply.result with
  | .ok _ => .ok (some reply.nextId)
  | .error errno =>
    if errno = Errno.enoent then .ok none else .error (.ofErrno Command.linkNextId errno)

/-- The arguments for another program of a link. -/
def linkUpdateAttr (link program : Descriptor) (old : Option Descriptor) : Attr :=
  match old with
  | none => .linkUpdate link.number program.number 0 0
  | some old => .linkUpdate link.number program.number Flag.replace old.number

/-! ### Descriptors, files and names -/

/-- What a descriptor stands for, from what its link in the file system for processes points to. -/
def readObjectType (fd : Descriptor) (target : List UInt8) : Except Error ObjectType :=
  let text := Text.decodeLossy target
  if text = "anon_inode:bpf-link" then .ok .link
  else if text = "anon_inode:bpf-prog" then .ok .program
  else if text = "anon_inode:bpf-map" then .ok .map
  else .error (.invalidInput s!"descriptor {fd.number} is not a BPF object ({text})")

/-- The id of a function of the kernel. -/
def readBtf (name : String) : BtfAnswer → Except Error UInt32
  | .absent => .error (.notSupported (some "kernel BTF"))
  | .unreadable message => .error (.btf s!"parse /sys/kernel/btf/vmlinux: {message}")
  | .unknown => .error (.notFound s!"BTF type {name}")
  | .found id => .ok id

/-- Removes a file. -/
def removeFile (S : System σ) (path : Path) : StateM σ (Except IoError Unit) := do
  match NulFree.ofString? path.text with
  | none => return .error .nulInFileName
  | some p =>
    match ← S.unlink p with
    | .ok () => return .ok ()
    | .error errno => return .error (.os errno)

/-- The index of an interface. -/
def interfaceIndex (S : System σ) (name : String) : Action σ UInt32 := do
  match NulFree.ofString? name with
  | none => throw (.invalidInput s!"interface name contains a NUL byte: {Text.quote name}")
  | some n =>
    let index ← Action.ofStep (S.interfaceIndex n)
    if index = 0 then throw (.notFound s!"network interface {name}")
    return index

/-! ### The kernel -/

/-- The Linux kernel, with room for a log as given. -/
def kernel (S : System σ) (logSize : Nat) : Kernel σ where
  logSize _ := logSize
  loadProgram := loadProgram S
  programInfo fd := do
    let reply ← call S (.infoByFd fd.number (UInt32.ofNat programInfoSize))
    return readProgramInfo reply.info
  attachProgram request := do
    let _ ← call S (.progAttach request.target request.program.number (Code.raw request.attachType)
      request.flags request.replace)
  queryPrograms target attachType := do
    return (← call S (.progQuery target (Code.raw attachType))).programCount
  openRawTracepoint name program := callForDescriptor S (.rawTracepointOpen name program.number)
  createLink request := callForDescriptor S (.linkCreate (linkCreateAttr request))
  updateLink link program old := do
    let _ ← call S (linkUpdateAttr link program old)
  detachLink link := do
    let _ ← call S (.linkDetach link.number)
  linkInfo link := do
    return readLinkInfo (← call S (.infoByFd link.number (UInt32.ofNat LinkInfo.size)))
  nextLinkId start := do
    let reply ← Action.ofStep (S.bpf (.linkNextId start))
    Action.ofExcept (readNextId reply)
  openLink id := callForDescriptor S (.linkFdById id)
  pin fd path := do
    let path ← Action.ofExcept (kernelPath path)
    let _ ← call S (.objPin path fd.number)
  openPin path flags := do
    let path ← Action.ofExcept (kernelPath path)
    callForDescriptor S (.objGet path flags)
  objectType fd := do
    match ← Action.ofStep (S.readLink fd) with
    | .ok target => Action.ofExcept (readObjectType fd target)
    | .error e => throw (.io e)
  removePin path := removeFile S path
  btfId name := do
    Action.ofExcept (readBtf name (← Action.ofStep (S.btf name)))

end Bpf.Linux
