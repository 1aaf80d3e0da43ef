import Bpf.Kernel

/-!
# Arguments of the system call

An `Attr` is what the system call `bpf` is given for each of its commands.  The request for a link has
a part whose layout depends on the hook: 48 bytes, written here as `Cell`s, since some of them are
addresses of lists that the kernel reads.  All bytes that a request does not set are zero.
-/

namespace Bpf.Linux

/-- A list that the kernel reads from memory. -/
inductive Buffer where
  | text (text : NulFree)
  | texts (texts : List NulFree)
  | words (words : List UInt64)
deriving DecidableEq

/-- One byte of a request: a value, or a byte of the address of a list. -/
inductive Cell where
  | byte (value : UInt8)
  | address (buffer : Buffer) (index : Nat)
deriving DecidableEq

namespace Cell

/-- Bytes with the given values. -/
def ofBytes (bytes : List UInt8) : List Cell := bytes.map .byte

/-- A word of four bytes. -/
def ofWord32 (w : UInt32) : List Cell := ofBytes (word32 w)

/-- A word of eight bytes. -/
def ofWord64 (w : UInt64) : List Cell := ofBytes (word64 w)

/-- The address of a list. -/
def ofAddress (buffer : Buffer) : List Cell := (List.range 8).map (.address buffer)

/-- The address of a list of words, or zero if it is empty. -/
def ofWords (words : List UInt64) : List Cell :=
  if words.isEmpty then ofWord64 0 else ofAddress (.words words)

/-- The address of a list of texts, or zero if it is empty. -/
def ofTexts (texts : List NulFree) : List Cell :=
  if texts.isEmpty then ofWord64 0 else ofAddress (.texts texts)

end Cell

/-- The size of the part of a request for a link that depends on the hook. -/
def extraSize : Nat := 48

/-- The number of probes that a request for kernel functions announces. -/
def probeCount (symbols : List NulFree) (addresses : List UInt64) : UInt32 :=
  UInt32.ofNat (if symbols.isEmpty then addresses.length else symbols.length)

/-- The bytes that a request sets in the part that depends on the hook, from the first one on. -/
def extraBytes : LinkExtra → List Cell
  | .none => []
  | .targetBtfId id => Cell.ofWord32 id
  | .perfEvent cookie => Cell.ofWord64 cookie
  | .tracing targetBtfId cookie =>
    Cell.ofWord32 targetBtfId ++ Cell.ofWord32 0 ++ Cell.ofWord64 cookie
  | .kprobeMulti flags symbols addresses cookies =>
    Cell.ofWord32 flags ++ Cell.ofWord32 (probeCount symbols addresses) ++ Cell.ofTexts symbols
      ++ Cell.ofWords addresses ++ Cell.ofWords cookies
  | .uprobeMulti path offsets refCtrOffsets cookies pid flags =>
    Cell.ofAddress (.text path) ++ Cell.ofWords offsets ++ Cell.ofWords refCtrOffsets
      ++ Cell.ofWords cookies ++ Cell.ofWord32 (UInt32.ofNat offsets.length)
      ++ Cell.ofWord32 flags ++ Cell.ofWord32 pid
  | .netfilter family hook priority flags =>
    Cell.ofWord32 family ++ Cell.ofWord32 hook ++ Cell.ofWord32 priority.toUInt32
      ++ Cell.ofWord32 flags
  | .ordered relative expectedRevision =>
    Cell.ofWord32 relative ++ Cell.ofWord32 0 ++ Cell.ofWord64 expectedRevision

/-- The part of a request that depends on the hook. -/
def extraCells (extra : LinkExtra) : List Cell :=
  let set := extraBytes extra
  set ++ List.replicate (extraSize - set.length) (.byte 0)

/-- The arguments for the load of a program. -/
structure ProgLoadAttr where
  programType : UInt32
  insnCount : UInt32
  insns : List Insn
  license : NulFree
  flags : UInt32
  /-- The name in sixteen bytes. -/
  name : List UInt8
  attachType : UInt32
  attachBtfId : UInt32
  logLevel : UInt32
  logSize : UInt32
  /-- There is a buffer for the log. -/
  hasLog : Bool
deriving DecidableEq

/-- The arguments for a new link. -/
structure LinkCreateAttr where
  program : UInt32
  target : UInt32
  attachType : UInt32
  flags : UInt32
  extra : List Cell
deriving DecidableEq

/-- The arguments of the system call, by command. -/
inductive Attr where
  | progLoad (load : ProgLoadAttr)
  | objPin (path : NulFree) (fd : UInt32)
  | objGet (path : NulFree) (flags : UInt32)
  | progAttach (target program attachType flags replace : UInt32)
  | infoByFd (fd length : UInt32)
  | progQuery (target attachType : UInt32)
  | rawTracepointOpen (name : Option NulFree) (program : UInt32)
  | linkCreate (create : LinkCreateAttr)
  | linkUpdate (link new flags old : UInt32)
  | linkDetach (link : UInt32)
  | linkFdById (id : UInt32)
  | linkNextId (start : UInt32)
deriving DecidableEq

namespace Attr

/-- The name of the command. -/
def command : Attr → String
  | .progLoad _ => Command.progLoad
  | .objPin .. => Command.objPin
  | .objGet .. => Command.objGet
  | .progAttach .. => Command.progAttach
  | .infoByFd .. => Command.infoByFd
  | .progQuery .. => Command.progQuery
  | .rawTracepointOpen .. => Command.rawTracepointOpen
  | .linkCreate _ => Command.linkCreate
  | .linkUpdate .. => Command.linkUpdate
  | .linkDetach _ => Command.linkDetach
  | .linkFdById _ => Command.linkFdById
  | .linkNextId _ => Command.linkNextId

/-- The result of the command is a new descriptor. -/
def makesDescriptor : Attr → Bool
  | .progLoad _ => true
  | .objGet .. => true
  | .rawTracepointOpen .. => true
  | .linkCreate _ => true
  | .linkFdById _ => true
  | _ => false

end Attr

/-- The arguments for a request for a link. -/
def linkCreateAttr (request : LinkCreate) : LinkCreateAttr where
  program := request.program.number
  target := request.target
  attachType := Code.raw request.attachType
  flags := request.flags
  extra := extraCells request.extra

end Bpf.Linux
