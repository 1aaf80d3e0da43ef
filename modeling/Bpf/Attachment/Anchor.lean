import Bpf.Link.Basic

/-!
# Anchors

An `Anchor` is a place in a chain of programs: at one of its ends, or next to a program or a link that
is given by its id or by a handle.  `Anchor.resolve` turns it into the flags and the id that the
kernel expects, and asks the kernel for the id behind a handle.
-/

namespace Bpf

variable {σ : Type}

/-- A side of a place in a chain. -/
inductive Side where
  | before
  | after
deriving DecidableEq

namespace Side

/-- The side as a flag. -/
def flag : Side → UInt32
  | .before => Flag.before
  | .after => Flag.after

/-- The side in a text. -/
def text : Side → String
  | .before => "before"
  | .after => "after"

end Side

/-- A program in a chain. -/
inductive ProgramRef where
  | object (program : ProgramHandle)
  | id (id : UInt32)
deriving DecidableEq

/-- A link in a chain. -/
inductive LinkRef where
  | object (link : Link)
  | id (id : UInt32)
deriving DecidableEq

/-- A place in a chain of programs. -/
inductive Anchor where
  /-- Before every other program. -/
  | head
  /-- After every other program. -/
  | tail
  | nextToProgram (side : Side) (program : ProgramRef)
  | nextToLink (side : Side) (link : LinkRef)
deriving DecidableEq

namespace Anchor

/-- A reference in a text: the id if it is known. -/
def refText (id : Option UInt32) : String :=
  match id with
  | some id => s!"id {id}"
  | none => "object"

/-- The anchor in words. -/
def text : Anchor → String
  | .head => "head"
  | .tail => "tail"
  | .nextToProgram side (.object _) => s!"{side.text} program {refText none}"
  | .nextToProgram side (.id id) => s!"{side.text} program {refText (some id)}"
  | .nextToLink side (.object _) => s!"{side.text} link {refText none}"
  | .nextToLink side (.id id) => s!"{side.text} link {refText (some id)}"

/-- The id of a program. -/
def programId (K : Kernel σ) : ProgramRef → Action σ UInt32
  | .id id => pure id
  | .object none => throw (.invalidInput "program is closed")
  | .object (some fd) => return (← K.programInfo fd).id

/-- The id of a link. -/
def linkId (K : Kernel σ) : LinkRef → Action σ UInt32
  | .id id => pure id
  | .object link => link.id K

/-- The flags of an anchor. -/
def flags : Anchor → UInt32
  | .head => Flag.before
  | .tail => Flag.after
  | .nextToProgram side _ => side.flag ||| Flag.id
  | .nextToLink side _ => side.flag ||| Flag.id ||| Flag.link

/-- The id of what the anchor is next to, or zero at an end of the chain. -/
def relative (K : Kernel σ) : Anchor → Action σ UInt32
  | .head => pure 0
  | .tail => pure 0
  | .nextToProgram _ program => programId K program
  | .nextToLink _ link => linkId K link

/-- The flags and the id for the kernel.  An object without an id is an error that names the
anchor. -/
def resolve (K : Kernel σ) (anchor : Anchor) : Action σ (UInt32 × UInt32) := do
  match ← Action.attempt (relative K anchor) with
  | .ok id => return (anchor.flags, id)
  | .error e => throw (.invalidInput s!"resolve anchor {anchor.text}: {e.message}")

end Anchor

end Bpf
