import Bpf.Link.Basic

/-!
# Iteration over links

A `LinkIterator` walks the links of the kernel by ascending id, whoever made them.  The ids that the
kernel gives have to ascend, so `advance` ends whatever the kernel answers: it looks for the next link
that can be opened, and an id that does not ascend is a broken contract.  `next` hands over the links
one by one.
-/

namespace Bpf

variable {σ : Type}

/-- A walk over the links. -/
structure LinkIterator where
  /-- The id of the current link, or of the last one when the walk is over. -/
  id : UInt32
  /-- The current link, until it is taken. -/
  link : Option Link
  /-- What ended the walk, if it was a failure. -/
  error : Option Error
  /-- The walk is over. -/
  done : Bool
deriving DecidableEq

namespace LinkIterator

/-- A walk that has not begun. -/
def new : LinkIterator := ⟨0, none, none, false⟩

/-- The broken contract of a kernel whose ids do not ascend. -/
def notAscending (next cursor : UInt32) : Error :=
  .fatal s!"kernel returned link id {next} after {cursor}"

/-- An id above another one. -/
abbrev Above (cursor : UInt32) := { id : UInt32 // cursor < id }

/-- What is above `next` is above `cursor`, if `next` is. -/
def Above.weaken {cursor next : UInt32} (h : cursor < next) (id : Above next) : Above cursor :=
  ⟨id.1, UInt32.lt_trans h id.2⟩

/-- There are fewer ids above an id than above one below it. -/
theorem sub_toNat_lt_of_lt {cursor next : UInt32} (h : cursor < next) :
  UInt32.size - next.toNat < UInt32.size - cursor.toNat
  := by
  have hlt : cursor.toNat < next.toNat := UInt32.lt_iff_toNat_lt.1 h
  have := next.toNat_lt
  simp only [UInt32.size]
  omega

/-- The first link above `cursor` that can be opened.  A link that is gone when it is opened is
passed over. -/
def nextLink (K : Kernel σ) (cursor : UInt32) : Action σ (Option (Above cursor × Link)) := do
  match ← K.nextLinkId cursor with
  | none => return none
  | some next =>
    if h : cursor < next then
      match ← Action.attempt (K.openLink next) with
      | .ok fd => return some (⟨next, h⟩, ← Link.ofDescriptor K fd none)
      | .error e =>
        if e.isErrno Errno.enoent then
          let found ← nextLink K next
          return found.map fun (id, link) => (id.weaken h, link)
        else throw e
    else throw (notAscending next cursor)
termination_by UInt32.size - cursor.toNat
decreasing_by exact sub_toNat_lt_of_lt h

/-- Moves to the next link, and tells whether there is one. -/
def advance (K : Kernel σ) : StateM (LinkIterator × σ) Bool := do
  let it := (← get).1
  if it.done then
    modify fun s => ({ it with link := none }, s.2)
    return false
  match ← onPart (Part.second LinkIterator σ) (nextLink K it.id).run with
  | .ok (some (id, link)) =>
    modify fun s => ({ it with id := id.1, link := some link }, s.2)
    return true
  | .ok none =>
    modify fun s => ({ it with link := none, done := true }, s.2)
    return false
  | .error e =>
    modify fun s => ({ it with link := none, error := some e, done := true }, s.2)
    return false

/-- The current link, which the walk gives up, and the walk without it. -/
def take (it : LinkIterator) : Option Link × LinkIterator := (it.link, { it with link := none })

/-- The next link of a walk that hands over each link, or the failure that ended the walk, which is
told once. -/
def next (K : Kernel σ) : StateM (LinkIterator × σ) (Option (Except Error Link)) := do
  let more ← advance K
  let it := (← get).1
  if more then
    let (link, it) := it.take
    modify fun s => (it, s.2)
    return link.map .ok
  else
    modify fun s => ({ it with error := none }, s.2)
    return it.error.map .error

end LinkIterator

end Bpf
