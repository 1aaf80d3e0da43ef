import Bpf.Kernel

/-!
# Pins

A pin is a path under which the kernel keeps an object.  `Pin.add` pins an object and `Pin.remove`
removes a pin; both refuse an empty path without asking the kernel, and the removal of a pin that is
not there succeeds.
-/

namespace Bpf.Pin

variable {σ : Type}

/-- What is wrong with an empty path. -/
def emptyPath : Error := .invalidInput "empty pin path"

/-- Refuses an empty path. -/
def check (path : Path) : Action σ Unit :=
  if path.isEmpty then throw emptyPath else pure ()

/-- Pins the object behind a descriptor. -/
def add (K : Kernel σ) (fd : Descriptor) (path : Path) : Action σ Unit := do
  check path
  K.pin fd path

/-- What the answer to a removal means: that the pin was not there is no failure. -/
def removed : Except IoError Unit → Except Error Unit
  | .ok () => .ok ()
  | .error e => if e.isNotFound then .ok () else .error (.syscall Command.unlink e)

/-- Removes the pin at a path, if there is one. -/
def remove (K : Kernel σ) (path : Path) : Action σ Unit := do
  check path
  let answer ← Action.ofStep (K.removePin path)
  Action.ofExcept (removed answer)

end Bpf.Pin
