import Bpf.Link.Basic

/-!
# Pinned objects

`Pinned.load` opens the object that is pinned at a path, as what the kernel says it is.
-/

namespace Bpf

variable {σ : Type}

/-- An object found at a pin. -/
inductive Pinned where
  /-- A map, of which this library knows the descriptor only. -/
  | map (fd : Descriptor)
  | program (program : Program)
  | link (link : Link)
deriving DecidableEq

namespace Pinned

/-- What the object is. -/
def objectType : Pinned → ObjectType
  | .map _ => .map
  | .program _ => .program
  | .link _ => .link

/-- Opens the object pinned at a path. -/
def load (K : Kernel σ) (path : Path) : Action σ Pinned := do
  Pin.check path
  let fd ← K.openPin path 0
  match ← K.objectType fd with
  | .map => return .map fd
  | .program => return .program (← Program.ofDescriptor K fd)
  | .link => return .link (← Link.ofDescriptor K fd (some path))

end Pinned

end Bpf
