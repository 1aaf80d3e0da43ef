/-!
# Kinds of objects

The kinds of kernel objects that a descriptor can stand for.
-/

namespace Bpf

/-- What a descriptor stands for. -/
inductive ObjectType where
  | map
  | program
  | link
deriving DecidableEq

/-- The name of a kind of object. -/
def ObjectType.name : ObjectType → String
  | .map => "map"
  | .program => "program"
  | .link => "link"

/-- The kind of object with a name. -/
def ObjectType.ofName? (name : String) : Option ObjectType :=
  [.map, .program, .link].find? (·.name == name)

end Bpf
