import Bpf.Json

/-!
# Kernel versions

A `KernelVersion` names a kernel release by three numbers, ordered by the first in which two of them
differ.  `text` leaves out a patch level of zero, and `ofJson?` reads what `toJson` writes.
-/

namespace Bpf

/-- A kernel release. -/
structure KernelVersion where
  major : UInt16
  minor : UInt16
  patch : UInt16
deriving DecidableEq

namespace KernelVersion

/-- The release with two numbers only. -/
def release (major minor : UInt16) : KernelVersion := ⟨major, minor, 0⟩

/-- The order of releases: the first number in which they differ decides. -/
protected def compare (a b : KernelVersion) : Ordering :=
  (Ord.compare a.major b.major).then
    ((Ord.compare a.minor b.minor).then (Ord.compare a.patch b.patch))

/-- The later of two releases. -/
def latest (a b : KernelVersion) : KernelVersion :=
  if a.compare b = .gt then a else b

/-- The numbers with points between them, without a patch level of zero. -/
def text (v : KernelVersion) : String :=
  if v.patch = 0 then s!"{v.major}.{v.minor}" else s!"{v.major}.{v.minor}.{v.patch}"

/-- The three numbers by name. -/
def toJson (v : KernelVersion) : Json :=
  .object [ ("major", .nat v.major.toNat), ("minor", .nat v.minor.toNat),
    ("patch", .nat v.patch.toNat) ]

/-- A whole number that one component of a version can hold. -/
def component? (value : Json) : Option UInt16 :=
  match value.int? with
  | some (.ofNat n) => if n < UInt16.size then some (UInt16.ofNat n) else none
  | _ => none

/-- The release with the given numbers, if they are whole and small enough. -/
def ofNumbers? (major minor patch : Json) : Option KernelVersion :=
  match component? major, component? minor, component? patch with
  | some a, some b, some c => some ⟨a, b, c⟩
  | _, _, _ => none

/-- The three numbers by name, among other members, or as an array of exactly three. -/
def ofJson? : Json → Option KernelVersion
  | .array [major, minor, patch] => ofNumbers? major minor patch
  | .object members =>
    match (Json.object members).member? "major", (Json.object members).member? "minor",
        (Json.object members).member? "patch" with
    | some major, some minor, some patch => ofNumbers? major minor patch
    | _, _, _ => none
  | _ => none

end KernelVersion

end Bpf
