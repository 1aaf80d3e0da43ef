import Bpf.Error
import Bpf.Text.Number
import Bpf.Text.Quoted

/-!
# Reading kernel versions

`KernelVersion.parse` reads the release text of a kernel.  The text is cut at every character that is
no digit; the first two pieces have to be numbers, and the third is the patch level if it is one.
-/

namespace Bpf

/-- The pieces of a text between the characters that are no ASCII digits, `current` being the
beginning of the first piece in reverse. -/
def digitRuns (current : List Char) : List Char → List (List Char)
  | [] => [current.reverse]
  | c :: rest =>
    if c.isDigit then digitRuns (c :: current) rest else current.reverse :: digitRuns [] rest

/-- A component of a release, if the piece is a number small enough for one. -/
def versionComponent? (piece : List Char) : Option UInt16 :=
  (Text.decimal? UInt16.size piece).map UInt16.ofNat

/-- The release whose text is cut into `pieces`, if the first two are numbers. -/
def KernelVersion.ofPieces? : List (List Char) → Option KernelVersion
  | a :: b :: rest =>
    match versionComponent? a, versionComponent? b with
    | some major, some minor => some ⟨major, minor, (rest.head?.bind versionComponent?).getD 0⟩
    | _, _ => none
  | _ => none

/-- The release that a text names, with blanks around it or not. -/
def KernelVersion.parse (s : String) : Except Error KernelVersion :=
  let release := Text.trim s
  match KernelVersion.ofPieces? (digitRuns [] release.toList) with
  | some version => .ok version
  | none => .error (.invalidInput s!"malformed kernel release: {Text.quote release}")

end Bpf
