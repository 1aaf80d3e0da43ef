import Bpf.Text.Blank
import Bpf.Text.Lines
import Bpf.Text.Utf8

/-!
# Texts from the kernel

The kernel writes a text into a buffer and ends it with a NUL.  `logLines` reads the log of the
verifier from its buffer; `objectName` and `nameString` write and read the name of an object, of which
the kernel keeps fifteen bytes.
-/

namespace Bpf.Linux

/-- The bytes before the first NUL. -/
def beforeNul (bytes : List UInt8) : List UInt8 := bytes.takeWhile (· ≠ 0)

/-- The lines without the blank ones at the end. -/
def dropBlankEnd (lines : List String) : List String :=
  (lines.reverse.dropWhile Text.isBlankText).reverse

/-- The lines of a log, up to the first NUL of its buffer and without the blank lines at the end. -/
def logLines (buffer : List UInt8) : List String :=
  dropBlankEnd (Text.lines (Text.decodeLossy (beforeNul buffer)))

/-- The size of the name of an object. -/
def nameSize : Nat := 16

/-- A name as the kernel keeps it: cut to leave room for a NUL at the end, and filled up with them. -/
def objectName (name : String) : List UInt8 :=
  let kept := (Text.encode name).take (nameSize - 1)
  kept ++ List.replicate (nameSize - kept.length) 0

/-- The name that the kernel reports. -/
def nameString (bytes : List UInt8) : String := Text.decodeLossy (beforeNul bytes)

end Bpf.Linux
