/-!
# Hexadecimal text

`hex` writes each byte in two small digits of base sixteen, and `unhex` reads what `hex` writes.
-/

namespace Bpf.Text

/-- The two digits of a byte. -/
def hexPair (b : UInt8) : List Char := [Nat.digitChar (b.toNat / 16), Nat.digitChar (b.toNat % 16)]

/-- The digits of bytes. -/
def hex (bytes : List UInt8) : String := String.ofList (bytes.flatMap hexPair)

/-- The value of a digit in base sixteen. -/
def hexDigitValue (c : Char) : Nat :=
  if c.isDigit then c.toNat - '0'.toNat else c.toLower.toNat - 'a'.toNat + 10

/-- The bytes with the given digits, two for each; a digit that is left over does not count. -/
def unhexChars : List Char → List UInt8
  | a :: b :: rest => UInt8.ofNat (16 * hexDigitValue a + hexDigitValue b) :: unhexChars rest
  | _ => []

/-- The bytes with the given digits. -/
def unhex (s : String) : List UInt8 := unhexChars s.toList

end Bpf.Text
