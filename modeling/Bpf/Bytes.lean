/-!
# Words in memory

`littleEndian width n` is the number `n` in `width` bytes, the least significant first, and
`ofLittleEndian` reads it back.  `word32At` and `word64At` read a word at an offset; bytes past the
end count as zero.
-/

namespace Bpf

/-- The last `width` base-256 digits of `n`, least significant first. -/
def littleEndian : Nat → Nat → List UInt8
  | 0, _ => []
  | width + 1, n => UInt8.ofNat n :: littleEndian width (n / 256)

/-- The number with the given base-256 digits, least significant first. -/
def ofLittleEndian : List UInt8 → Nat
  | [] => 0
  | b :: rest => b.toNat + 256 * ofLittleEndian rest

@[simp]
theorem length_littleEndian (width n : Nat) :
  (littleEndian width n).length = width
  := by
  induction width generalizing n with
  | zero => rfl
  | succ width ih => simp [littleEndian, ih]

/-- Reading a number back gives its remainder by the number of values of that width. -/
theorem ofLittleEndian_littleEndian (width n : Nat) :
  ofLittleEndian (littleEndian width n) = n % Nat.pow 256 width
  := by
  induction width generalizing n with
  | zero => simp [littleEndian, ofLittleEndian, Nat.mod_one]
  | succ width ih =>
    have hpow : Nat.pow 256 (width + 1) = 256 * Nat.pow 256 width := Nat.mul_comm _ _
    simp only [littleEndian, ofLittleEndian, ih, UInt8.toNat_ofNat', hpow, Nat.mod_mul]

/-- The four bytes of a word. -/
def word32 (w : UInt32) : List UInt8 := littleEndian 4 w.toNat

/-- The eight bytes of a word. -/
def word64 (w : UInt64) : List UInt8 := littleEndian 8 w.toNat

/-- The word in the four bytes at an offset. -/
def word32At (bytes : List UInt8) (offset : Nat) : UInt32 :=
  UInt32.ofNat (ofLittleEndian ((bytes.drop offset).take 4))

/-- The word in the eight bytes at an offset. -/
def word64At (bytes : List UInt8) (offset : Nat) : UInt64 :=
  UInt64.ofNat (ofLittleEndian ((bytes.drop offset).take 8))

end Bpf
