import Bpf.Insn
import Mathlib.Algebra.Group.Int.Defs

/-!
# Fields of instructions

The two registers of an instruction share a byte and are read back from its halves, since there are
fewer than sixteen of them.  So every constructor makes an instruction with the register, the distance
and the immediate that it is given.  What does not fit into the signed 32 bits of an immediate is there
all the same: a number of 64 bits in the two halves of `loadImm64`, and the number of a helper as a word.
-/

namespace Bpf.Insn

/-! ### Registers -/

/-- What is read from an instruction: its registers, the distance of a jump and its immediate. -/
structure Has (i : Insn) (dst src : Reg) (off : Int16) (imm : Int32) : Prop where
  dst_eq : i.dst.toNat = dst.val
  src_eq : i.src.toNat = src.val
  off_eq : i.off = off
  imm_eq : i.imm = imm

section Make

variable (code : UInt8) (dst src : Reg) (off : Int16) (imm : Int32)

theorem toNat_regs_make :
  (make code dst src off imm).regs.toNat = src.val * 16 + dst.val
  := by
  have hdst := dst.isLt
  have hsrc := src.isLt
  rw [make, UInt8.toNat_ofNat', Nat.mod_eq_of_lt (by omega)]

/-- Both registers are read back from the byte that they share. -/
theorem has_make :
  (make code dst src off imm).Has dst src off imm
  := by
  have hregs := toNat_regs_make code dst src off imm
  have hdst := dst.isLt
  constructor
  · rw [Insn.dst, UInt8.toNat_mod, hregs]
    show (src.val * 16 + dst.val) % 16 = dst.val
    omega
  · rw [Insn.src, UInt8.toNat_div, hregs]
    show (src.val * 16 + dst.val) / 16 = src.val
    omega
  · rfl
  · rfl

end Make

/-! ### Immediates -/

/-- A signed number as a word is the number modulo the number of words. -/
theorem toNat_toUInt32 (n : Int32) :
  (n.toUInt32.toNat : Int) = n.toInt % 2 ^ 32
  := by
  have hlt : n.toUInt32.toNat < 2 ^ 32 := n.toUInt32.toNat_lt
  have hvalue : n.toInt = if 2 * n.toUInt32.toNat < 2 ^ 32 then (n.toUInt32.toNat : Int)
      else n.toUInt32.toNat - (2 ^ 32 : Nat) := BitVec.toInt_eq_toNat_cond _
  rw [hvalue]
  split
  · omega
  · omega

/-- The lower half of a number, cut off from it and taken for unsigned. -/
theorem toNat_lowHalf (n : Int64) :
  (n.toInt32.toUInt32.toNat : Int) = n.toInt % 2 ^ 32
  := by
  rw [toNat_toUInt32, Int64.toInt_toInt32]
  exact Int.bmod_emod

/-- The shift keeps the sign, so it rounds down for negative numbers too. -/
theorem toInt_shiftRight (n : Int64) :
  (n >>> 32).toInt = n.toInt / 2 ^ 32
  := by
  have hshift : (n >>> 32).toBitVec = n.toBitVec.sshiftRight 32 := rfl
  have hquotient := Int.shiftRight_eq_div_pow n.toInt 32
  calc (n >>> 32).toInt
    _ = (n.toBitVec.sshiftRight 32).toInt := congrArg BitVec.toInt hshift
    _ = n.toInt >>> (32 : Nat) := BitVec.toInt_sshiftRight
    _ = n.toInt / 2 ^ 32 := by omega

/-- The copies of the sign that the shift puts in are above the upper half, and are cut off again. -/
theorem toNat_highHalf (n : Int64) :
  ((n >>> 32).toInt32.toUInt32.toNat : Int) = n.toInt / 2 ^ 32 % 2 ^ 32
  := by
  rw [toNat_lowHalf, toInt_shiftRight]

/-- The unsigned number whose halves are the immediates of two instructions, the lower one first. -/
def joined (lo hi : Insn) : Nat := hi.imm.toUInt32.toNat <<< 32 + lo.imm.toUInt32.toNat

theorem joined_halves {lo hi : Insn} {n : Int64} (hlo : lo.imm = n.toInt32)
    (hhi : hi.imm = (n >>> 32).toInt32) :
  (joined lo hi : Int) = n.toInt % 2 ^ 64
  := by
  have hlow := toNat_lowHalf n
  have hhigh := toNat_highHalf n
  rw [joined, hlo, hhi, Nat.shiftLeft_eq]
  omega

/-! ### Constructors -/

/-- Every constructor makes an instruction without a source, with the register, the distance and the
immediate that it is given; what it is not given is zero.  The two instructions of `loadImm64` have in
their immediates, taken for unsigned, the halves of the number modulo `2 ^ 64`, and that of a call, taken
for unsigned, is the number of the helper. -/
theorem arguments_kept (dst : Reg) (off : Int16) (imm : Int32) (wide : Int64) (helper : Helper) :
  (∃ lo hi, loadImm64 dst wide = [lo, hi]
      ∧ (joined lo hi : Int) = wide.toInt % 2 ^ 64
      ∧ lo.Has dst 0 0 wide.toInt32 ∧ hi.Has 0 0 0 (wide >>> 32).toInt32)
    ∧ (mov64Imm dst imm).Has dst 0 0 imm
    ∧ (sub64Imm dst imm).Has dst 0 0 imm
    ∧ (jneImm dst imm off).Has dst 0 off imm
    ∧ (jltImm dst imm off).Has dst 0 off imm
    ∧ (jlt32Imm dst imm off).Has dst 0 off imm
    ∧ ((call helper).Has 0 0 0 helper.id.toInt32 ∧ (call helper).imm.toUInt32 = helper.id)
    ∧ exit.Has 0 0 0 0
  := by
  have hlo := has_make 0x18 dst 0 0 wide.toInt32
  have hhi := has_make 0 0 0 0 (wide >>> 32).toInt32
  refine ⟨⟨_, _, rfl, joined_halves hlo.imm_eq hhi.imm_eq, hlo, hhi⟩, has_make .., has_make ..,
    has_make .., has_make .., has_make .., ⟨has_make .., ?_⟩, has_make ..⟩
  exact UInt32.toUInt32_toInt32 helper.id

/-- A negative number whose lower half has its sign bit set as well. -/
example : (loadImm64 1 (-0x80000000)).map Insn.imm = [-0x80000000, -1] := by decide

end Bpf.Insn
