import Bpf.Bytes
import Bpf.Helper

/-!
# Instructions

An `Insn` is one instruction of eight bytes, and the constructors below make the handful that the
programs of feature probes consist of.  A 64-bit immediate takes two instructions, `loadImm64`.
-/

namespace Bpf

/-- One of the eleven registers. -/
abbrev Reg := Fin 11

/-- One instruction. -/
structure Insn where
  /-- The operation. -/
  code : UInt8
  /-- The destination in the low half, the source in the high half. -/
  regs : UInt8
  /-- The distance of a jump. -/
  off : Int16
  /-- The immediate operand. -/
  imm : Int32
deriving DecidableEq

/-- The register that a program leaves its result in. -/
def Reg.result : Reg := 0

namespace Insn

/-- The instruction with the given registers. -/
def make (code : UInt8) (dst src : Reg) (off : Int16) (imm : Int32) : Insn :=
  { code, regs := UInt8.ofNat (src.val * 16 + dst.val), off, imm }

/-- The number of the destination register. -/
def dst (i : Insn) : UInt8 := i.regs % 16

/-- The number of the source register. -/
def src (i : Insn) : UInt8 := i.regs / 16

/-- `dst = imm` -/
def mov64Imm (dst : Reg) (imm : Int32) : Insn := make 0xb7 dst 0 0 imm

/-- `dst -= imm` -/
def sub64Imm (dst : Reg) (imm : Int32) : Insn := make 0x17 dst 0 0 imm

/-- `dst = imm` with an immediate of 64 bits: its low half, then its high half. -/
def loadImm64 (dst : Reg) (imm : Int64) : List Insn :=
  [make 0x18 dst 0 0 imm.toInt32, make 0 0 0 0 (imm >>> 32).toInt32]

/-- `if dst != imm goto pc + off` -/
def jneImm (dst : Reg) (imm : Int32) (off : Int16) : Insn := make 0x55 dst 0 off imm

/-- `if dst < imm goto pc + off`, unsigned. -/
def jltImm (dst : Reg) (imm : Int32) (off : Int16) : Insn := make 0xa5 dst 0 off imm

/-- `if dst < imm goto pc + off`, unsigned and on the low 32 bits. -/
def jlt32Imm (dst : Reg) (imm : Int32) (off : Int16) : Insn := make 0xa6 dst 0 off imm

/-- The operation of a call. -/
def callCode : UInt8 := 0x85

/-- A call of a helper. -/
def call (helper : Helper) : Insn := make callCode 0 0 0 helper.id.toInt32

/-- The end of the program. -/
def exit : Insn := make 0x95 0 0 0 0

/-- The eight bytes of an instruction. -/
def bytes (i : Insn) : List UInt8 :=
  i.code :: i.regs :: (littleEndian 2 i.off.toUInt16.toNat ++ word32 i.imm.toUInt32)

/-- The instruction in the first eight bytes. -/
def ofBytes (bytes : List UInt8) : Insn :=
  { code := bytes.getD 0 0
    regs := bytes.getD 1 0
    off := (UInt16.ofNat (ofLittleEndian ((bytes.drop 2).take 2))).toInt16
    imm := (word32At bytes 4).toInt32 }

/-- The instructions in the given bytes; what does not fill one does not count. -/
def decode (bytes : List UInt8) : List Insn :=
  if bytes.length < 8 then [] else ofBytes bytes :: decode (bytes.drop 8)
termination_by bytes.length
decreasing_by
  simp only [List.length_drop]
  omega

/-- The fields of the instruction, with the two registers apart as well. -/
def toJson (i : Insn) : Json :=
  .object
    [ ("code", .nat i.code.toNat), ("regs", .nat i.regs.toNat), ("off", .int i.off.toInt),
      ("imm", .int i.imm.toInt), ("dst", .nat i.dst.toNat), ("src", .nat i.src.toNat) ]

end Insn

/-- `return 0`, the smallest program that every type of program accepts. -/
def returnZero : List Insn := Insn.loadImm64 .result 0 ++ [Insn.exit]

end Bpf
