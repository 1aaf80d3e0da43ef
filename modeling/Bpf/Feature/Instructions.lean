import Bpf.Feature.ProgramTypes

/-!
# Probes for instructions

What the verifier accepts beyond the first instruction set: long programs, loops, and two later sets
of jumps.  Each feature is tried on a small program that makes use of it.
-/

namespace Bpf

variable {σ : Type}

/-- A feature of the instruction set or of the verifier. -/
inductive InsnFeature where
  /-- Programs of more than 4096 instructions. -/
  | largePrograms
  | boundedLoops
  /-- Jumps on less-than comparisons. -/
  | v2
  /-- Jumps on comparisons of 32 bits. -/
  | v3
deriving DecidableEq

namespace InsnFeature

/-- The features in the order of reports. -/
def all : List InsnFeature := [.largePrograms, .boundedLoops, .v2, .v3]

/-- The name of a feature in data. -/
def key : InsnFeature → String
  | .largePrograms => "large_instructions"
  | .boundedLoops => "bounded_loops"
  | .v2 => "v2_isa"
  | .v3 => "v3_isa"

/-- The name of a feature in text. -/
def text : InsnFeature → String
  | .largePrograms => "large instructions"
  | .boundedLoops => "bounded loops"
  | .v2 => "v2 ISA"
  | .v3 => "v3 ISA"

/-- The first release with the feature. -/
def version : InsnFeature → KernelVersion
  | .largePrograms => .release 5 2
  | .boundedLoops => .release 5 3
  | .v2 => .release 4 14
  | .v3 => .release 5 1

/-- A program that makes use of the feature. -/
def insns : InsnFeature → List Insn
  | .largePrograms => List.replicate 4096 (Insn.mov64Imm .result 1) ++ [Insn.exit]
  | .boundedLoops =>
    [Insn.mov64Imm .result 10, Insn.sub64Imm .result 1, Insn.jneImm .result 0 (-2), Insn.exit]
  | .v2 => [Insn.mov64Imm .result 0, Insn.jltImm .result 0 1, Insn.mov64Imm .result 1, Insn.exit]
  | .v3 => [Insn.mov64Imm .result 0, Insn.jlt32Imm .result 0 1, Insn.mov64Imm .result 1, Insn.exit]

/-- The probes for all the features. -/
def matrix (K : Kernel σ) : Matrix InsnFeature σ :=
  Matrix.ofEntries text
    (all.map fun feature =>
      { key := feature, name := feature.text, version := some feature.version })
    fun feature => checkProgram K { programType := .socketFilter, insns := feature.insns }

theorem probe?_matrix (K : Kernel σ) (feature : InsnFeature) :
  (matrix K).probe? feature
    = some ⟨feature.text, some feature.version,
        checkProgram K { programType := .socketFilter, insns := feature.insns }⟩
  := by
  have hfound : all.reverse.find? (fun found => found = feature) = some feature := by
    cases feature with
    | _ => rfl
  rw [matrix, Matrix.probe?_ofEntries, ← List.map_reverse, List.find?_map, Function.comp_def,
    hfound, Option.map_some, Option.map_some, MatrixEntry.probe, Option.getD_none]

end InsnFeature

end Bpf
