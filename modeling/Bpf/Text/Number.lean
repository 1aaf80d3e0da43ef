/-!
# Decimal numbers

`decimal?` reads a run of ASCII digits, `unsigned?` one that may follow a plus sign, both up to a
bound.
-/

namespace Bpf.Text

/-- The value of an ASCII digit. -/
def digitValue (c : Char) : Nat := c.toNat - '0'.toNat

theorem toNat_of_isDigit {c : Char} (h : c.isDigit = true) :
  48 ≤ c.toNat ∧ c.toNat ≤ 57
  := by
  simp only [Char.isDigit, ge_iff_le, Bool.and_eq_true, decide_eq_true_eq] at h
  obtain ⟨hlow, hhigh⟩ := h
  exact ⟨UInt32.le_iff_toNat_le.1 hlow, UInt32.le_iff_toNat_le.1 hhigh⟩

/-- The value of a run of digits that follow the value `start`. -/
def digitsValue (start : Nat) (cs : List Char) : Nat :=
  cs.foldl (fun n c => 10 * n + digitValue c) start

/-- The value of a non-empty run of ASCII digits, if it is below `bound`. -/
def decimal? (bound : Nat) (cs : List Char) : Option Nat :=
  if cs ≠ [] && cs.all Char.isDigit && digitsValue 0 cs < bound then some (digitsValue 0 cs)
  else none

/-- The value of a non-empty run of ASCII digits, with or without a plus sign before it, if it is
below `bound`. -/
def unsigned? (bound : Nat) : List Char → Option Nat
  | '+' :: cs => decimal? bound cs
  | cs => decimal? bound cs

end Bpf.Text
