/-!
# Text without NUL

The kernel reads a text up to the first NUL, so a text is passed to it only if it has none.
`NulFree.ofString?` checks that.
-/

namespace Bpf

/-- A text without NUL. -/
structure NulFree where
  text : String
  /-- There is no NUL in the text. -/
  nul_not_mem : '\x00' ∉ text.toList
deriving DecidableEq

namespace NulFree

/-- The text, if it has no NUL. -/
def ofString? (s : String) : Option NulFree :=
  if h : '\x00' ∉ s.toList then some ⟨s, h⟩ else none

/-- The checked text is the given one. -/
theorem ofString?_eq_some_iff {s : String} {t : NulFree} :
  ofString? s = some t ↔ t.text = s
  := by
  unfold ofString?
  split
  next h =>
    constructor
    · intro e
      cases e
      rfl
    · intro e
      cases t
      cases e
      rfl
  next h =>
    constructor
    · intro e
      cases e
    · intro e
      subst e
      exact absurd t.nul_not_mem h

end NulFree

end Bpf
