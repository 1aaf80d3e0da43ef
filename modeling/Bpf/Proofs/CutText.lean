import Bpf.Proofs.EncodedText

/-!
# Texts cut to a number of bytes

The bytes of a text may be cut inside a character.  What is left of the character is then a single
stretch that encodes none, so it is read as one replacement, and all that is before it is read as it was:
`fitting` says what is read of a text of which only the first bytes are left.  A replacement has three
bytes and may be longer than what it stands for, so it may be cut in its turn; but then it is replaced by
itself, and to cut a text for the second time changes nothing.
-/

namespace Bpf.Text

/-! ### Cut characters -/

/-- A piece that encodes a character, without its last bytes, is one stretch that encodes none. -/
theorem firstPiece_take {first : UInt8} {rest : List UInt8} {c : Char}
    (h : firstPiece first rest = (some c, [])) {k : Nat} (hk : k < rest.length) :
  firstPiece first (rest.take k) = (none, [])
  := by
  -- What is left of a piece of `n` bytes is looked at up to the byte that is missing.
  unfold firstPiece at h
  split at h
  next =>
    cases h
    exact absurd hk (Nat.not_lt_zero k)
  next second after hlength =>
    split at h
    next =>
      cases h
      obtain rfl : k = 0 := Nat.lt_one_iff.1 hk
      simp only [firstPiece, hlength, List.take_zero]
    next => cases h
  next second after hlength =>
    split at h
    next hsecond =>
      split at h
      next third after' =>
        split at h
        next =>
          cases h
          have hk : k < 2 := hk
          obtain rfl | rfl : k = 0 ∨ k = 1 := by omega
          · simp only [firstPiece, hlength, List.take_zero]
          · simp only [firstPiece, hlength, hsecond, if_true, List.take_succ_cons, List.take_zero]
        next => cases h
      next => cases h
    next => cases h
  next second after hlength =>
    split at h
    next hsecond =>
      split at h
      next third after' =>
        split at h
        next hthird =>
          split at h
          next fourth after'' =>
            split at h
            next =>
              cases h
              have hk : k < 3 := hk
              obtain rfl | rfl | rfl : k = 0 ∨ k = 1 ∨ k = 2 := by omega
              · simp only [firstPiece, hlength, List.take_zero]
              · simp only [firstPiece, hlength, hsecond, if_true, List.take_succ_cons,
                  List.take_zero]
              · simp only [firstPiece, hlength, hsecond, hthird, if_true, List.take_succ_cons,
                  List.take_zero]
            next => cases h
          next => cases h
        next => cases h
      next => cases h
    next => cases h
  next => cases h

/-- The first piece of a character's bytes is all of them. -/
theorem exists_firstPiece (c : Char) :
  ∃ first rest, String.utf8EncodeChar c = first :: rest
    ∧ firstPiece first rest = (some c, [])
  := by
  have hpieces := pieces_utf8EncodeChar c []
  rw [List.append_nil] at hpieces
  rcases hbytes : String.utf8EncodeChar c with _ | ⟨first, rest⟩
  · rw [hbytes, pieces] at hpieces
    cases hpieces
  · rw [hbytes, pieces, pieces] at hpieces
    obtain ⟨hchar, hafter⟩ := List.cons.inj hpieces
    refine ⟨first, rest, rfl, Prod.ext hchar ?_⟩
    rcases hrest : (firstPiece first rest).2 with _ | ⟨next, more⟩
    · rfl
    · rw [hrest, pieces] at hafter
      cases hafter

/-- What is left of a character is one stretch that encodes none. -/
theorem pieces_take_utf8EncodeChar {c : Char} {k : Nat} (hpos : 0 < k) (hk : k < c.utf8Size) :
  pieces ((String.utf8EncodeChar c).take k) = [none]
  := by
  obtain ⟨first, rest, hbytes, hfirst⟩ := exists_firstPiece c
  have hlength : (String.utf8EncodeChar c).length = c.utf8Size := String.length_utf8EncodeChar c
  obtain ⟨k, rfl⟩ := Nat.exists_eq_succ_of_ne_zero (Nat.ne_of_gt hpos)
  rw [hbytes, List.length_cons] at hlength
  rw [hbytes, List.take_succ_cons, pieces, firstPiece_take hfirst (by omega), pieces]

/-! ### Cut texts -/

/-- The characters that the first `room` bytes of a text are read as. -/
def fitting (room : Nat) : List Char → List Char
  | [] => []
  | c :: cs =>
    if c.utf8Size ≤ room then c :: fitting (room - c.utf8Size) cs
    else if room = 0 then []
    else [replacement]

/-- The bytes of a text that are left are read as its characters that are left. -/
theorem pieces_take (room : Nat) (cs : List Char) :
  (pieces ((cs.flatMap String.utf8EncodeChar).take room)).map (·.getD replacement)
    = fitting room cs
  := by
  induction cs generalizing room with
  | nil => rw [List.flatMap_nil, List.take_nil, pieces, List.map_nil, fitting]
  | cons c cs ih =>
      have hlength : (String.utf8EncodeChar c).length = c.utf8Size := String.length_utf8EncodeChar c
      rw [List.flatMap_cons, List.take_append, hlength, fitting]
      split
      next hfits =>
        rw [List.take_of_length_le (hlength ▸ hfits), pieces_utf8EncodeChar, List.map_cons, ih,
          Option.getD_some]
      next hcut =>
        rw [Nat.sub_eq_zero_of_le (by omega), List.take_zero, List.append_nil]
        split
        next hnone => rw [hnone, List.take_zero, pieces, List.map_nil]
        next hsome =>
          rw [pieces_take_utf8EncodeChar (Nat.pos_of_ne_zero hsome) (Nat.not_le.1 hcut),
            List.map_singleton, Option.getD_none]

theorem decodeLossy_take_encode (room : Nat) (s : String) :
  decodeLossy ((encode s).take room) = String.ofList (fitting room s.toList)
  := by
  rw [decodeLossy, encode_eq_flatMap, pieces_take]

/-- A text that fits is left as it is. -/
theorem fitting_of_length_le {room : Nat} {cs : List Char}
    (h : (cs.flatMap String.utf8EncodeChar).length ≤ room) :
  fitting room cs = cs
  := by
  induction cs generalizing room with
  | nil => rfl
  | cons c cs ih =>
      rw [List.flatMap_cons, List.length_append, String.length_utf8EncodeChar] at h
      rw [fitting, if_pos (by omega), ih (by omega)]

/-- A replacement that does not fit is replaced by itself, so there is nothing more to cut. -/
theorem fitting_fitting (room : Nat) (cs : List Char) :
  fitting room (fitting room cs) = fitting room cs
  := by
  induction cs generalizing room with
  | nil => rfl
  | cons c cs ih =>
      rw [fitting]
      split
      next hfits => rw [fitting, if_pos hfits, ih]
      next =>
        split
        next => rfl
        next hroom =>
          rw [fitting, fitting, if_neg hroom]
          split
          next => rfl
          next => rfl

/-- Nothing but replacements comes to a text when it is cut. -/
theorem mem_of_mem_fitting {room : Nat} {cs : List Char} {c : Char} (h : c ∈ fitting room cs) :
  c ∈ cs ∨ c = replacement
  := by
  induction cs generalizing room with
  | nil => exact absurd h List.not_mem_nil
  | cons d cs ih =>
      rw [fitting] at h
      split at h
      next =>
        obtain rfl | hrest := List.mem_cons.1 h
        · exact Or.inl List.mem_cons_self
        · exact (ih hrest).imp_left (List.mem_cons_of_mem d)
      next =>
        split at h
        next => exact absurd h List.not_mem_nil
        next => exact Or.inr (List.mem_singleton.1 h)

end Bpf.Text
