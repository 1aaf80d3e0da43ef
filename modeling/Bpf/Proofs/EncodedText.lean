import Bpf.Proofs.DecodedText

/-!
# Texts read back from their bytes

A character is encoded in one to four bytes, the first of which tells how many there are and each of
the others holds six bits of the code point.  The bytes are always those of the shortest form and never
those of a surrogate, so none of them is taken for the end of a piece that encodes no character, and the
character is read back whatever follows it.  So is every text.
-/

namespace Bpf.Text

/-! ### Single bytes -/

theorem toNat_ofNat_of_lt {n : Nat} (h : n < 256) :
  (UInt8.ofNat n).toNat = n
  := by
  rw [UInt8.toNat_ofNat', Nat.mod_eq_of_lt (by omega)]

theorem toNat_continuation (n : Nat) :
  (UInt8.ofNat (n % 64 + 128)).toNat = n % 64 + 128
  := toNat_ofNat_of_lt (by omega)

theorem isContinuation_continuation (n : Nat) :
  isContinuation (UInt8.ofNat (n % 64 + 128)) = true
  := by
  simp only [isContinuation, Bool.and_eq_true, decide_eq_true_eq, UInt8.le_iff_toNat_le,
    toNat_continuation]
  show 128 ≤ n % 64 + 128 ∧ n % 64 + 128 ≤ 191
  omega

theorem payload_continuation (n : Nat) :
  payload (UInt8.ofNat (n % 64 + 128)) = n % 64
  := by
  rw [payload, toNat_continuation]
  omega

/-- A continuation byte may follow if the form is not overlong and the character is no surrogate and not
beyond the last code point. -/
theorem mayFollow_of {first second : UInt8} (h : isContinuation second = true)
    (hlow₃ : first.toNat = 0xe0 → 0xa0 ≤ second.toNat)
    (hhigh₃ : first.toNat = 0xed → second.toNat ≤ 0x9f)
    (hlow₄ : first.toNat = 0xf0 → 0x90 ≤ second.toNat)
    (hhigh₄ : first.toNat = 0xf4 → second.toNat ≤ 0x8f) :
  mayFollow first second = true
  := by
  simp only [isContinuation, Bool.and_eq_true, decide_eq_true_eq, UInt8.le_iff_toNat_le] at h
  obtain ⟨hlow, hhigh⟩ := h
  unfold mayFollow
  split
  next hfirst =>
    subst hfirst
    simp only [Bool.and_eq_true, decide_eq_true_eq, UInt8.le_iff_toNat_le]
    exact ⟨hlow₃ rfl, hhigh⟩
  split
  next hfirst =>
    subst hfirst
    simp only [Bool.and_eq_true, decide_eq_true_eq, UInt8.le_iff_toNat_le]
    exact ⟨hlow, hhigh₃ rfl⟩
  split
  next hfirst =>
    subst hfirst
    simp only [Bool.and_eq_true, decide_eq_true_eq, UInt8.le_iff_toNat_le]
    exact ⟨hlow₄ rfl, hhigh⟩
  split
  next hfirst =>
    subst hfirst
    simp only [Bool.and_eq_true, decide_eq_true_eq, UInt8.le_iff_toNat_le]
    exact ⟨hlow, hhigh₄ rfl⟩
  next =>
    simp only [isContinuation, Bool.and_eq_true, decide_eq_true_eq, UInt8.le_iff_toNat_le]
    exact ⟨hlow, hhigh⟩

theorem encodedLength_eq_two {first : UInt8} (hlow : 0xc2 ≤ first.toNat)
    (hhigh : first.toNat ≤ 0xdf) :
  encodedLength first = 2
  := by
  revert first
  decide +kernel

theorem encodedLength_eq_three {first : UInt8} (hlow : 0xe0 ≤ first.toNat)
    (hhigh : first.toNat ≤ 0xef) :
  encodedLength first = 3
  := by
  revert first
  decide +kernel

theorem encodedLength_eq_four {first : UInt8} (hlow : 0xf0 ≤ first.toNat)
    (hhigh : first.toNat ≤ 0xf4) :
  encodedLength first = 4
  := by
  revert first
  decide +kernel

/-! ### Characters -/

section Forms

variable {v : Nat} (rest : List UInt8)

theorem pieces_one (h : v ≤ 0x7f) :
  pieces (UInt8.ofNat v :: rest) = some (Char.ofNat v) :: pieces rest
  := by
  have hfirst : (UInt8.ofNat v).toNat = v := toNat_ofNat_of_lt (by omega)
  have hascii : UInt8.ofNat v < 0x80 := by
    rw [UInt8.lt_iff_toNat_lt, hfirst]
    exact Nat.lt_succ_of_le h
  have hpieces := pieces_append hascii [] rest
  rw [hfirst, pieces] at hpieces
  exact hpieces

theorem pieces_two (hlow : 0x80 ≤ v) (hhigh : v ≤ 0x7ff) :
  pieces (UInt8.ofNat (v / 64 % 32 + 192) :: UInt8.ofNat (v % 64 + 128) :: rest)
    = some (Char.ofNat v) :: pieces rest
  := by
  have hfirst : (UInt8.ofNat (v / 64 % 32 + 192)).toNat = v / 64 % 32 + 192 :=
    toNat_ofNat_of_lt (by omega)
  have hlength : encodedLength (UInt8.ofNat (v / 64 % 32 + 192)) = 2 := by
    apply encodedLength_eq_two
    · omega
    · omega
  have hvalue : (v / 64 % 32 + 192) % 32 * 64 + v % 64 = v := by omega
  rw [pieces]
  simp only [firstPiece, hlength, isContinuation_continuation, if_true, hfirst,
    payload_continuation, hvalue]

theorem pieces_three (hlow : 0x800 ≤ v) (hhigh : v ≤ 0xffff) (hvalid : v < 0xd800 ∨ 0xdfff < v) :
  pieces (UInt8.ofNat (v / 4096 % 16 + 224) :: UInt8.ofNat (v / 64 % 64 + 128)
      :: UInt8.ofNat (v % 64 + 128) :: rest)
    = some (Char.ofNat v) :: pieces rest
  := by
  have hfirst : (UInt8.ofNat (v / 4096 % 16 + 224)).toNat = v / 4096 % 16 + 224 :=
    toNat_ofNat_of_lt (by omega)
  have hlength : encodedLength (UInt8.ofNat (v / 4096 % 16 + 224)) = 3 := by
    apply encodedLength_eq_three
    · omega
    · omega
  have hfollow : mayFollow (UInt8.ofNat (v / 4096 % 16 + 224)) (UInt8.ofNat (v / 64 % 64 + 128))
      = true := by
    apply mayFollow_of (isContinuation_continuation _)
    all_goals
      rw [hfirst, toNat_continuation]
      omega
  have hvalue : ((v / 4096 % 16 + 224) % 16 * 64 + v / 64 % 64) * 64 + v % 64 = v := by omega
  rw [pieces]
  simp only [firstPiece, hlength, hfollow, isContinuation_continuation, if_true, hfirst,
    payload_continuation, hvalue]

theorem pieces_four (hlow : 0x10000 ≤ v) (hhigh : v ≤ 0x10ffff) :
  pieces (UInt8.ofNat (v / 262144 % 8 + 240) :: UInt8.ofNat (v / 4096 % 64 + 128)
      :: UInt8.ofNat (v / 64 % 64 + 128) :: UInt8.ofNat (v % 64 + 128) :: rest)
    = some (Char.ofNat v) :: pieces rest
  := by
  have hfirst : (UInt8.ofNat (v / 262144 % 8 + 240)).toNat = v / 262144 % 8 + 240 :=
    toNat_ofNat_of_lt (by omega)
  have hlength : encodedLength (UInt8.ofNat (v / 262144 % 8 + 240)) = 4 := by
    apply encodedLength_eq_four
    · omega
    · omega
  have hfollow : mayFollow (UInt8.ofNat (v / 262144 % 8 + 240))
      (UInt8.ofNat (v / 4096 % 64 + 128)) = true := by
    apply mayFollow_of (isContinuation_continuation _)
    all_goals
      rw [hfirst, toNat_continuation]
      omega
  have hvalue : (((v / 262144 % 8 + 240) % 8 * 64 + v / 4096 % 64) * 64 + v / 64 % 64) * 64
      + v % 64 = v := by omega
  rw [pieces]
  simp only [firstPiece, hlength, hfollow, isContinuation_continuation, if_true, hfirst,
    payload_continuation, hvalue]

end Forms

/-- A character is read back from its bytes, whatever follows them. -/
theorem pieces_utf8EncodeChar (c : Char) (rest : List UInt8) :
  pieces (String.utf8EncodeChar c ++ rest) = some c :: pieces rest
  := by
  obtain ⟨v, hv⟩ : ∃ v, c.val.toNat = v := ⟨c.val.toNat, rfl⟩
  have hc : Char.ofNat v = c := by
    rw [← hv]
    exact Char.ofNat_toNat c
  have hvalid : v < 0xd800 ∨ 0xdfff < v ∧ v < 0x110000 := by
    rw [← hv]
    exact c.valid
  simp only [String.utf8EncodeChar, hv]
  rw [← hc]
  split
  next h => exact pieces_one rest h
  split
  next h h' => exact pieces_two rest (by omega) h'
  split
  next h h' h'' => exact pieces_three rest (by omega) h'' (by omega)
  next h h' h'' => exact pieces_four rest (by omega) (by omega)

/-! ### Texts -/

theorem pieces_encode (s : String) :
  pieces (encode s) = s.toList.map some
  := by
  rw [encode_eq_flatMap]
  induction s.toList with
  | nil => rw [List.flatMap_nil, pieces, List.map_nil]
  | cons c cs ih => rw [List.flatMap_cons, pieces_utf8EncodeChar, ih, List.map_cons]

/-- A text is read back from its bytes. -/
theorem decodeLossy_encode (s : String) :
  decodeLossy (encode s) = s
  := by
  rw [decodeLossy, pieces_encode, List.map_map]
  simp [Function.comp_def]

theorem zero_ne_ofNat_add (m n : Nat) (hm : 0 < m) (h : n + m < 256) :
  0 ≠ UInt8.ofNat (n + m)
  := by
  intro hzero
  have hvalue := congrArg UInt8.toNat hzero
  rw [toNat_ofNat_of_lt h] at hvalue
  change 0 = n + m at hvalue
  omega

/-- The bytes of the longer forms are marked above their payload. -/
theorem zero_not_mem_of_long {c : Char} (h : 0x7f < c.val.toNat) :
  0 ∉ String.utf8EncodeChar c
  := by
  have hne := zero_ne_ofNat_add
  simp only [String.utf8EncodeChar, if_neg (Nat.not_le.2 h)]
  split
  · simp only [List.mem_cons, List.not_mem_nil, or_false, not_or]
    exact ⟨hne _ _ (by omega) (by omega), hne _ _ (by omega) (by omega)⟩
  split
  · simp only [List.mem_cons, List.not_mem_nil, or_false, not_or]
    exact ⟨hne _ _ (by omega) (by omega), hne _ _ (by omega) (by omega),
      hne _ _ (by omega) (by omega)⟩
  · simp only [List.mem_cons, List.not_mem_nil, or_false, not_or]
    exact ⟨hne _ _ (by omega) (by omega), hne _ _ (by omega) (by omega),
      hne _ _ (by omega) (by omega), hne _ _ (by omega) (by omega)⟩

/-- Only a NUL has a zero among its bytes. -/
theorem zero_mem_utf8EncodeChar {c : Char} (h : 0 ∈ String.utf8EncodeChar c) :
  c = '\x00'
  := by
  by_cases hascii : c.val.toNat ≤ 0x7f
  · simp only [String.utf8EncodeChar, if_pos hascii] at h
    have hvalue := congrArg UInt8.toNat (List.mem_singleton.1 h)
    rw [toNat_ofNat_of_lt (by omega)] at hvalue
    exact Char.ext (UInt32.toNat_inj.1 hvalue.symm)
  · exact absurd h (zero_not_mem_of_long (Nat.not_le.1 hascii))

theorem zero_not_mem_encode {s : String} (h : '\x00' ∉ s.toList) :
  0 ∉ encode s
  := by
  rw [encode_eq_flatMap, List.mem_flatMap]
  rintro ⟨c, hc, hzero⟩
  obtain rfl := zero_mem_utf8EncodeChar hzero
  exact h hc

end Bpf.Text
