/-!
# Reading UTF-8

`pieces` splits bytes into the characters they encode and the stretches that encode none, each of
them as long as the beginning of a character that it could have been.  `decode?` reads bytes that
hold characters only, and `decodeLossy` puts a replacement character for every other stretch.
-/

namespace Bpf.Text

/-- A byte that continues a character. -/
def isContinuation (b : UInt8) : Bool := 0x80 ≤ b && b ≤ 0xbf

/-- The second byte that may follow `first` in a character of three or four bytes: neither an
overlong form nor a surrogate nor a code point above the last one begins so. -/
def mayFollow (first second : UInt8) : Bool :=
  if first = 0xe0 then 0xa0 ≤ second && second ≤ 0xbf
  else if first = 0xed then 0x80 ≤ second && second ≤ 0x9f
  else if first = 0xf0 then 0x90 ≤ second && second ≤ 0xbf
  else if first = 0xf4 then 0x80 ≤ second && second ≤ 0x8f
  else isContinuation second

/-- The low six bits of a continuation byte. -/
def payload (b : UInt8) : Nat := b.toNat % 64

/-- How many bytes a character with this first byte has; none begins with the others. -/
def encodedLength (first : UInt8) : Nat :=
  if first < 0x80 then 1
  else if 0xc2 ≤ first && first ≤ 0xdf then 2
  else if 0xe0 ≤ first && first ≤ 0xef then 3
  else if 0xf0 ≤ first && first ≤ 0xf4 then 4
  else 0

/-- The first piece of `first :: rest`, a character or a stretch that encodes none, and the bytes
after it. -/
def firstPiece (first : UInt8) (rest : List UInt8) : Option Char × List UInt8 :=
  match encodedLength first, rest with
  | 1, _ => (some (Char.ofNat first.toNat), rest)
  | 2, b :: after =>
    if isContinuation b then (some (Char.ofNat (first.toNat % 32 * 64 + payload b)), after)
    else (none, rest)
  | 3, b :: after =>
    if mayFollow first b then
      match after with
      | c :: after' =>
        if isContinuation c then
          (some (Char.ofNat ((first.toNat % 16 * 64 + payload b) * 64 + payload c)), after')
        else (none, after)
      | [] => (none, [])
    else (none, rest)
  | 4, b :: after =>
    if mayFollow first b then
      match after with
      | c :: after' =>
        if isContinuation c then
          match after' with
          | d :: after'' =>
            if isContinuation d then
              (some (Char.ofNat (((first.toNat % 8 * 64 + payload b) * 64 + payload c) * 64
                + payload d)), after'')
            else (none, after')
          | [] => (none, [])
        else (none, after)
      | [] => (none, [])
    else (none, rest)
  | _, _ => (none, rest)

theorem length_firstPiece_le (first : UInt8) (rest : List UInt8) :
  (firstPiece first rest).2.length ≤ rest.length
  := by
  unfold firstPiece
  split
  · simp
  · split <;> simp
  · split
    · split
      · split
        · simp
          omega
        · simp
      · simp
    · simp
  · split
    · split
      · split
        · split
          · split
            · simp
              omega
            · simp
          · simp
        · simp
      · simp
    · simp
  · simp

/-- The characters that the bytes encode, with `none` for a stretch that encodes none. -/
def pieces : List UInt8 → List (Option Char)
  | [] => []
  | first :: rest => (firstPiece first rest).1 :: pieces (firstPiece first rest).2
termination_by bytes => bytes.length
decreasing_by
  have := length_firstPiece_le first rest
  simp only [List.length_cons]
  omega

/-- The text that the bytes encode, if they encode one. -/
def decode? (bytes : List UInt8) : Option String :=
  ((pieces bytes).mapM id).map String.ofList

/-- The character that stands for a stretch of bytes that encodes none. -/
def replacement : Char := '\ufffd'

/-- The text that the bytes encode, with a replacement for every stretch that encodes none. -/
def decodeLossy (bytes : List UInt8) : String :=
  String.ofList ((pieces bytes).map (·.getD replacement))

/-- The bytes that encode the text. -/
def encode (s : String) : List UInt8 := s.toUTF8.toList

end Bpf.Text
