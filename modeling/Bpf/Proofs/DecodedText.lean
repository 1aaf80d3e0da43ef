import Bpf.Feature.ProgramTypes
import Bpf.Linux.Log
import Mathlib.Data.FinEnum
import Mathlib.Data.List.Infix
import Mathlib.Data.List.TakeWhile

/-!
# Texts in bytes

A byte of ASCII is a character of its own wherever it stands: what comes before it, well-formed or
not, ends with it.  So a text is cut into lines at the bytes of its line feeds, and a phrase in ASCII
whose bytes stand in a line is found in that line when the bytes have been read.  `logLines` therefore
keeps the last line of a log that is not blank, whatever the bytes before it are.
-/

namespace Bpf.Text

/-! ### Pieces -/

theorem not_isContinuation_of_lt {c : UInt8} (h : c < 0x80) :
  isContinuation c = false
  := by
  have h : c.toNat < 128 := UInt8.lt_iff_toNat_lt.1 h
  simp only [isContinuation, Bool.and_eq_false_iff, decide_eq_false_iff_not,
    UInt8.le_iff_toNat_le]
  apply Or.inl
  show ¬ 128 ≤ c.toNat
  omega

theorem isContinuation_of_mayFollow {first second : UInt8} (h : mayFollow first second = true) :
  isContinuation second = true
  := by
  simp only [mayFollow, isContinuation] at h ⊢
  grind

theorem not_mayFollow_of_lt {first second : UInt8} (h : second < 0x80) :
  mayFollow first second = false
  := by
  rw [← Bool.not_eq_true]
  intro hfollow
  have hcontinuation := isContinuation_of_mayFollow hfollow
  rw [not_isContinuation_of_lt h] at hcontinuation
  cases hcontinuation

/-- A byte of ASCII belongs to no piece that has begun before it. -/
theorem firstPiece_append {c : UInt8} (h : c < 0x80) (first : UInt8) (rest b : List UInt8) :
  firstPiece first (rest ++ c :: b)
    = ((firstPiece first rest).1, (firstPiece first rest).2 ++ c :: b)
  := by
  have hc := not_isContinuation_of_lt h
  have hfirst : mayFollow first c = false := not_mayFollow_of_lt h
  -- The piece is at most four bytes long, so `c` is met after at most three bytes of `rest`.
  rcases hlength : encodedLength first with _ | _ | _ | _ | _ | n
  · simp [firstPiece, hlength]
  · simp [firstPiece, hlength]
  · rcases rest with _ | ⟨x, rest⟩
    · simp [firstPiece, hlength, hc]
    · simp only [firstPiece, hlength, List.cons_append]
      split
      · rfl
      · rfl
  · rcases rest with _ | ⟨x, _ | ⟨y, rest⟩⟩
    · simp [firstPiece, hlength, hfirst]
    · simp only [firstPiece, hlength, List.cons_append, List.nil_append, hc]
      split
      · rfl
      · rfl
    · simp only [firstPiece, hlength, List.cons_append]
      split
      · split
        · rfl
        · rfl
      · rfl
  · rcases rest with _ | ⟨x, _ | ⟨y, _ | ⟨z, rest⟩⟩⟩
    · simp [firstPiece, hlength, hfirst]
    · simp only [firstPiece, hlength, List.cons_append, List.nil_append, hc]
      split
      · rfl
      · rfl
    · simp only [firstPiece, hlength, List.cons_append, List.nil_append, hc]
      split
      · split
        · rfl
        · rfl
      · rfl
    · simp only [firstPiece, hlength, List.cons_append]
      split
      · split
        · split
          · rfl
          · rfl
        · rfl
      · rfl
  · simp [firstPiece, hlength]

theorem pieces_append {c : UInt8} (h : c < 0x80) (a b : List UInt8) :
  pieces (a ++ c :: b) = pieces a ++ some (Char.ofNat c.toNat) :: pieces b
  := by
  induction a using pieces.induct with
  | case1 =>
      have hlength : encodedLength c = 1 := if_pos h
      have hfirst : firstPiece c b = (some (Char.ofNat c.toNat), b) := by
        simp only [firstPiece, hlength]
      simp only [List.nil_append, pieces, hfirst]
  | case2 first rest ih =>
      simp only [List.cons_append, pieces, firstPiece_append h, ih]

theorem firstPiece_suffix (first : UInt8) (rest : List UInt8) :
  (firstPiece first rest).2 <:+ rest
  := by
  have hcons (b : UInt8) (rest : List UInt8) : rest <:+ b :: rest := List.suffix_cons b rest
  unfold firstPiece
  split
  · apply List.suffix_refl
  · split
    · apply hcons
    · apply List.suffix_refl
  · split
    · split
      · split
        · apply (hcons _ _).trans (hcons _ _)
        · apply hcons
      · apply List.nil_suffix
    · apply List.suffix_refl
  · split
    · split
      · split
        · split
          · split
            · apply (hcons _ _).trans ((hcons _ _).trans (hcons _ _))
            · apply (hcons _ _).trans (hcons _ _)
          · apply List.nil_suffix
        · apply hcons
      · apply List.nil_suffix
    · apply List.suffix_refl
  · apply List.suffix_refl

/-! ### Line feeds -/

theorem eq_of_ofNat_eq_newline {n : Nat} (h : Char.ofNat n = '\n') :
  n = 10
  := by
  have hn : (Char.ofNat n).toNat = 10 := congrArg Char.toNat h
  by_cases hvalid : n.isValidChar
  · rw [Char.ofNat, dif_pos hvalid] at hn
    apply hn
  · rw [Char.ofNat, dif_neg hvalid] at hn
    cases hn

theorem leading_ne_zero_of_two {first : UInt8} (h : encodedLength first = 2) :
  first.toNat % 32 ≠ 0
  := by
  revert first
  decide +kernel

/-- There are no overlong forms of three bytes. -/
theorem leading_ne_zero_of_three {first second : UInt8} (h : encodedLength first = 3)
    (hfollow : mayFollow first second = true) :
  first.toNat % 16 * 64 + payload second ≠ 0
  := by
  by_cases hfirst : first = 0xe0
  · subst hfirst
    simp [mayFollow, payload, UInt8.le_iff_toNat_le] at hfollow ⊢
    omega
  · have hleading : ∀ first : UInt8, encodedLength first = 3 → first ≠ 0xe0 →
        first.toNat % 16 ≠ 0 := by
      decide +kernel
    have := hleading first h hfirst
    omega

/-- There are no overlong forms of four bytes. -/
theorem leading_ne_zero_of_four {first second : UInt8} (h : encodedLength first = 4)
    (hfollow : mayFollow first second = true) :
  first.toNat % 8 * 64 + payload second ≠ 0
  := by
  by_cases hfirst : first = 0xf0
  · subst hfirst
    simp [mayFollow, payload, UInt8.le_iff_toNat_le] at hfollow ⊢
    omega
  · have hleading : ∀ first : UInt8, encodedLength first = 4 → first ≠ 0xf0 →
        first.toNat % 8 ≠ 0 := by
      decide +kernel
    have := hleading first h hfirst
    omega

/-- No longer piece is a line feed, since no form is overlong. -/
theorem eq_of_firstPiece_eq_newline {first : UInt8} {rest : List UInt8}
    (h : (firstPiece first rest).1 = some '\n') :
  first = 10
  := by
  unfold firstPiece at h
  split at h
  · apply UInt8.toNat_inj.1 (eq_of_ofNat_eq_newline (Option.some.inj h))
  next b after hlength =>
    split at h
    · have := leading_ne_zero_of_two hlength
      have := eq_of_ofNat_eq_newline (Option.some.inj h)
      omega
    · cases h
  next b after hlength =>
    split at h
    next hfollow =>
      have := leading_ne_zero_of_three hlength hfollow
      split at h
      · split at h
        · have := eq_of_ofNat_eq_newline (Option.some.inj h)
          omega
        · cases h
      · cases h
    next => cases h
  next b after hlength =>
    split at h
    next hfollow =>
      have := leading_ne_zero_of_four hlength hfollow
      split at h
      · split at h
        · split at h
          · split at h
            · have := eq_of_ofNat_eq_newline (Option.some.inj h)
              omega
            · cases h
          · cases h
        · cases h
      · cases h
    next => cases h
  · cases h

theorem newline_not_mem_pieces {bytes : List UInt8} (h : 10 ∉ bytes) :
  some '\n' ∉ pieces bytes
  := by
  induction bytes using pieces.induct with
  | case1 =>
      rw [pieces]
      apply List.not_mem_nil
  | case2 first rest ih =>
      rw [pieces]
      intro hmem
      obtain hfirst | hrest := List.mem_cons.1 hmem
      · apply h
        rw [eq_of_firstPiece_eq_newline hfirst.symm]
        apply List.mem_cons_self
      · apply ih _ hrest
        intro hnewline
        apply h
        apply List.mem_cons_of_mem
        apply (firstPiece_suffix first rest).mem hnewline

/-! ### Decoded texts -/

theorem toList_decodeLossy (bytes : List UInt8) :
  (decodeLossy bytes).toList = (pieces bytes).map (·.getD replacement)
  := String.toList_ofList

theorem toList_decodeLossy_append {c : UInt8} (h : c < 0x80) (a b : List UInt8) :
  (decodeLossy (a ++ c :: b)).toList
    = (decodeLossy a).toList ++ Char.ofNat c.toNat :: (decodeLossy b).toList
  := by
  simp only [toList_decodeLossy, pieces_append h, List.map_append, List.map_cons,
    Option.getD_some]

theorem toList_decodeLossy_newline (a b : List UInt8) :
  (decodeLossy (a ++ 10 :: b)).toList = (decodeLossy a).toList ++ '\n' :: (decodeLossy b).toList
  := toList_decodeLossy_append (by decide) a b

theorem newline_not_mem_decodeLossy {bytes : List UInt8} (h : 10 ∉ bytes) :
  '\n' ∉ (decodeLossy bytes).toList
  := by
  rw [toList_decodeLossy]
  intro hmem
  obtain ⟨piece, hpiece, hnewline⟩ := List.mem_map.1 hmem
  cases piece with
  | none =>
      apply absurd hnewline
      decide
  | some c =>
      cases hnewline
      apply newline_not_mem_pieces h hpiece

/-! ### Phrases in ASCII -/

/-- The byte of an ASCII character. -/
def asciiByte (c : Char) : UInt8 := UInt8.ofNat c.toNat

theorem toList_decodeLossy_asciiByte {c : Char} (h : c.toNat < 0x80) (a b : List UInt8) :
  (decodeLossy (a ++ asciiByte c :: b)).toList
    = (decodeLossy a).toList ++ c :: (decodeLossy b).toList
  := by
  have hbyte : (asciiByte c).toNat = c.toNat := by
    rw [asciiByte, UInt8.toNat_ofNat', Nat.mod_eq_of_lt (by omega)]
  have hlt : asciiByte c < 0x80 := by
    rw [UInt8.lt_iff_toNat_lt, hbyte]
    apply h
  rw [toList_decodeLossy_append hlt, hbyte, Char.ofNat_toNat]

theorem toList_decodeLossy_ascii {cs : List Char} (h : ∀ c ∈ cs, c.toNat < 0x80) (b : List UInt8) :
  (decodeLossy (cs.map asciiByte ++ b)).toList = cs ++ (decodeLossy b).toList
  := by
  induction cs with
  | nil => rfl
  | cons c cs ih =>
      have hfirst := toList_decodeLossy_asciiByte (h c List.mem_cons_self) [] (cs.map asciiByte ++ b)
      have hnil : (decodeLossy []).toList = [] := by rw [toList_decodeLossy, pieces, List.map_nil]
      rw [hnil, ih fun d hd => h d (List.mem_cons_of_mem c hd)] at hfirst
      apply hfirst

theorem toList_loop_eq (bytes : ByteArray) (i : Nat) (read : List UInt8) :
  ByteArray.toList.loop bytes i read = read.reverse ++ bytes.data.toList.drop i
  := by
  induction i, read using ByteArray.toList.loop.induct bytes with
  | case1 i read h ih =>
      have hi : i < bytes.data.toList.length := by simpa using h
      rw [ByteArray.toList.loop, if_pos h, ih, List.drop_eq_getElem_cons hi]
      simp [ByteArray.get!, h]
  | case2 i read h =>
      have hi : bytes.data.toList.length ≤ i := by simpa using h
      rw [ByteArray.toList.loop, if_neg h, List.drop_eq_nil_of_le hi, List.append_nil]

theorem encode_eq_flatMap (s : String) :
  encode s = s.toList.flatMap String.utf8EncodeChar
  := by
  have hbytes : s.toByteArray = s.toList.utf8Encode := by
    rw [← String.toByteArray_ofList, String.ofList_toList]
  rw [encode, String.toUTF8_eq_toByteArray, hbytes, List.utf8Encode, ByteArray.toList,
    toList_loop_eq, List.toList_data_toByteArray]
  rfl

theorem encode_ascii {s : String} (h : ∀ c ∈ s.toList, c.toNat < 0x80) :
  encode s = s.toList.map asciiByte
  := by
  have hchar (c : Char) (hc : c ∈ s.toList) : String.utf8EncodeChar c = [asciiByte c] := by
    have hle : c.val.toNat ≤ 127 := Nat.le_of_lt_succ (h c hc)
    simp only [String.utf8EncodeChar, hle, if_true]
    rfl
  rw [encode_eq_flatMap, List.map_eq_flatMap, List.flatMap, List.flatMap,
    List.map_congr_left hchar]

/-- A phrase in ASCII whose bytes are among other bytes is in the text that is read from them. -/
theorem infix_decodeLossy {phrase : String} (hascii : ∀ c ∈ phrase.toList, c.toNat < 0x80)
    {bytes : List UInt8} (h : encode phrase <:+: bytes) :
  phrase.toList <:+: (decodeLossy bytes).toList
  := by
  obtain ⟨a, b, rfl⟩ := h
  rw [encode_ascii hascii]
  cases hphrase : phrase.toList with
  | nil => apply List.nil_infix
  | cons c cs =>
      rw [hphrase] at hascii
      have hc := toList_decodeLossy_asciiByte (hascii c List.mem_cons_self) a (cs.map asciiByte ++ b)
      rw [toList_decodeLossy_ascii fun d hd => hascii d (List.mem_cons_of_mem c hd)] at hc
      rw [List.append_assoc, List.map_cons, List.cons_append, hc]
      apply Exists.intro (decodeLossy a).toList
      apply Exists.intro (decodeLossy b).toList
      simp

theorem occurs_iff (phrase text : List Char) :
  occurs phrase text = true ↔ phrase <:+: text
  := by
  induction text with
  | nil => simp [occurs]
  | cons c rest ih =>
      rw [occurs, Bool.or_eq_true, List.isPrefixOf_iff_prefix, ih, List.infix_cons_iff]

/-! ### Lines -/

theorem linesFrom_append (current a b : List Char) :
  linesFrom current (a ++ '\n' :: b) = linesFrom current (a ++ ['\n']) ++ linesFrom [] b
  := by
  induction a generalizing current with
  | nil => simp [linesFrom]
  | cons c a ih =>
      simp only [List.cons_append, linesFrom]
      split
      · rw [ih, List.cons_append]
      · apply ih

/-- What has no line feed in it goes on with the same line. -/
theorem linesFrom_of_not_mem {text : List Char} (h : '\n' ∉ text) (current b : List Char) :
  linesFrom current (text ++ b) = linesFrom (text.reverse ++ current) b
  := by
  induction text generalizing current with
  | nil => rfl
  | cons c text ih =>
      rw [List.mem_cons, not_or] at h
      rw [List.cons_append, linesFrom, if_neg (Ne.symm h.1), ih h.2, List.reverse_cons,
        List.append_assoc]
      rfl

/-- Nothing but a carriage return is dropped. -/
theorem dropReturn_cases (line : List Char) :
  line = dropReturn line ∨ line = dropReturn line ++ ['\r']
  := by
  unfold dropReturn
  split
  next rest hrest =>
    apply Or.inr
    rw [← List.reverse_reverse line, hrest, List.reverse_cons]
  next => apply Or.inl rfl

theorem infix_dropReturn {phrase line : List Char} (hreturn : '\r' ∉ phrase)
    (h : phrase <:+: line) :
  phrase <:+: dropReturn line
  := by
  obtain hline | hline := dropReturn_cases line
  · rw [← hline]
    apply h
  · rw [hline, List.infix_concat_iff] at h
    obtain hsuffix | hoccurs := h
    · obtain rfl | ⟨t, rfl, -⟩ := List.suffix_concat_iff.1 hsuffix
      · apply List.nil_infix
      · apply absurd _ hreturn
        simp
    · apply hoccurs

theorem all_isBlank_dropReturn (line : List Char) :
  (dropReturn line).all isBlank = line.all isBlank
  := by
  have hreturn : isBlank '\r' = true := by decide
  obtain h | h := dropReturn_cases line
  · rw [← h]
  · conv_rhs => rw [h]
    rw [List.all_append, List.all_cons, hreturn, List.all_nil, Bool.and_true, Bool.and_true]

/-- All the lines are blank if and only if the text is. -/
theorem all_isBlank_linesFrom (current text : List Char) :
  (linesFrom current text).all (·.all isBlank) = (current.all isBlank && text.all isBlank)
  := by
  have hnewline : isBlank '\n' = true := by decide
  induction text generalizing current with
  | nil =>
      rw [linesFrom]
      cases current with
      | nil => rfl
      | cons c current => simp [Bool.and_comm]
  | cons c text ih =>
      rw [linesFrom]
      split
      next hc =>
        rw [List.all_cons, all_isBlank_dropReturn, ih, List.all_reverse, hc, List.all_cons, hnewline,
          List.all_nil]
      next =>
        rw [ih, List.all_cons, List.all_cons, Bool.and_assoc, Bool.and_left_comm]

theorem all_isBlankText_lines (s : String) :
  (lines s).all isBlankText = isBlankText s
  := by
  have hlines := all_isBlank_linesFrom [] s.toList
  simpa [lines, isBlankText, Function.comp_def] using hlines

/-! ### The last line -/

/-- A phrase in ASCII that has something to see on one line. -/
structure IsPhrase (phrase : String) : Prop where
  ascii : ∀ c ∈ phrase.toList, c.toNat < 0x80
  no_return : '\r' ∉ phrase.toList
  visible : isBlankText phrase = false

namespace IsPhrase

variable {phrase : String} (h : IsPhrase phrase)

include h

theorem encode_ne_nil :
  encode phrase ≠ []
  := by
  intro hnil
  have hvisible := h.visible
  rw [encode_ascii h.ascii, List.map_eq_nil_iff] at hnil
  rw [isBlankText, hnil] at hvisible
  cases hvisible

theorem visible_of_infix {line : List Char} (hline : phrase.toList <:+: line) :
  line.all isBlank = false
  := by
  obtain ⟨c, hc, hvisible⟩ := List.all_eq_false.1 h.visible
  apply List.all_eq_false.2
  apply Exists.intro c
  constructor
  · apply hline.mem hc
  · apply hvisible

end IsPhrase

/-- The line is among the lines, and there are only blank ones after it. -/
def EndsIn (line : List Char) (lines : List (List Char)) : Prop :=
  ∃ before after, lines = before ++ line :: after ∧ after.all (·.all isBlank) = true

theorem EndsIn.append {line : List Char} {lines : List (List Char)} (h : EndsIn line lines)
    (earlier : List (List Char)) :
  EndsIn line (earlier ++ lines)
  := by
  obtain ⟨before, after, rfl, hafter⟩ := h
  apply Exists.intro (earlier ++ before)
  apply Exists.intro after
  constructor
  · rw [List.append_assoc]
  · apply hafter

/-- Blank lines are nothing at all, or a line feed and a blank text. -/
theorem blankLines_cases {blanks : List (List UInt8)}
    (h : ∀ blank ∈ blanks, isBlankText (decodeLossy blank) = true) :
  blanks.flatMap (10 :: ·) = []
    ∨ ∃ blank, blanks.flatMap (10 :: ·) = 10 :: blank ∧ isBlankText (decodeLossy blank) = true
  := by
  have hnewline : isBlank '\n' = true := by decide
  induction blanks with
  | nil => apply Or.inl rfl
  | cons blank blanks ih =>
      have hblank := h blank List.mem_cons_self
      apply Or.inr
      rw [List.flatMap_cons]
      obtain hnil | ⟨rest, hrest, hblankRest⟩ := ih fun b hb => h b (List.mem_cons_of_mem blank hb)
      · rw [hnil, List.append_nil]
        apply Exists.intro blank ⟨rfl, hblank⟩
      · rw [hrest]
        apply Exists.intro (blank ++ 10 :: rest)
        constructor
        · rfl
        · unfold isBlankText at hblank hblankRest ⊢
          rw [toList_decodeLossy_newline, List.all_append, hblank, List.all_cons, hnewline,
            hblankRest]
          rfl

/-- There is no line feed, or there is a last one. -/
theorem lastLine_cases (bytes : List UInt8) :
  10 ∉ bytes ∨ ∃ earlier start, bytes = earlier ++ 10 :: start ∧ 10 ∉ start
  := by
  by_cases h : 10 ∈ bytes
  · obtain ⟨start, earlier, hbytes, hstart⟩ := List.eq_append_cons_of_mem (List.mem_reverse.2 h)
    apply Or.inr
    apply Exists.intro earlier.reverse
    apply Exists.intro start.reverse
    constructor
    · rw [← List.reverse_reverse bytes, hbytes, List.reverse_append, List.reverse_cons,
        List.append_assoc]
      rfl
    · rw [List.mem_reverse]
      apply hstart
  · apply Or.inl h

section LastLine

variable {line : List UInt8} (hline : 10 ∉ line) (hne : line ≠ []) {blanks : List (List UInt8)}
variable (hblanks : ∀ blank ∈ blanks, isBlankText (decodeLossy blank) = true)

include hline hne hblanks

/-- A single line and blank ones after it. -/
theorem exists_endsIn_line :
  ∃ last, EndsIn last (linesFrom [] (decodeLossy (line ++ blanks.flatMap (10 :: ·))).toList)
    ∧ (last = (decodeLossy line).toList ∨ last = dropReturn (decodeLossy line).toList)
  := by
  have hnewline := newline_not_mem_decodeLossy hline
  obtain hnil | ⟨blank, hblank, hblankText⟩ := blankLines_cases hblanks
  · have hlines := linesFrom_of_not_mem hnewline [] []
    have htext : (decodeLossy line).toList ≠ [] := by
      rw [toList_decodeLossy, Ne, List.map_eq_nil_iff]
      cases line with
      | nil => apply absurd rfl hne
      | cons first rest =>
          rw [pieces]
          apply List.cons_ne_nil
    rw [List.append_nil, List.append_nil, linesFrom, if_neg (by simpa using htext),
      List.reverse_reverse] at hlines
    rw [hnil, List.append_nil, hlines]
    apply Exists.intro (decodeLossy line).toList
    constructor
    · apply Exists.intro []
      apply Exists.intro []
      constructor
      · rfl
      · rfl
    · apply Or.inl rfl
  · have hlines := linesFrom_of_not_mem hnewline [] ('\n' :: (decodeLossy blank).toList)
    rw [List.append_nil, linesFrom, if_pos rfl, List.reverse_reverse] at hlines
    rw [hblank, toList_decodeLossy_newline, hlines]
    apply Exists.intro (dropReturn (decodeLossy line).toList)
    constructor
    · apply Exists.intro []
      apply Exists.intro (linesFrom [] (decodeLossy blank).toList)
      constructor
      · rfl
      · rw [all_isBlank_linesFrom]
        apply hblankText
    · apply Or.inr rfl

/-- The phrases of the last line that is not blank are found in it, whatever the bytes before it. -/
theorem exists_endsIn (earlier : List UInt8) :
  ∃ last, EndsIn last
      (linesFrom [] (decodeLossy (earlier ++ line ++ blanks.flatMap (10 :: ·))).toList)
    ∧ ∀ phrase, IsPhrase phrase → encode phrase <:+: line → phrase.toList <:+: last
  := by
  -- The line in the text begins after the last line feed among the bytes before.
  have hwhole (start : List UInt8) (hstart : 10 ∉ start) :
      ∃ last, EndsIn last
          (linesFrom [] (decodeLossy (start ++ line ++ blanks.flatMap (10 :: ·))).toList)
        ∧ ∀ phrase, IsPhrase phrase → encode phrase <:+: line → phrase.toList <:+: last := by
    have hline : 10 ∉ start ++ line := by
      rw [List.mem_append, not_or]
      exact ⟨hstart, hline⟩
    have hne : start ++ line ≠ [] := List.append_ne_nil_of_right_ne_nil start hne
    obtain ⟨last, hlast, hcases⟩ := exists_endsIn_line hline hne hblanks
    apply Exists.intro last
    constructor
    · apply hlast
    · intro phrase hphrase hoccurs
      have hwhole := infix_decodeLossy hphrase.ascii
        (hoccurs.trans (List.suffix_append start line).isInfix)
      obtain rfl | rfl := hcases
      · apply hwhole
      · apply infix_dropReturn hphrase.no_return hwhole
  obtain hearlier | ⟨before, start, rfl, hstart⟩ := lastLine_cases earlier
  · apply hwhole earlier hearlier
  · obtain ⟨last, hlast, hphrases⟩ := hwhole start hstart
    apply Exists.intro last
    constructor
    · have hbytes : before ++ 10 :: start ++ line ++ blanks.flatMap (10 :: ·)
          = before ++ 10 :: (start ++ line ++ blanks.flatMap (10 :: ·)) := by
        simp only [List.append_assoc, List.cons_append]
      rw [hbytes, toList_decodeLossy_newline, linesFrom_append]
      apply hlast.append
    · apply hphrases

end LastLine

end Bpf.Text

namespace Bpf.Linux

/-! ### Logs -/

theorem beforeNul_take {text : List UInt8} (hnul : 0 ∉ text) {room : Nat}
    (hroom : text.length ≤ room) (rest : List UInt8) :
  beforeNul ((text ++ 0 :: rest).take room) = text
  := by
  have htext : ∀ b ∈ text, decide (b ≠ 0) = true := by
    intro b hb
    rw [decide_eq_true_iff]
    rintro rfl
    apply hnul hb
  rw [beforeNul, List.take_append, List.take_of_length_le hroom,
    List.takeWhile_append_of_pos htext]
  cases room - text.length with
  | zero => rw [List.take_zero, List.takeWhile_nil, List.append_nil]
  | succ n =>
      rw [List.take_succ_cons, List.takeWhile_cons_of_neg (by decide), List.append_nil]

theorem dropBlankEnd_append {blanks : List String} (hblanks : blanks.all Text.isBlankText = true)
    {line : String} (hline : Text.isBlankText line = false) (init : List String) :
  dropBlankEnd (init ++ line :: blanks) = init ++ [line]
  := by
  have hdrop : (blanks.reverse ++ line :: init.reverse).dropWhile Text.isBlankText
      = (line :: init.reverse).dropWhile Text.isBlankText := by
    apply List.dropWhile_append_of_pos
    intro blank hblank
    apply List.all_eq_true.1 hblanks blank (List.mem_reverse.1 hblank)
  rw [dropBlankEnd, List.reverse_append, List.reverse_cons, List.append_assoc,
    List.singleton_append, hdrop, List.dropWhile_cons_of_neg (by simp [hline]), List.reverse_cons,
    List.reverse_reverse]

/-- A log is empty if and only if its text is blank. -/
theorem logLines_eq_nil_iff (buffer : List UInt8) :
  logLines buffer = [] ↔ Text.isBlankText (Text.decodeLossy (beforeNul buffer)) = true
  := by
  rw [← Text.all_isBlankText_lines, logLines, dropBlankEnd, List.reverse_eq_nil_iff,
    List.dropWhile_eq_nil_iff, List.all_eq_true]
  simp

/-- A line with something to see is the last one of the log if only blank lines follow it. -/
theorem logLines_of_endsIn {buffer : List UInt8} {last : List Char}
    (h : Text.EndsIn last (Text.linesFrom [] (Text.decodeLossy (beforeNul buffer)).toList))
    (hvisible : last.all Text.isBlank = false) :
  ∃ before, logLines buffer = before ++ [String.ofList last]
  := by
  obtain ⟨before, after, hlines, hafter⟩ := h
  apply Exists.intro (before.map String.ofList)
  have hblank : (after.map String.ofList).all Text.isBlankText = true := by
    simpa [Text.isBlankText, Function.comp_def] using hafter
  have hlast : Text.isBlankText (String.ofList last) = false := by
    rw [Text.isBlankText, String.toList_ofList]
    apply hvisible
  rw [logLines, Text.lines, hlines, List.map_append, List.map_cons,
    dropBlankEnd_append hblank hlast]

end Bpf.Linux

namespace Bpf

/-- The last line of a log is read. -/
theorem logTellsAll_concat {line : String} {phrases : List String}
    (h : ∀ phrase ∈ phrases, phrase.toList <:+: line.toList) (log : List String) :
  logTellsAll (log ++ [line]) phrases = true
  := by
  rw [logTellsAll, List.any_eq_true]
  apply Exists.intro line
  constructor
  · rw [List.drop_append_of_le_length (by simp), List.mem_append]
    apply Or.inr List.mem_cons_self
  · rw [List.all_eq_true]
    intro phrase hphrase
    apply (Text.occurs_iff phrase.toList line.toList).2 (h phrase hphrase)

/-- A log tells what its last line with something to see tells, whatever the bytes before it. -/
theorem logTellsAll_logLines {buffer earlier line : List UInt8} {blanks : List (List UInt8)}
    (hbuffer : Linux.beforeNul buffer = earlier ++ line ++ blanks.flatMap (10 :: ·))
    (hline : 10 ∉ line)
    (hblanks : ∀ blank ∈ blanks, Text.isBlankText (Text.decodeLossy blank) = true)
    {phrases : List String} (hne : phrases ≠ [])
    (hphrases : ∀ phrase ∈ phrases, Text.IsPhrase phrase ∧ Text.encode phrase <:+: line) :
  logTellsAll (Linux.logLines buffer) phrases = true
  := by
  obtain ⟨shown, hshown⟩ := List.exists_mem_of_ne_nil phrases hne
  obtain ⟨hphrase, hoccurs⟩ := hphrases shown hshown
  have hlineNe : line ≠ [] := by
    rintro rfl
    apply hphrase.encode_ne_nil (List.infix_nil.1 hoccurs)
  obtain ⟨last, hlast, hfound⟩ := Text.exists_endsIn hline hlineNe hblanks earlier
  rw [← hbuffer] at hlast
  have hvisible := hphrase.visible_of_infix (hfound shown hphrase hoccurs)
  obtain ⟨before, hlog⟩ := Linux.logLines_of_endsIn hlast hvisible
  rw [hlog]
  apply logTellsAll_concat
  intro phrase hphrase
  obtain ⟨hphrase, hoccurs⟩ := hphrases phrase hphrase
  rw [String.toList_ofList]
  apply hfound phrase hphrase hoccurs

end Bpf
