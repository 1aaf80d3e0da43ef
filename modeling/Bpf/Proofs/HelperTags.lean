import Bpf.Proofs.HelperLog

/-!
# Helpers named in a log

The verifier marks a helper by a hash sign and its number.  A line is searched for the mark of a helper
as for any other phrase, so the mark of one helper is also found where the number of another one goes
on with more digits.  `Text.marks` reads the numbers behind the hash signs of a line whole; in terms of
it, a line that names one helper decides about another one exactly if the number of the latter is the
beginning of the number of the former.
-/

namespace Bpf

/-! ### Marks -/

namespace Text

/-- The runs of digits behind the hash signs of a text, each as long as it goes. -/
def marks : List Char → List (List Char)
  | [] => []
  | c :: rest =>
    let digits := rest.takeWhile Char.isDigit
    if c = '#' ∧ digits ≠ [] then digits :: marks rest else marks rest

theorem mem_marks_cons {run : List Char} {c : Char} {rest : List Char} :
  run ∈ marks (c :: rest)
    ↔ (c = '#' ∧ run ≠ [] ∧ run = rest.takeWhile Char.isDigit) ∨ run ∈ marks rest
  := by
  simp only [marks]
  split
  next h =>
    obtain ⟨hc, hdigits⟩ := h
    rw [List.mem_cons]
    constructor
    · rintro (rfl | hmem)
      · exact Or.inl ⟨hc, hdigits, rfl⟩
      · exact Or.inr hmem
    · rintro (⟨-, -, heq⟩ | hmem)
      · exact Or.inl heq
      · exact Or.inr hmem
  next h =>
    constructor
    · exact Or.inr
    · rintro (⟨hc, hne, rfl⟩ | hmem)
      · exact absurd ⟨hc, hne⟩ h
      · exact hmem

theorem prefix_takeWhile_iff {p : Char → Bool} {begin : List Char} (h : ∀ c ∈ begin, p c = true)
    (text : List Char) :
  begin <+: text.takeWhile p ↔ begin <+: text
  := by
  constructor
  · intro hbegin
    apply hbegin.trans (List.takeWhile_prefix p)
  · rintro ⟨rest, rfl⟩
    rw [List.takeWhile_append_of_pos h]
    apply List.prefix_append

/-- A number behind a hash sign is found where one of the marks begins with it. -/
theorem mark_infix_iff {digits : List Char} (hne : digits ≠ [])
    (hdigits : ∀ c ∈ digits, c.isDigit = true) (text : List Char) :
  '#' :: digits <:+: text ↔ ∃ run ∈ marks text, digits <+: run
  := by
  induction text with
  | nil => simp [marks]
  | cons c rest ih =>
      rw [List.infix_cons_iff, List.cons_prefix_cons, ih, ← prefix_takeWhile_iff hdigits]
      constructor
      · rintro (⟨rfl, hbegin⟩ | ⟨run, hrun, hbegin⟩)
        · refine ⟨_, mem_marks_cons.2 (Or.inl ⟨rfl, ?_, rfl⟩), hbegin⟩
          rintro hnil
          rw [hnil, List.prefix_nil] at hbegin
          exact hne hbegin
        · exact ⟨run, mem_marks_cons.2 (Or.inr hrun), hbegin⟩
      · rintro ⟨run, hrun, hbegin⟩
        rcases mem_marks_cons.1 hrun with ⟨rfl, -, rfl⟩ | hrun
        · exact Or.inl ⟨rfl, hbegin⟩
        · exact Or.inr ⟨run, hrun, hbegin⟩

theorem toDigits_injective {m n : Nat} (h : Nat.toDigits 10 m = Nat.toDigits 10 n) :
  m = n
  := by
  have hread := congrArg (fun digits => Nat.ofDigitChars 10 digits 0) h
  simpa [Nat.ofDigitChars_toDigits] using hread

/-- A number in decimal digits begins with another one if it is the same, or if the other one is what
is left of it without its last digits, and not zero. -/
theorem toDigits_prefix_iff (m n : Nat) :
  Nat.toDigits 10 m <+: Nat.toDigits 10 n ↔ m = n ∨ m ≠ 0 ∧ ∃ k, n / 10 ^ k = m
  := by
  induction n using Nat.strongRecOn with
  | ind n ih =>
      by_cases hn : n < 10
      · constructor
        · intro hbegin
          rw [Nat.toDigits_of_lt_base hn] at hbegin
          rcases List.prefix_cons_iff.1 hbegin with hnil | ⟨rest, hdigits, hrest⟩
          · exact absurd hnil Nat.toDigits_ne_nil
          · rw [List.prefix_nil.1 hrest, ← Nat.toDigits_of_lt_base hn] at hdigits
            exact Or.inl (toDigits_injective hdigits)
        · rintro (rfl | ⟨hm, k, hk⟩)
          · apply List.prefix_rfl
          · cases k with
            | zero =>
                rw [Nat.pow_zero, Nat.div_one] at hk
                rw [hk]
            | succ k =>
                have hlt : n < 10 ^ (k + 1) := by
                  have := Nat.one_le_pow k 10 (by decide)
                  rw [Nat.pow_succ]
                  omega
                rw [Nat.div_eq_of_lt hlt] at hk
                exact absurd hk.symm hm
      · have hn : 10 ≤ n := Nat.le_of_not_lt hn
        rw [Nat.toDigits_of_base_le (by decide) hn, List.prefix_concat_iff,
          ← Nat.toDigits_of_base_le (by decide) hn, ih (n / 10) (by omega)]
        constructor
        · rintro (heq | rfl | ⟨hm, k, hk⟩)
          · exact Or.inl (toDigits_injective heq)
          · exact Or.inr ⟨by omega, 1, by rw [Nat.pow_one]⟩
          · refine Or.inr ⟨hm, k + 1, ?_⟩
            rw [Nat.pow_succ, Nat.mul_comm, ← Nat.div_div_eq_div_mul, hk]
        · rintro (rfl | ⟨hm, k, hk⟩)
          · exact Or.inl rfl
          · cases k with
            | zero =>
                rw [Nat.pow_zero, Nat.div_one] at hk
                exact Or.inl (by rw [hk])
            | succ k =>
                refine Or.inr (Or.inr ⟨hm, k, ?_⟩)
                rw [Nat.div_div_eq_div_mul, Nat.mul_comm, ← Nat.pow_succ, hk]

end Text

/-- A line has the mark of a helper in it where one of its marks begins with the number of the
helper. -/
theorem Helper.contains_tag_iff (helper : Helper) (line : String) :
  Text.contains line helper.tag = true
    ↔ ∃ run ∈ Text.marks line.toList, Nat.toDigits 10 helper.id.toNat <+: run
  := by
  rw [Text.contains, Text.occurs_iff, toList_tag]
  apply Text.mark_infix_iff Nat.toDigits_ne_nil
  intro c hc
  apply Nat.isDigit_of_mem_toDigits (by decide) (by decide) hc

/-! ### Lines that decide -/

namespace HelperCall

/-- A line on which the verdict about a helper depends. -/
def Decides (line : String) : Prop :=
  Text.contains line "invalid func" = true ∨ Text.contains line wrongType = true

instance (line : String) : Decidable (Decides line) := inferInstanceAs (Decidable (_ ∨ _))

/-- The only mark of the line is that of the helper. -/
def Names (helper : Helper) (line : String) : Prop :=
  Text.marks line.toList = [Nat.toDigits 10 helper.id.toNat]

instance (helper : Helper) (line : String) : Decidable (Names helper line) :=
  inferInstanceAs (Decidable (_ = _))

/-- The lines of a log that are looked at. -/
def lastLines (log : List String) : List String := log.drop (log.length - 5)

theorem logTellsAll_iff (log phrases : List String) :
  logTellsAll log phrases = true
    ↔ ∃ line ∈ lastLines log, ∀ phrase ∈ phrases, Text.contains line phrase = true
  := by
  simp only [logTellsAll, lastLines, List.any_eq_true, List.all_eq_true]

variable {named asked : Helper} {log : List String}

theorem contains_tag_of_names {line : String} (h : Names named line) (asked : Helper) :
  Text.contains line asked.tag = true
    ↔ Nat.toDigits 10 asked.id.toNat <+: Nat.toDigits 10 named.id.toNat
  := by
  rw [Helper.contains_tag_iff, h]
  simp only [List.mem_singleton, exists_eq_left]

/-- Where all lines with a phrase name one helper, the phrase is found together with the mark of
another helper if that mark is the beginning of the mark of the former. -/
theorem logTellsAll_tag_iff {phrase : String}
    (hnames : ∀ line ∈ lastLines log, Text.contains line phrase = true → Names named line)
    (asked : Helper) :
  logTellsAll log [phrase, asked.tag] = true
    ↔ (∃ line ∈ lastLines log, Text.contains line phrase = true)
      ∧ Nat.toDigits 10 asked.id.toNat <+: Nat.toDigits 10 named.id.toNat
  := by
  rw [logTellsAll_iff]
  simp only [List.mem_cons, List.not_mem_nil, or_false, forall_eq_or_imp, forall_eq]
  constructor
  · rintro ⟨line, hline, hphrase, htag⟩
    have hbegin := (contains_tag_of_names (hnames line hline hphrase) asked).1 htag
    exact ⟨⟨line, hline, hphrase⟩, hbegin⟩
  · rintro ⟨⟨line, hline, hphrase⟩, hbegin⟩
    have htag := (contains_tag_of_names (hnames line hline hphrase) asked).2 hbegin
    exact ⟨line, hline, hphrase, htag⟩

theorem logTellsAll_unknown_eq_false
    (h : ∀ line ∈ log, Text.contains line "unknown func" = false) :
  logTellsAll log ["unknown func"] = false
  := by
  rw [Bool.eq_false_iff, Ne, logTellsAll_iff]
  rintro ⟨line, hline, hphrases⟩
  have hunknown := h line (List.mem_of_mem_drop hline)
  rw [hphrases _ List.mem_cons_self] at hunknown
  cases hunknown

/-- A call that is refused as invalid, and that no line calls unknown, is classified by two searches. -/
theorem classifyLoad_of_invalid {source : IoError} (hinvalid : source.errno = some Errno.einval)
    (hunknown : ∀ line ∈ log, Text.contains line "unknown func" = false) :
  classifyLoad asked (.error (.verifier source log))
    = if logTellsAll log ["invalid func", asked.tag] then .error (.notSupported none)
      else if logTellsAll log [wrongType, asked.tag] then .error (.notSupported (some wrongType))
      else .error (.verifier source log)
  := by
  have hdenied : source.errno ≠ some Errno.eacces := by
    rw [hinvalid]
    decide
  rw [classifyLoad, if_neg hdenied, if_pos hinvalid, logTellsAll_unknown_eq_false hunknown,
    Bool.or_false]

/-- The classification passes an answer on unless one of the searches finds something. -/
theorem passes_on_iff {source : IoError} (hinvalid : source.errno = some Errno.einval)
    (hunknown : ∀ line ∈ log, Text.contains line "unknown func" = false) :
  classifyLoad asked (.error (.verifier source log)) = .error (.verifier source log)
    ↔ ¬ logTellsAll log ["invalid func", asked.tag] = true
      ∧ ¬ logTellsAll log [wrongType, asked.tag] = true
  := by
  rw [classifyLoad_of_invalid hinvalid hunknown]
  split
  next hfunc => simp [hfunc]
  next hfunc =>
    split
    next htype => simp [htype]
    next htype => simp [hfunc, htype]

theorem passes_on_or_not_supported {source : IoError} (hinvalid : source.errno = some Errno.einval)
    (hunknown : ∀ line ∈ log, Text.contains line "unknown func" = false) :
  classifyLoad asked (.error (.verifier source log)) = .error (.verifier source log)
    ∨ ∃ reason, classifyLoad asked (.error (.verifier source log)) = .error (.notSupported reason)
  := by
  rw [classifyLoad_of_invalid hinvalid hunknown]
  split
  next => exact Or.inr ⟨none, rfl⟩
  next =>
    split
    next => exact Or.inr ⟨some wrongType, rfl⟩
    next => exact Or.inl rfl

/-- Two numbers that differ: the decimal digits of one are the beginning of those of the other. -/
theorem tag_prefix_iff (hne : named ≠ asked) :
  Nat.toDigits 10 asked.id.toNat <+: Nat.toDigits 10 named.id.toNat
    ↔ asked.id ≠ 0 ∧ ∃ k, named.id.toNat / 10 ^ k = asked.id.toNat
  := by
  have hid : asked.id.toNat ≠ named.id.toNat := by
    intro heq
    have hid : named.id = asked.id := UInt32.toNat_inj.1 heq.symm
    apply hne
    cases named
    cases asked
    cases hid
    rfl
  have hzero : asked.id.toNat = (0 : UInt32).toNat ↔ asked.id = 0 := UInt32.toNat_inj
  rw [Text.toDigits_prefix_iff, or_iff_right hid]
  exact and_congr_left' (not_congr hzero)

/-- Each of the last lines on which the verdict depends names one helper, and another one is asked for.
Then the answer is passed on as it is or the helper that is asked for is not supported; and it is
passed on exactly if there is no such line or the number of the helper that is asked for is zero or not
what is left of the other number without its last digits. -/
theorem other_tag_passed_on_iff {source : IoError} (hne : named ≠ asked)
    (hinvalid : source.errno = some Errno.einval)
    (hnames : ∀ line ∈ lastLines log, Decides line → Names named line)
    (hunknown : ∀ line ∈ log, Text.contains line "unknown func" = false) :
  (classifyLoad asked (.error (.verifier source log)) = .error (.verifier source log)
      ∨ ∃ reason, classifyLoad asked (.error (.verifier source log)) = .error (.notSupported reason))
    ∧ (classifyLoad asked (.error (.verifier source log)) = .error (.verifier source log)
      ↔ (∀ line ∈ lastLines log, ¬ Decides line)
        ∨ asked.id = 0 ∨ ∀ k, named.id.toNat / 10 ^ k ≠ asked.id.toNat)
  := by
  have hfunc := logTellsAll_tag_iff (fun line hline hphrase =>
    hnames line hline (Or.inl hphrase)) asked
  have htype := logTellsAll_tag_iff (fun line hline hphrase =>
    hnames line hline (Or.inr hphrase)) asked
  have hbegin : ¬ Nat.toDigits 10 asked.id.toNat <+: Nat.toDigits 10 named.id.toNat
      ↔ asked.id = 0 ∨ ∀ k, named.id.toNat / 10 ^ k ≠ asked.id.toNat := by
    rw [tag_prefix_iff hne, not_and_or, not_not, not_exists]
  refine ⟨passes_on_or_not_supported hinvalid hunknown, ?_⟩
  rw [passes_on_iff hinvalid hunknown, hfunc, htype, ← hbegin]
  constructor
  · rintro ⟨hfunc, htype⟩
    by_cases hprefix : Nat.toDigits 10 asked.id.toNat <+: Nat.toDigits 10 named.id.toNat
    · left
      rintro line hline (hphrase | hphrase)
      · exact hfunc ⟨⟨line, hline, hphrase⟩, hprefix⟩
      · exact htype ⟨⟨line, hline, hphrase⟩, hprefix⟩
    · exact Or.inr hprefix
  · rintro (hnone | hprefix)
    · constructor
      · rintro ⟨⟨line, hline, hphrase⟩, -⟩
        exact hnone line hline (Or.inl hphrase)
      · rintro ⟨⟨line, hline, hphrase⟩, -⟩
        exact hnone line hline (Or.inr hphrase)
    · exact ⟨fun h => hprefix h.2, fun h => hprefix h.2⟩

/-- A log on the helper with the number 23; its first line, on another one, is too far from the end, and
a later one decides nothing. -/
def redirectLog : List String :=
  [ "invalid func unknown#3", "0: (85) call bpf_map_delete_elem#3", "1: (b7) r0 = 0", "2: (95) exit",
    "# of instructions: 3", "program of this type cannot use helper bpf_redirect#23" ]

/-- The log is passed on when the helper with the number 3 is asked for, but not for the one with the
number 2. -/
theorem other_tag_passed_on_redirect :
  (∀ line ∈ lastLines redirectLog, Decides line → Names ⟨23⟩ line)
    ∧ classifyLoad ⟨3⟩ (.error (.verifier (.os Errno.einval) redirectLog))
      = .error (.verifier (.os Errno.einval) redirectLog)
    ∧ ∃ reason, classifyLoad ⟨2⟩ (.error (.verifier (.os Errno.einval) redirectLog))
      = .error (.notSupported reason)
  := by
  have hnames : ∀ line ∈ lastLines redirectLog, Decides line → Names ⟨23⟩ line := by
    decide +kernel
  have hunknown : ∀ line ∈ redirectLog, Text.contains line "unknown func" = false := by
    decide +kernel
  refine ⟨hnames, ?_, ?_⟩
  · obtain ⟨-, hiff⟩ := @other_tag_passed_on_iff _ ⟨3⟩ _ (.os Errno.einval) (by decide) rfl hnames
      hunknown
    refine hiff.2 (Or.inr (Or.inr ?_))
    intro k
    show 23 / 10 ^ k ≠ 3
    rcases k with - | - | k
    · decide
    · decide
    · rw [Nat.div_eq_of_lt]
      · decide
      · have := Nat.one_le_pow k 10 (by decide)
        rw [Nat.pow_succ, Nat.pow_succ]
        omega
  · obtain ⟨hcases, hiff⟩ := @other_tag_passed_on_iff _ ⟨2⟩ _ (.os Errno.einval) (by decide) rfl
      hnames hunknown
    apply hcases.resolve_left
    intro hpassed
    rcases hiff.1 hpassed with hnone | hzero | hall
    · apply hnone "program of this type cannot use helper bpf_redirect#23"
      · decide
      · decide +kernel
    · cases hzero
    · exact hall 1 rfl

/-- A line that names the helper with the number 23 decides about the one with the number 2. -/
theorem other_tag_decides :
  let line := "invalid func unknown#23"
  Names ⟨23⟩ line ∧ (⟨23⟩ : Helper) ≠ ⟨2⟩ ∧ Text.contains line "unknown func" = false
    ∧ classifyLoad ⟨2⟩ (.error (.verifier (.os Errno.einval) [line])) = .error (.notSupported none)
  := by
  intro line
  refine ⟨?_, by decide, ?_, ?_⟩
  · decide +kernel
  · decide +kernel
  · decide +kernel

end HelperCall

end Bpf
