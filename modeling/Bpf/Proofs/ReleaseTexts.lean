import Bpf.Version.Parse
import Mathlib

/-!
# Versions in the texts of releases

A version is read from the beginning of a release: two numbers with any one character between them,
and behind one more character the patch level.  `KernelVersion.Spells` says so of a text without blanks
around it, and nothing else is read.  So a version is read back from its own text, with blanks around
it, and from its three numbers whatever follows them.  With only two numbers, a number in what follows
is taken for the patch level, since a separator need not be a point.
-/

namespace Bpf

/-! ### Numbers in a text -/

namespace Text

theorem digitsValue_toDigits (n : Nat) :
  digitsValue 0 (Nat.toDigits 10 n) = n
  := Nat.ofDigitChars_ten_toDigits

theorem decimal?_eq_some_iff {bound n : Nat} {cs : List Char} :
  decimal? bound cs = some n
    ↔ cs ≠ [] ∧ (∀ c ∈ cs, c.isDigit = true) ∧ digitsValue 0 cs = n ∧ n < bound
  := by
  unfold decimal?
  split
  next h =>
    simp only [Bool.and_eq_true, decide_eq_true_eq, List.all_eq_true] at h
    obtain ⟨⟨hne, hdigits⟩, hlt⟩ := h
    constructor
    · rintro ⟨⟩
      exact ⟨hne, hdigits, rfl, hlt⟩
    · rintro ⟨-, -, rfl, -⟩
      rfl
  next h =>
    simp only [Bool.and_eq_true, decide_eq_true_eq, List.all_eq_true] at h
    constructor
    · rintro ⟨⟩
    · rintro ⟨hne, hdigits, rfl, hlt⟩
      exact absurd ⟨⟨hne, hdigits⟩, hlt⟩ h

/-- The text does not begin with a digit. -/
def Stops (text : List Char) : Prop := ∀ c ∈ text.head?, c.isDigit = false

theorem Stops.of_prefix {text begin : List Char} (h : Stops text) (hbegin : begin <+: text) :
  Stops begin
  := by
  obtain ⟨rest, rfl⟩ := hbegin
  intro c hc
  apply h
  rw [Option.mem_def] at hc ⊢
  rw [List.head?_append, hc, Option.some_or]

/-- A text begins with some digits, or with none, and then stops. -/
theorem exists_run (text : List Char) :
  ∃ run rest, text = run ++ rest ∧ (∀ c ∈ run, c.isDigit = true) ∧ Stops rest
  := by
  refine ⟨text.takeWhile Char.isDigit, text.dropWhile Char.isDigit,
    List.takeWhile_append_dropWhile.symm, ?_, ?_⟩
  · intro c hc
    exact List.mem_takeWhile_imp hc
  · intro c hc
    have hfirst := List.head?_dropWhile_not Char.isDigit text
    rw [Option.mem_def] at hc
    rw [hc] at hfirst
    exact hfirst

theorem takeWhile_run {run rest : List Char} (hrun : ∀ c ∈ run, c.isDigit = true)
    (hrest : Stops rest) :
  (run ++ rest).takeWhile Char.isDigit = run
  := by
  rw [List.takeWhile_append_of_pos hrun]
  cases rest with
  | nil => simp
  | cons c rest =>
      have hc : c.isDigit = false := hrest c rfl
      rw [List.takeWhile_cons_of_neg (by simp [hc]), List.append_nil]

/-- The value of the digits that a text begins with, and zero if it begins with none. -/
def leadingNumber (text : List Char) : Nat := digitsValue 0 (text.takeWhile Char.isDigit)

theorem leadingNumber_run {run rest : List Char} (hrun : ∀ c ∈ run, c.isDigit = true)
    (hrest : Stops rest) :
  leadingNumber (run ++ rest) = digitsValue 0 run
  := by
  rw [leadingNumber, takeWhile_run hrun hrest]

/-! ### Blanks around a text -/

theorem not_isBlank_of_isDigit {c : Char} (h : c.isDigit = true) :
  isBlank c = false
  := by
  obtain ⟨hlow, hhigh⟩ := toNat_of_isDigit h
  rw [Bool.eq_false_iff]
  intro hblank
  simp only [isBlank, Bool.or_eq_true, Bool.and_eq_true, decide_eq_true_eq, beq_iff_eq] at hblank
  omega

theorem stops_of_isBlank {blanks : List Char} (h : ∀ c ∈ blanks, isBlank c = true) :
  Stops blanks
  := by
  intro c hc
  have hblank := h c (List.mem_of_mem_head? hc)
  rw [Bool.eq_false_iff]
  intro hdigit
  rw [not_isBlank_of_isDigit hdigit] at hblank
  cases hblank

/-- The text without the blanks at its end. -/
def trimEnd (text : List Char) : List Char := text.rdropWhile isBlank

/-- Only blanks are lost at the end of a text. -/
theorem exists_blanks_trimEnd (text : List Char) :
  ∃ blanks, (∀ c ∈ blanks, isBlank c = true) ∧ text = trimEnd text ++ blanks
  := by
  use text.rtakeWhile isBlank
  constructor
  · intro c hc
    exact List.mem_rtakeWhile_imp hc
  · exact List.rdropWhile_append_rtakeWhile.symm

theorem trimEnd_append {front : List Char} (hne : front ≠ [])
    (hlast : isBlank (front.getLast hne) = false) (tail : List Char) :
  trimEnd (front ++ tail) = front ++ trimEnd tail
  := by
  have hfront : trimEnd front = front := by
    apply List.rdropWhile_eq_self_iff.2
    intro hne
    rw [hlast]
    simp
  unfold trimEnd List.rdropWhile at hfront ⊢
  rw [List.reverse_append, List.dropWhile_append]
  split
  next h => rw [hfront, List.isEmpty_iff.1 h, List.reverse_nil, List.append_nil]
  next => rw [List.reverse_append, List.reverse_reverse]

theorem trimChars_append {before text : List Char} (hbefore : ∀ c ∈ before, isBlank c = true)
    (hfirst : ∀ c ∈ text.head?, isBlank c = false) :
  trimChars (before ++ text) = trimEnd text
  := by
  have hdrop : (before ++ text).dropWhile isBlank = text := by
    rw [List.dropWhile_append_of_pos hbefore]
    cases text with
    | nil => rfl
    | cons c text =>
        apply List.dropWhile_cons_of_neg
        rw [hfirst c rfl]
        simp
  unfold trimChars
  rw [hdrop]
  rfl

end Text

open Text

/-! ### What a version is read from -/

namespace KernelVersion

/-- The digits of a number that a component can hold. -/
structure IsNumber (run : List Char) (n : UInt16) : Prop where
  ne_nil : run ≠ []
  digits : ∀ c ∈ run, c.isDigit = true
  value : digitsValue 0 run = n.toNat

/-- The number behind a separator, or zero if there is none or if a component cannot hold it. -/
def patchBehind : List Char → UInt16
  | [] => 0
  | _ :: rest =>
    let patch := leadingNumber rest
    if patch < UInt16.size then UInt16.ofNat patch else 0

/-- A text that begins with two numbers, between which there is one character, spells a version; its
patch level is what follows. -/
inductive Spells : List Char → KernelVersion → Prop
  | intro {first second rest : List Char} {separator : Char} {major minor : UInt16}
      (hfirst : IsNumber first major) (hseparator : separator.isDigit = false)
      (hsecond : IsNumber second minor) (hrest : Stops rest) :
    Spells (first ++ separator :: (second ++ rest)) ⟨major, minor, patchBehind rest⟩

theorem versionComponent?_eq_some_iff {run : List Char} {n : UInt16} :
  versionComponent? run = some n ↔ IsNumber run n
  := by
  simp only [versionComponent?, Option.map_eq_some_iff, decimal?_eq_some_iff]
  constructor
  · rintro ⟨value, ⟨hne, hdigits, rfl, hlt⟩, rfl⟩
    exact ⟨hne, hdigits, (Nat.mod_eq_of_lt hlt).symm⟩
  · rintro ⟨hne, hdigits, hvalue⟩
    exact ⟨n.toNat, ⟨hne, hdigits, hvalue, n.toNat_lt⟩, UInt16.ofNat_toNat⟩

theorem isNumber_toDigits (n : UInt16) :
  IsNumber (Nat.toDigits 10 n.toNat) n
  where
  ne_nil := Nat.toDigits_ne_nil
  digits _ hc := Nat.isDigit_of_mem_toDigits (by decide) (by decide) hc
  value := digitsValue_toDigits n.toNat

/-! ### Pieces between separators -/

theorem digitRuns_run {run : List Char} (h : ∀ c ∈ run, c.isDigit = true)
    (current rest : List Char) :
  digitRuns current (run ++ rest) = digitRuns (run.reverse ++ current) rest
  := by
  induction run generalizing current with
  | nil => rfl
  | cons c run ih =>
      rw [List.cons_append, digitRuns, if_pos (h c List.mem_cons_self),
        ih (fun d hd => h d (List.mem_cons_of_mem c hd)), List.reverse_cons, List.append_assoc]
      rfl

/-- The pieces of what follows the first run of digits. -/
def piecesBehind : List Char → List (List Char)
  | [] => []
  | _ :: rest => digitRuns [] rest

theorem digitRuns_append {run rest : List Char} (hrun : ∀ c ∈ run, c.isDigit = true)
    (hrest : Stops rest) :
  digitRuns [] (run ++ rest) = run :: piecesBehind rest
  := by
  rw [digitRuns_run hrun, List.append_nil]
  cases rest with
  | nil => rw [digitRuns, List.reverse_reverse, piecesBehind]
  | cons c rest =>
      have hc : ¬ c.isDigit = true := by
        rw [hrest c rfl]
        simp
      rw [digitRuns, if_neg hc, List.reverse_reverse, piecesBehind]

/-- The third piece is the patch level if it is a number that a component can hold. -/
theorem patch_piecesBehind (rest : List Char) :
  ((piecesBehind rest).head?.bind versionComponent?).getD 0 = patchBehind rest
  := by
  cases rest with
  | nil => rfl
  | cons c rest =>
      obtain ⟨run, behind, rfl, hrun, hbehind⟩ := exists_run rest
      rw [piecesBehind, digitRuns_append hrun hbehind, patchBehind, leadingNumber_run hrun hbehind,
        List.head?_cons, Option.bind_some]
      by_cases hne : run = []
      · subst hne
        rfl
      · split
        next hlt =>
          have hvalue : decimal? UInt16.size run = some (digitsValue 0 run) :=
            decimal?_eq_some_iff.2 ⟨hne, hrun, rfl, hlt⟩
          rw [versionComponent?, hvalue]
          rfl
        next hge =>
          cases hvalue : versionComponent? run with
          | none => rfl
          | some n =>
              have := (versionComponent?_eq_some_iff.1 hvalue).value
              have := n.toNat_lt
              simp only [UInt16.size] at hge
              omega

theorem ofPieces?_digitRuns_eq_some_iff {text : List Char} {v : KernelVersion} :
  ofPieces? (digitRuns [] text) = some v ↔ Spells text v
  := by
  constructor
  · obtain ⟨first, rest, rfl, hfirst, hrest⟩ := exists_run text
    rw [digitRuns_append hfirst hrest]
    cases rest with
    | nil => rintro ⟨⟩
    | cons separator rest =>
        obtain ⟨second, rest, rfl, hsecond, hbehind⟩ := exists_run rest
        rw [piecesBehind, digitRuns_append hsecond hbehind, ofPieces?, patch_piecesBehind]
        intro h
        split at h
        next major minor hmajor hminor =>
          cases h
          exact .intro (versionComponent?_eq_some_iff.1 hmajor) (hrest separator rfl)
            (versionComponent?_eq_some_iff.1 hminor) hbehind
        next => cases h
  · rintro ⟨hfirst, hseparator, hsecond, hrest⟩
    have hstops {separator : Char} {rest : List Char} (h : separator.isDigit = false) :
        Stops (separator :: rest) := by
      rintro c ⟨⟩
      exact h
    rw [digitRuns_append hfirst.digits (hstops hseparator), piecesBehind,
      digitRuns_append hsecond.digits hrest, ofPieces?, patch_piecesBehind,
      versionComponent?_eq_some_iff.2 hfirst, versionComponent?_eq_some_iff.2 hsecond]

/-- A release is read as the version that it spells without the blanks around it. -/
theorem parse_eq_ok_iff {s : String} {v : KernelVersion} :
  parse s = .ok v ↔ Spells (trimChars s.toList) v
  := by
  rw [← ofPieces?_digitRuns_eq_some_iff, parse, trim, String.toList_ofList]
  cases ofPieces? (digitRuns [] (trimChars s.toList)) with
  | none => simp
  | some version => simp

/-- A release that spells no version is malformed. -/
theorem parse_eq_error {s : String} (h : ∀ v, ¬ Spells (trimChars s.toList) v) :
  parse s = .error (.invalidInput s!"malformed kernel release: {quote (trim s)}")
  := by
  cases hparse : parse s with
  | ok v => exact absurd (parse_eq_ok_iff.1 hparse) (h v)
  | error e =>
      unfold parse at hparse
      dsimp only at hparse
      split at hparse
      next => cases hparse
      next => rw [← hparse]

/-! ### Two numbers, and what follows -/

/-- The two numbers of a version that are always written. -/
def front (major minor : UInt16) : List Char :=
  Nat.toDigits 10 major.toNat ++ '.' :: Nat.toDigits 10 minor.toNat

/-- Blanks at the end of a text are not taken for a patch level. -/
theorem patchBehind_trimEnd (text : List Char) :
  patchBehind (trimEnd text) = patchBehind text
  := by
  obtain ⟨blanks, hblanks, htext⟩ := exists_blanks_trimEnd text
  have hrun {run : List Char} (hrun : ∀ c ∈ run, isBlank c = true) :
      run.takeWhile Char.isDigit = [] :=
    takeWhile_run (List.forall_mem_nil _) (stops_of_isBlank hrun)
  conv_rhs => rw [htext]
  cases trimEnd text with
  | nil =>
      cases blanks with
      | nil => rfl
      | cons blank blanks =>
          have hrest := hrun fun c hc => hblanks c (List.mem_cons_of_mem blank hc)
          rw [List.nil_append, patchBehind, patchBehind, leadingNumber, hrest]
          rfl
  | cons c rest =>
      have hsame : (rest ++ blanks).takeWhile Char.isDigit = rest.takeWhile Char.isDigit := by
        rw [List.takeWhile_append, hrun hblanks]
        split
        next h => rw [List.append_nil, (List.takeWhile_prefix _).eq_of_length h]
        next => rfl
      rw [List.cons_append, patchBehind, patchBehind, leadingNumber, leadingNumber, hsame]

theorem not_isBlank_of_mem_toDigits {n : Nat} {c : Char} (hc : c ∈ Nat.toDigits 10 n) :
  isBlank c = false
  := not_isBlank_of_isDigit (Nat.isDigit_of_mem_toDigits (by decide) (by decide) hc)

/-- Two numbers with a point between them are read whatever follows, if it does not go on with a
digit. -/
theorem parse_front {s : String} {before tail : List Char} {major minor : UInt16}
    (hs : s.toList = before ++ (front major minor ++ tail))
    (hbefore : ∀ c ∈ before, isBlank c = true) (htail : Stops tail) :
  parse s = .ok ⟨major, minor, patchBehind tail⟩
  := by
  have hne : front major minor ≠ [] := by simp [front]
  have hlast : isBlank ((front major minor).getLast hne) = false := by
    apply not_isBlank_of_mem_toDigits (n := minor.toNat)
    simp only [front, List.getLast_append_of_ne_nil _ (List.cons_ne_nil _ _),
      List.getLast_cons Nat.toDigits_ne_nil]
    apply List.getLast_mem
  have hfirst : ∀ c ∈ (front major minor ++ tail).head?, isBlank c = false := by
    intro c hc
    apply not_isBlank_of_mem_toDigits (n := major.toNat)
    rw [front, List.append_assoc, List.head?_append_of_ne_nil _ Nat.toDigits_ne_nil] at hc
    exact List.mem_of_mem_head? hc
  rw [parse_eq_ok_iff, hs, trimChars_append hbefore hfirst, trimEnd_append hne hlast,
    ← patchBehind_trimEnd tail, front, List.append_assoc, List.cons_append]
  exact .intro (isNumber_toDigits major) rfl (isNumber_toDigits minor)
    (htail.of_prefix (List.rdropWhile_prefix _ _))

/-! ### Texts of versions -/

/-- The three numbers with points between them, the patch level also if it is zero. -/
def numbers (v : KernelVersion) : String := s!"{v.major}.{v.minor}.{v.patch}"

theorem toList_toString (n : UInt16) :
  (toString n).toList = Nat.toDigits 10 n.toNat
  := by
  have hdigits : toString n = String.ofList (Nat.toDigits 10 n.toNat) :=
    Nat.toString_eq_ofList_toDigits
  rw [hdigits, String.toList_ofList]

theorem toList_numbers (v : KernelVersion) :
  v.numbers.toList = front v.major v.minor ++ '.' :: Nat.toDigits 10 v.patch.toNat
  := by
  have hpoint : (toString ".").toList = ['.'] := rfl
  simp [numbers, front, toList_toString, hpoint]

theorem toList_release (major minor : UInt16) :
  (release major minor).text.toList = front major minor
  := by
  have hpoint : (toString ".").toList = ['.'] := rfl
  simp [release, text, front, toList_toString, hpoint]

theorem text_eq (v : KernelVersion) :
  v.text = if v.patch = 0 then (release v.major v.minor).text else v.numbers
  := by
  unfold text release numbers
  split
  next => rw [if_pos rfl]
  next => rfl

theorem patchBehind_number (separator : Char) (n : UInt16) {rest : List Char}
    (hrest : Stops rest) :
  patchBehind (separator :: (Nat.toDigits 10 n.toNat ++ rest)) = n
  := by
  rw [patchBehind, leadingNumber_run (isNumber_toDigits n).digits hrest, digitsValue_toDigits,
    if_pos n.toNat_lt, UInt16.ofNat_toNat]

theorem patchBehind_of_isBlank {blanks : List Char} (h : ∀ c ∈ blanks, isBlank c = true) :
  patchBehind blanks = 0
  := by
  rw [← patchBehind_trimEnd, trimEnd, List.rdropWhile_eq_nil_iff.2 h, patchBehind]

/-- Three numbers are read whatever follows, if it does not go on with a digit. -/
theorem parse_numbers (v : KernelVersion) {before suffix : String}
    (hbefore : isBlankText before = true) (hsuffix : Stops suffix.toList) :
  parse (before ++ v.numbers ++ suffix) = .ok v
  := by
  have hs : (before ++ v.numbers ++ suffix).toList = before.toList ++ (front v.major v.minor
      ++ '.' :: (Nat.toDigits 10 v.patch.toNat ++ suffix.toList)) := by
    simp [toList_numbers]
  rw [parse_front hs (List.all_eq_true.1 hbefore) (by rintro c ⟨⟩; rfl),
    patchBehind_number '.' v.patch hsuffix]

/-- A version is read from its own text. -/
theorem parse_text (v : KernelVersion) {before after : String}
    (hbefore : isBlankText before = true) (hafter : isBlankText after = true) :
  parse (before ++ v.text ++ after) = .ok v
  := by
  have hafter := List.all_eq_true.1 hafter
  rw [text_eq]
  split
  next hpatch =>
    have hs : (before ++ (release v.major v.minor).text ++ after).toList
        = before.toList ++ (front v.major v.minor ++ after.toList) := by
      simp [toList_release]
    rw [parse_front hs (List.all_eq_true.1 hbefore) (stops_of_isBlank hafter),
      patchBehind_of_isBlank hafter, ← hpatch]
  next => exact parse_numbers v hbefore (stops_of_isBlank hafter)

/-- A version is read back from its text with blanks around it, and from its three numbers whatever
follows them.  What is read is what a release spells without the blanks around it: two numbers with one
character between them, and the patch level behind another one; any other text is malformed. -/
theorem release_read_back :
  (∀ (v : KernelVersion) (before after : String), isBlankText before = true →
      isBlankText after = true → parse (before ++ v.text ++ after) = .ok v)
  ∧ (∀ (v : KernelVersion) (before suffix : String), isBlankText before = true →
      Stops suffix.toList → parse (before ++ v.numbers ++ suffix) = .ok v)
  ∧ (∀ (s : String) (v : KernelVersion), parse s = .ok v ↔ Spells (trimChars s.toList) v)
  ∧ ∀ s : String, (∀ v, ¬ Spells (trimChars s.toList) v) →
      parse s = .error (.invalidInput s!"malformed kernel release: {quote (trim s)}")
  := by
  refine ⟨?_, ?_, ?_, ?_⟩
  · intro v before after hbefore hafter
    exact parse_text v hbefore hafter
  · intro v before suffix hbefore hsuffix
    exact parse_numbers v hbefore hsuffix
  · intro s v
    exact parse_eq_ok_iff
  · intro s h
    exact parse_eq_error h

/-- A release of a distribution, with its line feed, and a name that is no release. -/
theorem release_read_back_distribution :
  parse ((⟨4, 14, 3⟩ : KernelVersion).text ++ "\n") = .ok ⟨4, 14, 3⟩
    ∧ parse " 6.8.0-45-generic\n" = .ok ⟨6, 8, 0⟩
    ∧ parse "linux" = .error (.invalidInput "malformed kernel release: \"linux\"")
  := by
  obtain ⟨htext, hnumbers, -, hmalformed⟩ := release_read_back
  refine ⟨?_, ?_, ?_⟩
  · exact htext ⟨4, 14, 3⟩ "" "\n" rfl (by decide)
  · have hspelt : " " ++ (⟨6, 8, 0⟩ : KernelVersion).numbers ++ "-45-generic\n"
        = " 6.8.0-45-generic\n" := by decide
    rw [← hspelt]
    apply hnumbers ⟨6, 8, 0⟩ " " "-45-generic\n" (by decide)
    rintro c ⟨⟩
    rfl
  · refine (hmalformed "linux" ?_).trans (by decide +kernel)
    intro v h
    have hpieces : ofPieces? (digitRuns [] (trimChars "linux".toList)) = none := by cbv
    rw [← ofPieces?_digitRuns_eq_some_iff, hpieces] at h
    cases h

/-! ### A number behind two numbers -/

theorem patchBehind_eq_zero_iff (separator : Char) (rest : List Char) :
  patchBehind (separator :: rest) = 0
    ↔ leadingNumber rest = 0 ∨ UInt16.size ≤ leadingNumber rest
  := by
  rw [patchBehind]
  split
  next hlt =>
    have hvalue : (UInt16.ofNat (leadingNumber rest)).toNat = leadingNumber rest :=
      Nat.mod_eq_of_lt hlt
    rw [← UInt16.toNat_inj, hvalue, or_iff_left (Nat.not_le.2 hlt)]
    rfl
  next hge => simp [Nat.le_of_not_lt hge]

/-- What is behind two numbers and a separator is taken for the patch level if it begins with a number
that is not too large for one, whatever the separator is.  So there is no patch level if and only if
there is no number, or it is zero or too large. -/
theorem patch_behind_separator (major minor : UInt16) {separator : Char}
    (hseparator : separator.isDigit = false) (rest : String) :
  parse ((release major minor).text ++ separator.toString ++ rest)
      = .ok ⟨major, minor, patchBehind (separator :: rest.toList)⟩
    ∧ (parse ((release major minor).text ++ separator.toString ++ rest) = .ok (release major minor)
      ↔ leadingNumber rest.toList = 0 ∨ UInt16.size ≤ leadingNumber rest.toList)
  := by
  have hs : ((release major minor).text ++ separator.toString ++ rest).toList
      = [] ++ (front major minor ++ separator :: rest.toList) := by
    simp [toList_release]
  rw [parse_front hs (by simp) (by rintro c ⟨⟩; exact hseparator)]
  refine ⟨rfl, ?_⟩
  rw [Except.ok.injEq, release, KernelVersion.mk.injEq]
  simp only [true_and]
  apply patchBehind_eq_zero_iff

/-- The letters of a candidate for a release stand before its number. -/
theorem patch_behind_separator_candidate :
  parse "4.9-rc3" = .ok (release 4 9)
  := by
  have hs : (release 4 9).text ++ '-'.toString ++ "rc3" = "4.9-rc3" := by cbv
  obtain ⟨-, hrelease⟩ := @patch_behind_separator 4 9 '-' rfl "rc3"
  rw [hs] at hrelease
  exact hrelease.2 (Or.inl (by cbv))

/-- The revision of a package is taken for a patch level. -/
theorem revision_taken_for_patch :
  (release 4 9).text ++ "-1-amd64" = "4.9-1-amd64"
    ∧ parse "4.9-1-amd64" = .ok ⟨4, 9, 1⟩
    ∧ parse "4.9-1-amd64" ≠ .ok (release 4 9)
  := by
  have hspells : Spells (trimChars "4.9-1-amd64".toList) ⟨4, 9, 1⟩ := by
    rw [← ofPieces?_digitRuns_eq_some_iff]
    cbv
  have hparse := parse_eq_ok_iff.2 hspells
  refine ⟨by cbv, hparse, ?_⟩
  rw [hparse]
  decide

end KernelVersion

end Bpf
