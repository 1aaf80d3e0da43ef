import Bpf.Proofs.HelperTags

/-!
# What the answer to a load says of a helper

A program that calls a helper is loaded, and the answer is read.  `HelperCall.Reads` are the rules by
which that is done, each of them about one kind of answer: a program that loads, a failure without a
log, and logs by the error number and by what their last five lines tell.  A log tells something if a
single line does, so lines before the last five make no difference.
-/

namespace Bpf

/-! ### What a log tells -/

/-- A line with fewer than five lines after it has all the phrases in it. -/
def Tells (log phrases : List String) : Prop :=
  ∃ earlier line later, log = earlier ++ line :: later ∧ later.length < 5
    ∧ ∀ phrase ∈ phrases, phrase.toList <:+: line.toList

namespace HelperCall

theorem mem_lastLines_iff {log : List String} {line : String} :
  line ∈ lastLines log ↔ ∃ earlier later, log = earlier ++ line :: later ∧ later.length < 5
  := by
  constructor
  · intro hline
    obtain ⟨between, later, hdrop⟩ := List.append_of_mem hline
    have hlength := congrArg List.length hdrop
    rw [lastLines, List.length_drop, List.length_append, List.length_cons] at hlength
    use log.take (log.length - 5) ++ between, later
    constructor
    · rw [List.append_assoc, ← hdrop, lastLines, List.take_append_drop]
    · omega
  · rintro ⟨earlier, later, rfl, hlater⟩
    have hdrop : (earlier ++ line :: later).length - 5 ≤ earlier.length := by
      rw [List.length_append, List.length_cons]
      omega
    rw [lastLines, List.drop_append_of_le_length hdrop]
    apply List.mem_append_right
    apply List.mem_cons_self

theorem lastLines_append {log : List String} (h : 5 ≤ log.length) (more : List String) :
  lastLines (more ++ log) = lastLines log
  := by
  have hlength : (more ++ log).length - 5 = more.length + (log.length - 5) := by
    rw [List.length_append]
    omega
  rw [lastLines, lastLines, hlength, List.drop_length_add_append]

end HelperCall

open HelperCall

theorem logTellsAll_eq_true_iff {log phrases : List String} :
  logTellsAll log phrases = true ↔ Tells log phrases
  := by
  have hphrase (line phrase : String) :
      Text.contains line phrase = true ↔ phrase.toList <:+: line.toList :=
    Text.occurs_iff phrase.toList line.toList
  rw [logTellsAll_iff]
  simp only [mem_lastLines_iff, hphrase]
  constructor
  · rintro ⟨line, ⟨earlier, later, hlog, hlater⟩, hphrases⟩
    use earlier, line, later
  · rintro ⟨earlier, line, later, hlog, hlater, hphrases⟩
    use line
    constructor
    · use earlier, later
    · apply hphrases

instance (log phrases : List String) : Decidable (Tells log phrases) :=
  decidable_of_iff _ logTellsAll_eq_true_iff

/-- What a log of five lines or more tells does not depend on lines before it. -/
theorem tells_append_iff {log : List String} (h : 5 ≤ log.length) (more phrases : List String) :
  Tells (more ++ log) phrases ↔ Tells log phrases
  := by
  rw [← logTellsAll_eq_true_iff, ← logTellsAll_eq_true_iff, logTellsAll_iff, logTellsAll_iff,
    lastLines_append h]

namespace HelperCall

/-! ### Rules -/

/-- How the answer to the load of a program that calls a helper is read. -/
inductive Reads (helper : Helper) : Except Error Unit → Except Error Unit → Prop
  | loaded : Reads helper (.ok ()) (.ok ())
  | failed {e : Error} (h : ∀ source log, e ≠ .verifier source log) :
    Reads helper (.error e) (.error e)
  | denied {source : IoError} {log : List String} (h : source.errno = some Errno.eacces) :
    Reads helper (.error (.verifier source log)) (.ok ())
  | unknown {source : IoError} {log : List String} (h : source.errno = some Errno.einval)
    (hfunc : Tells log ["invalid func", helper.tag]) :
    Reads helper (.error (.verifier source log)) (.error (.notSupported none))
  | misplaced {source : IoError} {log : List String} (h : source.errno = some Errno.einval)
    (hfunc : ¬ Tells log ["invalid func", helper.tag])
    (htype : Tells log [wrongType, helper.tag] ∨ Tells log ["unknown func"]) :
    Reads helper (.error (.verifier source log)) (.error (.notSupported (some wrongType)))
  | silent {source : IoError} {log : List String} (h : source.errno = some Errno.einval)
    (hfunc : ¬ Tells log ["invalid func", helper.tag])
    (htype : ¬ (Tells log [wrongType, helper.tag] ∨ Tells log ["unknown func"])) :
    Reads helper (.error (.verifier source log)) (.error (.verifier source log))
  | other {source : IoError} {log : List String} (hdenied : source.errno ≠ some Errno.eacces)
    (hinvalid : source.errno ≠ some Errno.einval) :
    Reads helper (.error (.verifier source log)) (.error (.verifier source log))

/-- The searches of a log in the order in which they are made. -/
theorem classifyLoad_verifier (helper : Helper) (source : IoError) (log : List String) :
  classifyLoad helper (.error (.verifier source log))
    = if source.errno = some Errno.eacces then .ok ()
      else if source.errno = some Errno.einval then
        if Tells log ["invalid func", helper.tag] then .error (.notSupported none)
        else if Tells log [wrongType, helper.tag] ∨ Tells log ["unknown func"] then
          .error (.notSupported (some wrongType))
        else .error (.verifier source log)
      else .error (.verifier source log)
  := by
  simp only [classifyLoad, Bool.or_eq_true, logTellsAll_eq_true_iff]

theorem classifyLoad_of_not_verifier (helper : Helper) {e : Error}
    (h : ∀ source log, e ≠ .verifier source log) :
  classifyLoad helper (.error e) = .error e
  := by
  cases e with
  | verifier source log => apply absurd rfl (h source log)
  | _ => rfl

theorem reads_classifyLoad (helper : Helper) (answer : Except Error Unit) :
  Reads helper answer (classifyLoad helper answer)
  := by
  cases answer with
  | ok _ => apply Reads.loaded
  | error e =>
      by_cases hverifier : ∃ source log, e = .verifier source log
      · obtain ⟨source, log, rfl⟩ := hverifier
        rw [classifyLoad_verifier]
        split
        next hdenied => apply Reads.denied hdenied
        next hdenied =>
          split
          next hinvalid =>
            split
            next hfunc => apply Reads.unknown hinvalid hfunc
            next hfunc =>
              split
              next htype => apply Reads.misplaced hinvalid hfunc htype
              next htype => apply Reads.silent hinvalid hfunc htype
          next hinvalid => apply Reads.other hdenied hinvalid
      · simp only [not_exists] at hverifier
        rw [classifyLoad_of_not_verifier helper hverifier]
        apply Reads.failed hverifier

theorem Reads.classifyLoad_eq {helper : Helper} {answer reading : Except Error Unit}
    (h : Reads helper answer reading) :
  classifyLoad helper answer = reading
  := by
  have hdiffer {source : IoError} (h : source.errno = some Errno.einval) :
      source.errno ≠ some Errno.eacces := by
    rw [h]
    decide
  cases h with
  | loaded => rfl
  | failed h => apply classifyLoad_of_not_verifier helper h
  | denied h => rw [classifyLoad_verifier, if_pos h]
  | unknown h hfunc => rw [classifyLoad_verifier, if_neg (hdiffer h), if_pos h, if_pos hfunc]
  | misplaced h hfunc htype =>
      rw [classifyLoad_verifier, if_neg (hdiffer h), if_pos h, if_neg hfunc, if_pos htype]
  | silent h hfunc htype =>
      rw [classifyLoad_verifier, if_neg (hdiffer h), if_pos h, if_neg hfunc, if_neg htype]
  | other hdenied hinvalid => rw [classifyLoad_verifier, if_neg hdenied, if_neg hinvalid]

/-- The rules give every answer one reading, which is the one that is found. -/
theorem classifyLoad_eq_iff {helper : Helper} {answer reading : Except Error Unit} :
  classifyLoad helper answer = reading ↔ Reads helper answer reading
  := by
  constructor
  · rintro rfl
    apply reads_classifyLoad
  · apply Reads.classifyLoad_eq

/-! ### Readings -/

/-- The answer with more lines before those of its log, if it has one. -/
def withEarlier (more : List String) : Except Error Unit → Except Error Unit
  | .error (.verifier source log) => .error (.verifier source (more ++ log))
  | answer => answer

/-- Lines before the last five are passed on at most. -/
theorem classifyLoad_append (helper : Helper) (source : IoError) {log : List String}
    (h : 5 ≤ log.length) (more : List String) :
  classifyLoad helper (.error (.verifier source (more ++ log)))
    = withEarlier more (classifyLoad helper (.error (.verifier source log)))
  := by
  simp only [classifyLoad_verifier, tells_append_iff h]
  split_ifs
  all_goals rfl

/-- The helper is there if the program loads, or if the verifier denies access.  A failure that does
not come from the verifier stays as it is.  Where the verifier calls the program invalid, the helper is
unknown if one of the last five lines says so of it, and otherwise the program is of the wrong type if
one of those lines says that of it, or that some function is unknown.  All other refusals stay as they
are, with the whole log.  Where there are five lines or more, further lines before them make no
difference to any of this. -/
theorem classifyLoad_reading (helper : Helper) :
  (∀ answer, classifyLoad helper answer = .ok () ↔ answer = .ok ()
      ∨ ∃ source log, answer = .error (.verifier source log)
        ∧ source.errno = some Errno.eacces)
    ∧ (∀ e, (∀ source log, e ≠ .verifier source log) →
      classifyLoad helper (.error e) = .error e)
    ∧ (∀ source log, source.errno = some Errno.einval →
      (classifyLoad helper (.error (.verifier source log)) = .error (.notSupported none)
        ↔ Tells log ["invalid func", helper.tag])
      ∧ (classifyLoad helper (.error (.verifier source log))
          = .error (.notSupported (some "program of this type cannot use helper"))
        ↔ ¬ Tells log ["invalid func", helper.tag]
          ∧ (Tells log ["program of this type cannot use helper", helper.tag]
            ∨ Tells log ["unknown func"])))
    ∧ (∀ source log, source.errno ≠ some Errno.eacces →
      (source.errno = some Errno.einval → ¬ Tells log ["invalid func", helper.tag]
        ∧ ¬ Tells log ["program of this type cannot use helper", helper.tag]
        ∧ ¬ Tells log ["unknown func"]) →
      classifyLoad helper (.error (.verifier source log)) = .error (.verifier source log))
    ∧ ∀ source log more, 5 ≤ log.length →
      classifyLoad helper (.error (.verifier source (more ++ log)))
        = withEarlier more (classifyLoad helper (.error (.verifier source log)))
  := by
  simp only [classifyLoad_eq_iff]
  constructor
  · intro answer
    constructor
    · intro h
      cases h with
      | loaded => apply Or.inl rfl
      | denied h => apply Or.inr ⟨_, _, rfl, h⟩
    · rintro (rfl | ⟨source, log, rfl, h⟩)
      · apply Reads.loaded
      · apply Reads.denied h
  constructor
  · intro e h
    apply Reads.failed h
  constructor
  · intro source log hinvalid
    constructor
    · constructor
      · intro h
        cases h with
        | unknown _ hfunc => apply hfunc
      · apply Reads.unknown hinvalid
    · constructor
      · intro h
        cases h with
        | misplaced _ hfunc htype => apply And.intro hfunc htype
      · rintro ⟨hfunc, htype⟩
        apply Reads.misplaced hinvalid hfunc htype
  constructor
  · intro source log hdenied hsilent
    by_cases hinvalid : source.errno = some Errno.einval
    · obtain ⟨hfunc, htype, hunknown⟩ := hsilent hinvalid
      apply Reads.silent hinvalid hfunc
      rintro (h | h)
      · apply htype h
      · apply hunknown h
    · apply Reads.other hdenied hinvalid
  · intro source log more h
    rw [← classifyLoad_eq_iff]
    apply classifyLoad_append helper source h

end HelperCall

end Bpf
