import Bpf.Proofs.EncodedText
import Bpf.Proofs.HelperLog

/-!
# Failed loads and their logs

A load that fails has the verifier's verdict exactly if there was room for a log and something to see
was written into it; else it is a failed call, and in both cases the error number is kept.  What is
read from the log are the lines that were written into it: line feeds between them, blank lines behind
them and whatever stands behind the first NUL make no difference.
-/

namespace Bpf.Linux

variable {σ : Type}

open Text (linesFrom dropReturn isBlank isBlankText decodeLossy encode)

/-! ### Buffers -/

/-- The zeros with which a buffer begins end the text that is written into it. -/
theorem beforeNul_written (size : Nat) (bytes : List UInt8) :
  beforeNul (written size bytes) = beforeNul (bytes.take size)
  := by
  have hzeros (n : Nat) : (List.replicate n (0 : UInt8)).takeWhile (· ≠ 0) = [] := by
    cases n with
    | zero => rfl
    | succ n => rfl
  rw [written, beforeNul, beforeNul, List.takeWhile_append, hzeros, List.append_nil]
  split
  next hall => exact ((List.takeWhile_prefix _).eq_of_length hall).symm
  next => rfl

theorem logLines_written (size : Nat) (bytes : List UInt8) :
  logLines (written size bytes) = logLines (bytes.take size)
  := by
  rw [logLines, logLines, beforeNul_written]

/-- The bytes of a text up to the NUL behind it, or up to the end of the buffer. -/
theorem beforeNul_encode {s : String} (h : '\x00' ∉ s.toList) {buffer : List UInt8}
    (hbuffer : buffer = encode s ∨ ∃ rest, buffer = encode s ++ 0 :: rest) :
  beforeNul buffer = encode s
  := by
  have hbytes : ∀ b ∈ encode s, decide (b ≠ 0) = true := by
    intro b hb
    rw [decide_eq_true_iff]
    rintro rfl
    exact Text.zero_not_mem_encode h hb
  rcases hbuffer with rfl | ⟨rest, rfl⟩
  · rw [beforeNul, List.takeWhile_eq_self_iff.2 hbytes]
  · rw [beforeNul, List.takeWhile_append_of_pos hbytes, List.takeWhile_cons_of_neg (by decide),
      List.append_nil]

/-! ### Lines -/

/-- What can be told from the lines around it: neither a line feed nor a NUL is in the line, and no
carriage return is at its end. -/
structure IsLine (line : String) : Prop where
  no_newline : '\n' ∉ line.toList
  no_nul : '\x00' ∉ line.toList
  no_return : line.toList.getLast? ≠ some '\r'

/-- The text of a log: lines with line feeds between them, and then more lines. -/
def logText (lines blanks : List String) : String :=
  "\n".intercalate lines ++ String.join (blanks.map ("\n" ++ ·))

theorem logText_cons_cons (line next : String) (lines blanks : List String) :
  (logText (line :: next :: lines) blanks).toList
    = line.toList ++ '\n' :: (logText (next :: lines) blanks).toList
  := by
  rw [logText, logText, String.intercalate_cons_cons]
  simp

theorem dropReturn_of_getLast? {line : List Char} (h : line.getLast? ≠ some '\r') :
  dropReturn line = line
  := by
  rcases Text.dropReturn_cases line with hline | hline
  · exact hline.symm
  · rw [hline] at h
    simp at h

theorem linesFrom_line {line : String} (h : IsLine line) (rest : List Char) :
  linesFrom [] (line.toList ++ '\n' :: rest) = line.toList :: linesFrom [] rest
  := by
  rw [Text.linesFrom_of_not_mem h.no_newline, linesFrom, if_pos rfl, List.append_nil,
    List.reverse_reverse, dropReturn_of_getLast? h.no_return]

theorem linesFrom_lastLine {line : String} (h : IsLine line) (hne : line.toList ≠ []) :
  linesFrom [] line.toList = [line.toList]
  := by
  have hline := Text.linesFrom_of_not_mem h.no_newline [] []
  rw [List.append_nil, List.append_nil, linesFrom, if_neg (by simpa using hne),
    List.reverse_reverse] at hline
  exact hline

/-- Behind the last line there is nothing, or a line feed and a blank text. -/
theorem join_blanks_cases {blanks : List String}
    (h : ∀ blank ∈ blanks, isBlankText blank = true) :
  (String.join (blanks.map ("\n" ++ ·))).toList = []
    ∨ ∃ rest, (String.join (blanks.map ("\n" ++ ·))).toList = '\n' :: rest
      ∧ rest.all isBlank = true
  := by
  have hnewline : isBlank '\n' = true := by decide
  cases blanks with
  | nil => exact Or.inl rfl
  | cons blank blanks =>
      have hblank (b : String) (hb : b ∈ blank :: blanks) : b.toList.all isBlank = true := h b hb
      apply Or.inr
      use blank.toList ++ blanks.flatMap fun b => '\n' :: b.toList
      constructor
      · simp [String.toList_join, List.flatMap_map]
      · rw [List.all_append, hblank blank List.mem_cons_self, Bool.true_and, List.all_flatMap,
          List.all_eq_true]
        intro b hb
        rw [List.all_cons, hnewline, hblank b (List.mem_cons_of_mem blank hb), Bool.true_and]

/-- The lines of a log are followed by blank ones only. -/
theorem linesFrom_logText {blanks : List String}
    (hblanks : ∀ blank ∈ blanks, isBlankText blank = true) : ∀ {lines : List String},
  (∀ line ∈ lines, IsLine line) → (∀ last ∈ lines.getLast?, isBlankText last = false) →
  ∃ after, linesFrom [] (logText lines blanks).toList = lines.map String.toList ++ after
    ∧ after.all (·.all isBlank) = true
  | [], _, _ => by
      have hnewline : isBlank '\n' = true := by decide
      refine ⟨linesFrom [] (logText [] blanks).toList, rfl, ?_⟩
      rw [Text.all_isBlank_linesFrom, logText, String.intercalate_nil, String.empty_append]
      rcases join_blanks_cases hblanks with hnil | ⟨rest, hrest, hblank⟩
      · rw [hnil]
        rfl
      · rw [hrest, List.all_cons, hnewline, hblank]
        rfl
  | [line], hlines, hlast => by
      have hline := hlines line List.mem_cons_self
      have hne : line.toList ≠ [] := by
        intro hnil
        have hvisible : isBlankText line = false := hlast line rfl
        rw [isBlankText, hnil] at hvisible
        cases hvisible
      rw [logText, String.intercalate_singleton, String.toList_append]
      rcases join_blanks_cases hblanks with hnil | ⟨rest, hrest, hblank⟩
      · rw [hnil, List.append_nil, linesFrom_lastLine hline hne]
        exact ⟨[], rfl, rfl⟩
      · rw [hrest, linesFrom_line hline]
        refine ⟨linesFrom [] rest, rfl, ?_⟩
        rw [Text.all_isBlank_linesFrom]
        exact hblank
  | line :: next :: lines, hlines, hlast => by
      obtain ⟨after, hafter, hblank⟩ := linesFrom_logText hblanks
        (fun l hl => hlines l (List.mem_cons_of_mem line hl)) hlast
      use after
      rw [logText_cons_cons, linesFrom_line (hlines line List.mem_cons_self), hafter]
      exact ⟨rfl, hblank⟩

theorem nul_not_mem_join {blanks : List String}
    (h : ∀ blank ∈ blanks, isBlankText blank = true) :
  '\x00' ∉ (String.join (blanks.map ("\n" ++ ·))).toList
  := by
  rcases join_blanks_cases h with hnil | ⟨rest, hrest, hblank⟩
  · rw [hnil]
    exact List.not_mem_nil
  · rw [hrest, List.mem_cons, not_or]
    refine ⟨by decide, fun hnul => ?_⟩
    exact absurd (List.all_eq_true.1 hblank '\x00' hnul) (by decide)

theorem nul_not_mem_logText {blanks : List String}
    (hblanks : ∀ blank ∈ blanks, isBlankText blank = true) : ∀ {lines : List String},
  (∀ line ∈ lines, IsLine line) → '\x00' ∉ (logText lines blanks).toList
  | [], _ => by
      rw [logText, String.intercalate_nil, String.empty_append]
      exact nul_not_mem_join hblanks
  | [line], hlines => by
      rw [logText, String.intercalate_singleton, String.toList_append, List.mem_append, not_or]
      exact ⟨(hlines line List.mem_cons_self).no_nul, nul_not_mem_join hblanks⟩
  | line :: next :: lines, hlines => by
      have hrest := nul_not_mem_logText hblanks fun l hl => hlines l (List.mem_cons_of_mem line hl)
      rw [logText_cons_cons, List.mem_append, List.mem_cons, not_or, not_or]
      exact ⟨(hlines line List.mem_cons_self).no_nul, by decide, hrest⟩

theorem dropBlankEnd_lines {lines blanks : List String}
    (hlast : ∀ last ∈ lines.getLast?, isBlankText last = false)
    (hblanks : blanks.all isBlankText = true) :
  dropBlankEnd (lines ++ blanks) = lines
  := by
  rcases List.eq_nil_or_concat lines with rfl | ⟨init, last, rfl⟩
  · rw [List.nil_append, dropBlankEnd, List.reverse_eq_nil_iff, List.dropWhile_eq_nil_iff]
    intro blank hblank
    exact List.all_eq_true.1 hblanks blank (List.mem_reverse.1 hblank)
  · rw [List.concat_eq_append] at hlast ⊢
    have hvisible : isBlankText last = false := hlast last (by simp)
    rw [List.append_assoc, List.singleton_append, dropBlankEnd_append hblanks hvisible]

section Lines

variable {lines blanks : List String} (hlines : ∀ line ∈ lines, IsLine line)
variable (hlast : ∀ last ∈ lines.getLast?, isBlankText last = false)
variable (hblanks : ∀ blank ∈ blanks, isBlankText blank = true)

include hlines hlast hblanks

/-- The lines that were written into a log are read from it. -/
theorem logLines_logText {buffer : List UInt8}
    (hbuffer : buffer = encode (logText lines blanks)
      ∨ ∃ rest, buffer = encode (logText lines blanks) ++ 0 :: rest) :
  logLines buffer = lines
  := by
  obtain ⟨after, hafter, hblank⟩ := linesFrom_logText hblanks hlines hlast
  rw [logLines, beforeNul_encode (nul_not_mem_logText hblanks hlines) hbuffer,
    Text.decodeLossy_encode, Text.lines, hafter, List.map_append, List.map_map]
  have hsame : lines.map (String.ofList ∘ String.toList) = lines := by
    simp [Function.comp_def]
  rw [hsame]
  apply dropBlankEnd_lines hlast
  simpa [isBlankText, Function.comp_def] using hblank

end Lines

/-! ### Failures -/

/-- What has been written into the buffer for a log. -/
def logBuffer (load : ProgramLoad) (reply : Reply) : List UInt8 := written (logRoom load) reply.log

/-- A failed load is the verifier's verdict if something has been logged, and else a failed call. -/
theorem loadFailure_eq (load : ProgramLoad) (errno : Errno) (reply : Reply) :
  loadFailure load errno reply.log
    = if logLines (logBuffer load reply) = [] then .ofErrno Command.progLoad errno
      else .verifier (.os errno) (logLines (logBuffer load reply))
  := by
  rw [loadFailure, logBuffer, logLines_written]
  split
  next hnil => rw [if_pos hnil]
  next lines hne => rw [if_neg hne]

/-- Without a request for a log there is nothing to see in it. -/
theorem asksForLog_of_visible (load : ProgramLoad) (reply : Reply)
    (h : isBlankText (decodeLossy (beforeNul (logBuffer load reply))) = false) :
  0 < load.logLevel ∧ 0 < load.logSize
  := by
  have hroom : logRoom load ≠ 0 := by
    intro hnone
    rw [logBuffer, hnone, beforeNul_written, List.take_zero, beforeNul, List.takeWhile_nil,
      isBlankText, Text.toList_decodeLossy, Text.pieces] at h
    cases h
  unfold logRoom at hroom
  split at hroom
  next hlevel => exact ⟨hlevel, Nat.pos_of_ne_zero hroom⟩
  next => exact absurd rfl hroom

/-- A load that the system fails has the verifier's verdict exactly if a log was asked for, with room
for it, and there is something to see in the text before the first NUL of the buffer; else it is a failed
call.  The error number is that of the system in both cases.  If the text is that of some lines, the last
of which is not blank, and of blank ones behind them, the verdict comes with exactly these lines, whatever
follows the NUL. -/
theorem failed_load_reported (S : System σ) (logSize : Nat) {load : ProgramLoad} {s s' : σ}
    {reply : Reply} {errno : Errno}
    (hcall : (S.bpf (.progLoad (progLoadAttr load))).run s = (reply, s'))
    (hresult : reply.result = .error errno) :
  ∃ e, ((kernel S logSize).loadProgram load).run.run s = (.error e, s')
    ∧ e.errno = some errno
    ∧ ((∃ source log, e = .verifier source log) ↔ 0 < load.logLevel ∧ 0 < load.logSize
      ∧ isBlankText (decodeLossy (beforeNul (logBuffer load reply))) = false)
    ∧ ((∀ source log, e ≠ .verifier source log) → e = .ofErrno Command.progLoad errno)
    ∧ ∀ lines blanks : List String, (∀ line ∈ lines, IsLine line) →
      (∀ last ∈ lines.getLast?, isBlankText last = false) →
      (∀ blank ∈ blanks, isBlankText blank = true) →
      (logBuffer load reply = encode (logText lines blanks)
        ∨ ∃ rest, logBuffer load reply = encode (logText lines blanks) ++ 0 :: rest) →
      e = if lines = [] then .ofErrno Command.progLoad errno else .verifier (.os errno) lines
  := by
  refine ⟨loadFailure load errno reply.log, run_loadProgram_of_error hcall hresult logSize, ?_⟩
  rw [loadFailure_eq]
  refine ⟨?_, ?_, ?_, ?_⟩
  · split
    · rfl
    · rfl
  · have hasks := asksForLog_of_visible load reply
    have hnil := logLines_eq_nil_iff (logBuffer load reply)
    split
    next hlog =>
      rw [hnil.1 hlog]
      simp [Error.ofErrno]
    next hlog =>
      have hvisible := Bool.eq_false_iff.2 (mt hnil.2 hlog)
      exact ⟨fun _ => ⟨(hasks hvisible).1, (hasks hvisible).2, hvisible⟩, fun _ => ⟨_, _, rfl⟩⟩
  · intro hno
    split
    next => rfl
    next hlog =>
      rw [if_neg hlog] at hno
      exact absurd rfl (hno _ _)
  · intro lines blanks hlines hlast hblanks hbuffer
    rw [logLines_logText hlines hlast hblanks hbuffer]

/-- What the verifier has logged: an accent in one line, and an empty line before the last one. -/
def loggedLines : List String := ["0: é", "", "R1 !read_ok"]

theorem isLine_loggedLines :
  ∀ line ∈ loggedLines, IsLine line
  := by
  intro line hline
  simp only [loggedLines, List.mem_cons, List.not_mem_nil, or_false] at hline
  rcases hline with rfl | rfl | rfl
  all_goals exact ⟨by decide, by decide, by decide⟩

/-- A system that refuses every program, with blank lines and old bytes behind what is logged. -/
def loggingSystem : System Unit where
  bpf _ := pure
    { result := .error Errno.eacces
      log := encode (logText loggedLines ["", " \t"]) ++ [0, 0xff, 10, 82] }
  readLink _ := pure (.error (.os Errno.enoent))
  unlink _ := pure (.error Errno.enoent)
  btf _ := pure .absent
  interfaceIndex _ := pure 0

/-- With room for it the log is read line by line, and without any room the call has failed. -/
theorem failed_load_reported_logging :
  let K := kernel loggingSystem 64
  (K.loadProgram (HelperCall.load ⟨.xdp, ⟨23⟩⟩ 64)).run.run ()
      = (.error (.verifier (.os Errno.eacces) loggedLines), ())
    ∧ (K.loadProgram (HelperCall.load ⟨.xdp, ⟨23⟩⟩ 0)).run.run ()
      = (.error (.syscall "BPF_PROG_LOAD" (.os Errno.eacces)), ())
  := by
  intro K
  constructor
  · obtain ⟨e, hrun, -, -, -, hlines⟩ := @failed_load_reported _ loggingSystem 64
      (HelperCall.load ⟨.xdp, ⟨23⟩⟩ 64) () () _ _ rfl rfl
    have hlast : ∀ last ∈ loggedLines.getLast?, isBlankText last = false := by
      rintro last ⟨⟩
      decide
    have hlog := hlines loggedLines ["", " \t"] isLine_loggedLines hlast (by decide)
      (Or.inr ⟨[0xff, 10, 82] ++ List.replicate 38 0, by decide +kernel⟩)
    rw [if_neg (by decide)] at hlog
    rw [← hlog]
    exact hrun
  · obtain ⟨e, hrun, -, hverdict, hcall, -⟩ := @failed_load_reported _ loggingSystem 64
      (HelperCall.load ⟨.xdp, ⟨23⟩⟩ 0) () () _ _ rfl rfl
    have hfailed := hcall fun source log he => by
      obtain ⟨-, hsize, -⟩ := hverdict.1 ⟨source, log, he⟩
      exact absurd hsize (by decide)
    rw [hfailed] at hrun
    exact hrun

end Bpf.Linux
