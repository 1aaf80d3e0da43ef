import Bpf.Proofs.CutText
import Bpf.Proofs.Handles
import Bpf.Proofs.LoadRequests
import Bpf.Proofs.WrittenLogs

/-!
# Names of programs

The kernel keeps fifteen bytes of a name, and what it reports is read up to the first NUL among them.
`keptName` is what is left of a name in this way.  The cut may fall into a character, and into the
replacement for it when what is left is cut again, but then the same is read for the second time: what is
left of a name is kept as it is.  A system that keeps the bytes it is given reports `keptName` of every
program that is loaded.
-/

namespace Bpf.Linux

variable {σ : Type}

open Text (encode fitting)

/-! ### Bytes of a name -/

theorem objectName_eq_written (name : String) :
  objectName name = written nameSize ((encode name).take (nameSize - 1))
  := by
  have hfits : ((encode name).take (nameSize - 1)).take nameSize
      = (encode name).take (nameSize - 1) := by
    rw [List.take_take]
    rfl
  rw [written, hfits, objectName]

theorem length_objectName (name : String) :
  (objectName name).length = nameSize
  := by
  rw [objectName, List.length_append, List.length_replicate, List.length_take, nameSize]
  omega

/-- The bytes are those of the name as far as it goes and there is room, and then zeros. -/
theorem getElem?_objectName (name : String) {i : Nat} (h : i < nameSize) :
  (objectName name)[i]? = some (if i < nameSize - 1 then (encode name).getD i 0 else 0)
  := by
  have hkept : ((encode name).take (nameSize - 1)).getD i 0
      = if i < nameSize - 1 then (encode name).getD i 0 else 0 := by
    rw [List.getD_eq_getElem?_getD, List.getElem?_take, List.getD_eq_getElem?_getD]
    split
    · rfl
    · rfl
  rw [← hkept, objectName]
  rcases Nat.lt_or_ge i ((encode name).take (nameSize - 1)).length with hi | hi
  · rw [List.getElem?_append_left hi, List.getElem?_eq_getElem hi, List.getD_eq_getElem _ _ hi]
  · rw [List.getElem?_append_right hi, List.getD_eq_default _ _ hi, List.getElem?_replicate,
      if_pos (by omega)]

/-! ### What is left of a name -/

/-- The name that is reported if the bytes of a name are kept. -/
def keptName (name : String) : String := nameString (objectName name)

/-- The characters before the first NUL. -/
def charsBeforeNul (cs : List Char) : List Char := cs.takeWhile (· ≠ '\x00')

theorem nul_not_mem_charsBeforeNul (cs : List Char) :
  '\x00' ∉ charsBeforeNul cs
  := by
  intro hmem
  have hbefore := List.mem_takeWhile_imp hmem
  exact absurd hbefore (by decide)

theorem charsBeforeNul_eq_self {cs : List Char} (h : '\x00' ∉ cs) :
  charsBeforeNul cs = cs
  := by
  rw [charsBeforeNul, List.takeWhile_eq_self_iff]
  intro c hc
  rw [decide_eq_true_iff]
  rintro rfl
  exact h hc

/-- Before the first zero among the bytes there are the characters before the first NUL. -/
theorem beforeNul_flatMap (cs : List Char) :
  beforeNul (cs.flatMap String.utf8EncodeChar) = (charsBeforeNul cs).flatMap String.utf8EncodeChar
  := by
  induction cs with
  | nil => rfl
  | cons c cs ih =>
      rw [List.flatMap_cons, beforeNul, charsBeforeNul]
      by_cases hnul : c = '\x00'
      · subst hnul
        rw [List.takeWhile_cons_of_neg (by decide)]
        rfl
      · have hbytes : ∀ b ∈ String.utf8EncodeChar c, decide (b ≠ 0) = true := by
          intro b hb
          rw [decide_eq_true_iff]
          rintro rfl
          exact hnul (Text.zero_mem_utf8EncodeChar hb)
        rw [List.takeWhile_append_of_pos hbytes, List.takeWhile_cons_of_pos (by simp [hnul]),
          List.flatMap_cons]
        exact congrArg _ ih

theorem keptName_eq (name : String) :
  keptName name = String.ofList (fitting (nameSize - 1) (charsBeforeNul name.toList))
  := by
  have hbytes : beforeNul (objectName name)
      = (encode (String.ofList (charsBeforeNul name.toList))).take (nameSize - 1) := by
    rw [objectName_eq_written, beforeNul_written, List.take_take, Text.encode_eq_flatMap,
      Text.encode_eq_flatMap, String.toList_ofList, ← beforeNul_flatMap]
    exact List.take_takeWhile.symm
  rw [keptName, nameString, hbytes, Text.decodeLossy_take_encode, String.toList_ofList]

/-- A name that fits and has no NUL is kept. -/
theorem keptName_eq_self {name : String} (hfits : (encode name).length < nameSize)
    (hnul : '\x00' ∉ name.toList) :
  keptName name = name
  := by
  rw [Text.encode_eq_flatMap] at hfits
  rw [keptName_eq, charsBeforeNul_eq_self hnul, Text.fitting_of_length_le (Nat.le_sub_one_of_lt hfits),
    String.ofList_toList]

theorem nul_not_mem_keptName (name : String) :
  '\x00' ∉ (keptName name).toList
  := by
  rw [keptName_eq, String.toList_ofList]
  intro hmem
  obtain hmem | hreplacement := Text.mem_of_mem_fitting hmem
  · exact nul_not_mem_charsBeforeNul _ hmem
  · exact absurd hreplacement (by decide)

/-- What is left of a name is kept, also where it ends with a replacement that does not fit. -/
theorem keptName_keptName (name : String) :
  keptName (keptName name) = keptName name
  := by
  rw [keptName_eq (keptName name), charsBeforeNul_eq_self (nul_not_mem_keptName name), keptName_eq name,
    String.toList_ofList, Text.fitting_fitting]

/-! ### Loads and reports -/

/-- The bytes of the name in a report on a program. -/
def reportedName (reply : Reply) : List UInt8 :=
  ((written programInfoSize reply.info).drop programNameOffset).take nameSize

/-- The question for a report on a program. -/
def programQuestion (fd : UInt32) : Attr := .infoByFd fd (UInt32.ofNat programInfoSize)

/-- What calls of the system leave behind. -/
def System.after (S : System σ) (calls : List Attr) (s : σ) : σ :=
  calls.foldl (fun s attr => ((S.bpf attr).run s).2) s

/-- The system keeps the name of a program as it was given: whatever is called after the load, there is a
report on the program with the same bytes. -/
def System.KeepsNames (S : System σ) : Prop :=
  ∀ (load : ProgLoadAttr) (s s' : σ) (reply : Reply) (n : Nat), load.name.length = nameSize →
    (S.bpf (.progLoad load)).run s = (reply, s') → reply.result = .ok n →
    ∀ calls, let report := ((S.bpf (programQuestion (UInt32.ofNat n))).run (S.after calls s')).1
      (∃ m, report.result = .ok m) ∧ reportedName report = load.name

section Loads

variable {S : System σ} {logSize : Nat} {s s' : σ}

theorem returned_eq_ok {attr : Attr} {n : Nat} {fd : Descriptor} (h : returned attr n = .ok fd) :
  fd = { number := .ofNat n }
  := by
  unfold returned at h
  split at h
  next =>
    cases h
    rfl
  next => cases h

theorem loadProgram_eq_ok {load : ProgramLoad} {fd : Descriptor}
    (h : ((kernel S logSize).loadProgram load).run.run s = (.ok fd, s')) :
  ∃ reply n, (S.bpf (.progLoad (progLoadAttr load))).run s = (reply, s')
    ∧ reply.result = .ok n ∧ fd = { number := .ofNat n }
  := by
  change (loadProgram S load).run.run s = _ at h
  rw [loadProgram, Action.run_ofStep_bind] at h
  rcases hcall : (S.bpf (.progLoad (progLoadAttr load))).run s with ⟨reply, t⟩
  rw [hcall] at h
  dsimp only at h
  rcases hresult : reply.result with errno | n
  · rw [hresult] at h
    cases h
  · rw [hresult] at h
    obtain ⟨hfd, rfl⟩ := Action.run_ofExcept_eq_ok h
    exact ⟨reply, n, rfl, hresult, returned_eq_ok hfd⟩

/-- The last attempt of a load that succeeds is for the same program. -/
theorem loadGrowing_eq_ok {K : Kernel σ} {load : ProgramLoad} {fd : Descriptor}
    (h : (loadGrowing K load).run.run s = (.ok fd, s')) :
  ∃ size t, (K.loadProgram { load with logSize := size }).run.run t = (.ok fd, s')
  := by
  induction load using loadGrowing.induct generalizing s with
  | case1 load ih =>
      rw [run_loadGrowing] at h
      rcases hfirst : (K.loadProgram load).run.run s with ⟨e | fd', t⟩
      · rw [hfirst] at h
        dsimp only at h
        split at h
        next hwants => exact ih e hwants h
        next => cases h
      · rw [hfirst] at h
        cases h
        exact ⟨load.logSize, s, hfirst⟩

theorem name_of_request {K : Kernel σ} {spec : ProgramSpec} {logLevel : UInt32} {load : ProgramLoad}
    (h : (Program.request K spec logLevel).run.run s = (.ok load, s')) :
  load.name = spec.name
  := by
  rw [Program.request] at h
  split at h
  next => cases h
  next license hlicense =>
    obtain ⟨btfId, t, -, h⟩ := Action.exists_of_run_bind_ok h
    cases h
    rfl

/-- A program that has been loaded has been given a descriptor by a call with the bytes of its name. -/
theorem load_eq_ok {spec : ProgramSpec} {logLevel : UInt32} {program : Program}
    (h : (Program.load (kernel S logSize) spec logLevel).run.run s = (.ok program, s')) :
  ∃ load t reply n, (S.bpf (.progLoad (progLoadAttr load))).run t = (reply, s')
    ∧ reply.result = .ok n ∧ load.name = spec.name
    ∧ program = ⟨some { number := .ofNat n }, spec.programType⟩
  := by
  obtain ⟨load, t, hrequest, h⟩ := Action.exists_of_run_bind_ok h
  obtain ⟨fd, t', hgrowing, h⟩ := Action.exists_of_run_bind_ok h
  obtain ⟨rfl, rfl⟩ := Action.run_pure_eq_ok h
  obtain ⟨size, u, hload⟩ := loadGrowing_eq_ok hgrowing
  obtain ⟨reply, n, hcall, hresult, rfl⟩ := loadProgram_eq_ok hload
  have hname : load.name = spec.name := name_of_request hrequest
  exact ⟨_, u, reply, n, hcall, hresult, hname, rfl⟩

theorem run_call_of_ok {attr : Attr} {reply : Reply} {m : Nat}
    (hcall : (S.bpf attr).run s = (reply, s')) (hresult : reply.result = .ok m) :
  (call S attr).run.run s = (.ok reply, s')
  := by
  rw [call, Action.run_ofStep_bind, hcall]
  dsimp only
  rw [checked, hresult]
  rfl

/-- The name in a report on an open program. -/
theorem run_info_of_ok {fd : Descriptor} {programType : ProgramType} {report : Reply} {m : Nat}
    (hcall : (S.bpf (programQuestion fd.number)).run s = (report, s'))
    (hresult : report.result = .ok m) :
  (Program.info (kernel S logSize) ⟨some fd, programType⟩).run.run s
    = (.ok (readProgramInfo report.info), s')
  := by
  have hopen : (Action.ofExcept (σ := σ) (Program.descriptor ⟨some fd, programType⟩)).run.run s
      = (.ok fd, s) := rfl
  rw [Program.info, Action.run_bind_of_ok hopen]
  have hcalled := run_call_of_ok hcall hresult
  exact Action.run_bind_of_ok hcalled

/-- A program whose name is kept is reported under what is left of the name. -/
theorem exists_info_of_keepsNames (hkeeps : S.KeepsNames) {spec : ProgramSpec} {logLevel : UInt32}
    {program : Program}
    (h : (Program.load (kernel S logSize) spec logLevel).run.run s = (.ok program, s'))
    (calls : List Attr) :
  ∃ info s'', (program.info (kernel S logSize)).run.run (S.after calls s') = (.ok info, s'')
    ∧ info.name = keptName spec.name
  := by
  obtain ⟨load, t, reply, n, hcall, hresult, hname, rfl⟩ := load_eq_ok h
  obtain ⟨⟨m, hreport⟩, hbytes⟩ :=
    hkeeps (progLoadAttr load) t s' reply n (length_objectName load.name) hcall hresult calls
  refine ⟨_, _, run_info_of_ok rfl hreport, ?_⟩
  rw [← hname]
  exact congrArg nameString hbytes

end Loads

/-! ### A system that keeps names -/

/-- A system that only loads programs and reports on them.  What it knows are the names of the programs,
by descriptor. -/
def namingSystem : System (List (List UInt8)) where
  bpf
    | .progLoad load => fun names =>
      if names.length ≤ maxDescriptor then ({ result := .ok names.length }, names ++ [load.name])
      else ({ result := .error Errno.emfile }, names)
    | .infoByFd fd _ => fun names =>
      match names[fd.toNat]? with
      | some name => ({ result := .ok 0, info := List.replicate programNameOffset 0 ++ name }, names)
      | none => ({ result := .error Errno.ebadf }, names)
    | _ => fun names => ({ result := .error Errno.einval }, names)
  readLink _ := pure (.error (.os Errno.enoent))
  unlink _ := pure (.error Errno.enoent)
  btf _ := pure .absent
  interfaceIndex _ := pure 0

theorem prefix_bpf_namingSystem (attr : Attr) (names : List (List UInt8)) :
  names <+: ((namingSystem.bpf attr).run names).2
  := by
  cases attr with
  | progLoad load =>
      show names <+: (if _ then _ else _ : Reply × List (List UInt8)).2
      split
      next => exact List.prefix_append _ _
      next => exact List.prefix_refl _
  | infoByFd fd length =>
      show names <+: (match names[fd.toNat]? with | some _ => _ | none => _ : Reply × _).2
      split
      next => exact List.prefix_refl _
      next => exact List.prefix_refl _
  | _ => exact List.prefix_refl _

theorem prefix_after_namingSystem (calls : List Attr) (names : List (List UInt8)) :
  names <+: namingSystem.after calls names
  := by
  induction calls generalizing names with
  | nil => exact List.prefix_refl _
  | cons attr calls ih => exact (prefix_bpf_namingSystem attr names).trans (ih _)

theorem reportedName_of_bytes {reply : Reply} {name : List UInt8} (hlength : name.length = nameSize)
    (hinfo : reply.info = List.replicate programNameOffset 0 ++ name) :
  reportedName reply = name
  := by
  have hfits : reply.info.length ≤ programInfoSize := by
    rw [hinfo, List.length_append, List.length_replicate, hlength]
    decide
  rw [reportedName, written, List.take_of_length_le hfits, hinfo, List.append_assoc,
    List.drop_left' List.length_replicate, List.take_left' hlength]

theorem run_question_namingSystem {fd : UInt32} {names : List (List UInt8)} {name : List UInt8}
    (h : names[fd.toNat]? = some name) :
  (namingSystem.bpf (programQuestion fd)).run names
    = ({ result := .ok 0, info := List.replicate programNameOffset 0 ++ name }, names)
  := by
  show (match names[fd.toNat]? with | some name => _ | none => _ : Reply × List (List UInt8)) = _
  rw [h]

theorem run_load_namingSystem {load : ProgLoadAttr} {names names' : List (List UInt8)} {reply : Reply}
    {n : Nat} (hcall : (namingSystem.bpf (.progLoad load)).run names = (reply, names'))
    (hresult : reply.result = .ok n) :
  names.length = n ∧ n ≤ maxDescriptor ∧ names' = names ++ [load.name]
  := by
  change (if names.length ≤ maxDescriptor then _ else _ : Reply × List (List UInt8)) = _ at hcall
  split at hcall
  next hroom =>
    cases hcall
    obtain rfl : names.length = n := Except.ok.inj hresult
    exact ⟨rfl, hroom, rfl⟩
  next =>
    cases hcall
    cases hresult

theorem keepsNames_namingSystem :
  namingSystem.KeepsNames
  := by
  intro load names names' reply n hlength hcall hresult calls report
  obtain ⟨rfl, hroom, rfl⟩ := run_load_namingSystem hcall hresult
  have hfd : (UInt32.ofNat names.length).toNat = names.length := by
    rw [UInt32.toNat_ofNat', Nat.mod_eq_of_lt]
    unfold maxDescriptor at hroom
    omega
  obtain ⟨later, hlater⟩ := prefix_after_namingSystem calls (names ++ [load.name])
  have hkept : (namingSystem.after calls (names ++ [load.name]))[
      (UInt32.ofNat names.length).toNat]? = some load.name := by
    rw [← hlater, hfd, List.append_assoc, List.getElem?_append_right (Nat.le_refl _), Nat.sub_self]
    rfl
  have hreport := congrArg Prod.fst (run_question_namingSystem hkept)
  constructor
  · exact ⟨0, congrArg Reply.result hreport⟩
  · exact reportedName_of_bytes hlength (congrArg Reply.info hreport)

/-! ### Reported names -/

/-- A name is passed on in sixteen bytes: its first fifteen as far as it goes, zeros, and a NUL at the
end.  A system that keeps them reports what is left of the name, for every program that is loaded under it
and whatever is called in the meantime.  What is left are the characters before the first NUL that fit,
and a replacement for one that fits in part.  This is the name itself if it has at most fifteen bytes and
no NUL, and in every case it is a name of which nothing more is lost, wherever the bytes have been cut. -/
theorem name_reported (name : String) :
  ((objectName name).length = 16 ∧ (objectName name)[15]? = some 0
      ∧ ∀ i < 15, (objectName name)[i]? = some ((encode name).getD i 0))
    ∧ (∀ {σ : Type} (S : System σ) (logSize : Nat) (spec : ProgramSpec) (logLevel : UInt32) (s s' : σ)
        (program : Program), S.KeepsNames → spec.name = name →
        (Program.load (kernel S logSize) spec logLevel).run.run s = (.ok program, s') →
        ∀ calls, ∃ info s'',
          (program.info (kernel S logSize)).run.run (S.after calls s') = (.ok info, s'')
            ∧ info.name = keptName name)
    ∧ keptName name = String.ofList (fitting 15 (charsBeforeNul name.toList))
    ∧ ((encode name).length ≤ 15 → '\x00' ∉ name.toList → keptName name = name)
    ∧ keptName (keptName name) = keptName name
  := by
  refine ⟨⟨length_objectName name, getElem?_objectName name (by decide), ?_⟩, ?_, keptName_eq name, ?_,
    keptName_keptName name⟩
  · intro i hi
    have hkept : i < nameSize - 1 := hi
    rw [getElem?_objectName name (Nat.lt_succ_of_lt hi), if_pos hkept]
  · rintro σ S logSize spec logLevel s s' program hkeeps rfl hload calls
    exact exists_info_of_keepsNames hkeeps hload calls
  · exact fun hfits hnul => keptName_eq_self (Nat.lt_succ_of_le hfits) hnul

/-- The accent is cut in two and replaced, and when a program is loaded under the name that is reported,
the replacement is cut and replaced in its turn. -/
theorem name_reported_cut :
  let K := kernel namingSystem 0
  let spec (name : String) : ProgramSpec := { ProgramType.xdp.smallest with name }
  let program : Program := ⟨some { number := 0 }, .xdp⟩
  ∃ names,
    (Program.load K (spec "count_packets_é") 0).run.run [] = (.ok program, names)
      ∧ ∃ info after, (program.info K).run.run names = (.ok info, after)
        ∧ info.name = "count_packets_\ufffd"
        ∧ keptName info.name = info.name
        ∧ keptName "count_packets" = "count_packets"
  := by
  intro K spec program
  have hload : (Program.load K (spec "count_packets_é") 0).run.run []
      = (.ok program, [objectName "count_packets_é"]) := by
    let load := Program.firstRequest (spec "count_packets_é") ⟨"GPL", by decide⟩ none 0 0
    have hrequest : (Program.request K (spec "count_packets_é") 0).run.run [] = (.ok load, []) :=
      Program.run_request (NulFree.ofString?_eq_some_iff.2 rfl) rfl 0
    have hgrowing : (loadGrowing K load).run.run []
        = (.ok { number := 0 }, [objectName "count_packets_é"]) := by
      rw [run_loadGrowing]
      rfl
    rw [Program.load, Action.run_bind_of_ok hrequest, Action.run_bind_of_ok hgrowing]
    rfl
  refine ⟨_, hload, ?_⟩
  obtain ⟨-, hreports, hleft, -, hagain⟩ := name_reported "count_packets_é"
  obtain ⟨-, -, -, hkept, -⟩ := name_reported "count_packets"
  obtain ⟨info, after, hrun, hname⟩ :=
    hreports namingSystem 0 _ 0 _ _ program keepsNames_namingSystem rfl hload []
  refine ⟨info, after, hrun, ?_, ?_, hkept (by decide +kernel) (by decide)⟩
  · rw [hname, hleft]
    decide
  · rw [hname]
    exact hagain

end Bpf.Linux
