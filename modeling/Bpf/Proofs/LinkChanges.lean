import Bpf.Proofs.Session

/-!
# Changes of a link, one after the other

A link answers an update, a replacement or a detachment from its record alone (`LinkChange.answer`), no
matter through which handle it comes.  A replacement succeeds only while the program that it expects is
attached, so of many that expect the same one only one takes its place, and a link that has been
detached refuses whatever would attach another program.
-/

namespace Bpf

open Memory

variable {η : Type}

/-- A change of the program that a link is attached with; programs go by their id. -/
inductive LinkChange where
  | update (new : UInt32)
  | replace (new old : UInt32)
  | detach

namespace LinkChange

/-- A program in place of another one, whichever it is unless one is expected. -/
def swap (new : UInt32) : Option UInt32 → LinkChange
  | none => .update new
  | some old => .replace new old

/-- The record after a change, unless it is refused. -/
def answer (record : LinkRecord) : LinkChange → Except Error LinkRecord
  | .update new =>
    if record.detached then .error (.ofErrno Command.linkUpdate Errno.enolink)
    else .ok { record with programId := new }
  | .replace new old =>
    if record.detached then .error (.ofErrno Command.linkUpdate Errno.enolink)
    else if record.programId = old then .ok { record with programId := new }
    else .error (.ofErrno Command.linkUpdate Errno.eperm)
  | .detach => .ok { record with detached := true }

/-- The record after a change; one that is refused changes nothing. -/
def next (record : LinkRecord) (change : LinkChange) : LinkRecord :=
  match change.answer record with
  | .ok changed => changed
  | .error _ => record

section Answer

variable {record : LinkRecord} {new old : UInt32}

theorem answer_swap_of_detached (h : record.detached = true) (expected : Option UInt32) :
  (swap new expected).answer record = .error (.ofErrno Command.linkUpdate Errno.enolink)
  := by
  cases expected with
  | none => exact if_pos h
  | some old => exact if_pos h

/-- A link that has not been detached refuses a program, if at all, because another one is attached. -/
theorem detached_of_answer_swap {expected : Option UInt32}
    (h : (swap new expected).answer record = .error (.ofErrno Command.linkUpdate Errno.enolink)) :
  record.detached = true
  := by
  by_contra hattached
  cases expected with
  | none =>
      rw [swap, answer, if_neg hattached] at h
      cases h
  | some old =>
      rw [swap, answer, if_neg hattached] at h
      split at h
      next => cases h
      next => simp [Error.ofErrno, Errno.eperm, Errno.enolink] at h

theorem answer_replace_of_eq (hdetached : record.detached = false) (h : record.programId = old) :
  (replace new old).answer record = .ok { record with programId := new }
  := by
  rw [answer, hdetached, if_neg Bool.false_ne_true, if_pos h]

theorem answer_update (hdetached : record.detached = false) :
  (update new).answer record = .ok { record with programId := new }
  := by
  rw [answer, hdetached, if_neg Bool.false_ne_true]

theorem answer_replace_of_ne (hdetached : record.detached = false) (new : UInt32)
    (h : record.programId ≠ old) :
  (replace new old).answer record = .error (.ofErrno Command.linkUpdate Errno.eperm)
  := by
  rw [answer, hdetached, if_neg Bool.false_ne_true, if_neg h]

/-- A replacement is refused while another program is attached, detached or not. -/
theorem exists_answer_replace_of_ne (new : UInt32) (h : record.programId ≠ old) :
  ∃ e, (replace new old).answer record = .error e
  := by
  cases hdetached : record.detached with
  | true => exact ⟨_, answer_swap_of_detached hdetached (some old)⟩
  | false => exact ⟨_, answer_replace_of_ne hdetached new h⟩

theorem next_of_ok {change : LinkChange} {changed : LinkRecord}
    (h : change.answer record = .ok changed) :
  change.next record = changed
  := by
  rw [next, h]

theorem next_of_error {change : LinkChange} {e : Error} (h : change.answer record = .error e) :
  change.next record = record
  := by
  rw [next, h]

end Answer

end LinkChange

/-! ### What a kernel in memory answers -/

namespace Memory

namespace State

variable {s : State} {link program : Descriptor} {id new : UInt32} {record : LinkRecord}

theorem programId_of_object {call : String} {programType : ProgramType}
    {attachType : Option AttachType}
    (h : s.object? program = some (.program id programType attachType)) :
  s.programId call program = .ok id
  := by
  simp only [programId, State.program, h, bind, Except.bind]
  rfl

/-- The state after a change of a record, if there is one. -/
def afterChange (s : State) (id : UInt32) (answer : Except Error LinkRecord) : State :=
  match answer with
  | .ok changed => s.recorded id changed
  | .error _ => s

/-- An update of a link is answered from its record once all programs have been found. -/
theorem run_updateLink (program : Descriptor) (old : Option Descriptor)
    (hlink : s.object? link = some (.link id)) (hrecord : s.links.get? id = some record) :
  (updateLink link program old).run.run s
    = match s.programId Command.linkUpdate program,
        old.mapM fun fd => s.programId Command.linkUpdate fd with
      | .error e, _ => (.error e, s)
      | .ok _, .error e => (.error e, s)
      | .ok new, .ok expected =>
        let answer := (LinkChange.swap new expected).answer record
        (answer.map fun _ => (), s.afterChange id answer)
  := by
  have hid : s.linkId Command.linkUpdate link = .ok id := by rw [linkId, hlink]
  have hfound : s.record Command.linkUpdate Errno.enolink id = .ok record := by
    rw [State.record, hrecord]
  show (Action.ofExcept (s.linkId Command.linkUpdate link) >>= _).run.run s = _
  rw [hid, Action.run_ofExcept_bind]
  show (Action.ofExcept (s.programId Command.linkUpdate program) >>= _).run.run s = _
  rw [Action.run_ofExcept_bind]
  cases s.programId Command.linkUpdate program with
  | error e => rfl
  | ok new =>
      show (Action.ofExcept (old.mapM fun fd => s.programId Command.linkUpdate fd) >>= _).run.run s
        = _
      rw [Action.run_ofExcept_bind]
      cases old.mapM fun fd => s.programId Command.linkUpdate fd with
      | error e => rfl
      | ok expected =>
          show (Action.ofExcept (s.record Command.linkUpdate Errno.enolink id) >>= _).run.run s = _
          rw [hfound, Action.run_ofExcept_bind]
          dsimp only
          by_cases hdetached : record.detached = true
          · rw [LinkChange.answer_swap_of_detached hdetached, if_pos hdetached]
            rfl
          · have hattached := Bool.eq_false_iff.2 hdetached
            rw [if_neg hdetached]
            cases expected with
            | none =>
                rw [LinkChange.swap, LinkChange.answer_update hattached]
                rfl
            | some expected =>
                by_cases hsame : record.programId = expected
                · rw [LinkChange.swap, LinkChange.answer_replace_of_eq hattached hsame,
                    if_neg (by simp [hsame])]
                  rfl
                · rw [LinkChange.swap, LinkChange.answer_replace_of_ne hattached new hsame,
                    if_pos (by simp [Ne.symm hsame])]
                  rfl

theorem run_detachLink (hlink : s.object? link = some (.link id))
    (hrecord : s.links.get? id = some record) :
  let answer := LinkChange.detach.answer record
  (detachLink link).run.run s = (answer.map fun _ => (), s.afterChange id answer)
  := by
  intro answer
  have hid : s.linkId Command.linkDetach link = .ok id := by rw [linkId, hlink]
  have hfound : s.record Command.linkDetach Errno.enolink id = .ok record := by
    rw [State.record, hrecord]
  show (Action.ofExcept (s.linkId Command.linkDetach link) >>= _).run.run s = _
  rw [hid, Action.run_ofExcept_bind]
  show (Action.ofExcept (s.record Command.linkDetach Errno.enolink id) >>= _).run.run s = _
  rw [hfound, Action.run_ofExcept_bind]
  rfl

end State

namespace Machine

variable {settings : Settings} {m : Machine η}

/-- A request that changes a link is answered from its record. -/
theorem run_change_of_answer {call : String} {operation : Action State Unit} {id : UInt32}
    {record : LinkRecord} {change : LinkChange} (hrecord : m.state.links.get? id = some record)
    (hrun : operation.run.run (m.state.counted call)
      = ((change.answer record).map fun _ => (),
        (m.state.counted call).afterChange id (change.answer record))) :
  ∃ m', ((do count call; Machine.change operation : Action (Machine η) Unit)).run.run m
      = ((change.answer record).map fun _ => (), m')
    ∧ m'.state.links.get? id = some (change.next record)
  := by
  refine ⟨_, run_request hrun, ?_⟩
  unfold LinkChange.next
  cases hanswer : change.answer record with
  | error e => exact hrecord
  | ok changed =>
      show ((m.state.counted call).links.insert id changed).get? id = _
      rw [Table.get?_insert, if_pos rfl]

section Requests

variable (settings) {link program : Descriptor} {id new : UInt32} {record : LinkRecord}

-- Counting a command changes neither what descriptors stand for nor any record.

theorem run_updateLink {old : Option Descriptor} {expected : Option UInt32}
    (hlink : m.state.object? link = some (.link id))
    (hnew : m.state.programId Command.linkUpdate program = .ok new)
    (hold : (old.mapM fun fd => m.state.programId Command.linkUpdate fd) = .ok expected)
    (hrecord : m.state.links.get? id = some record) :
  ∃ m', ((kernel settings {}).updateLink link program old).run.run m
      = (((LinkChange.swap new expected).answer record).map fun _ => (), m')
    ∧ m'.state.links.get? id = some ((LinkChange.swap new expected).next record)
  := by
  have hlink : (m.state.counted Command.linkUpdate).object? link = some (.link id) := hlink
  have hnew : (m.state.counted Command.linkUpdate).programId Command.linkUpdate program = .ok new :=
    hnew
  have hold : (old.mapM fun fd =>
      (m.state.counted Command.linkUpdate).programId Command.linkUpdate fd) = .ok expected := hold
  apply run_change_of_answer hrecord
  rw [State.run_updateLink program old hlink hrecord, hnew, hold]

theorem run_detachLink (hlink : m.state.object? link = some (.link id))
    (hrecord : m.state.links.get? id = some record) :
  ∃ m', ((kernel settings {}).detachLink link).run.run m
      = ((LinkChange.detach.answer record).map fun _ => (), m')
    ∧ m'.state.links.get? id = some (LinkChange.detach.next record)
  := by
  have hlink : (m.state.counted Command.linkDetach).object? link = some (.link id) := hlink
  apply run_change_of_answer hrecord
  apply State.run_detachLink hlink hrecord

end Requests

end Machine

end Memory

/-! ### What operations are answered -/

namespace Session

/-- The operation goes through an open handle of a link, with open programs, and asks for a change. -/
def Operation.Means (op : Operation) (s : Session η) (id : UInt32) (change : LinkChange) : Prop :=
  ∃ i handle, s.links[i]? = some handle ∧ handle.link.fd.isSome ∧ handle.On id s.state
    ∧ match change with
      | .update new => ∃ j, op = .update i j ∧ ProgramHandle.On (s.program j) new s.state
      | .replace new old =>
        ∃ j k, op = .replace i j k ∧ ProgramHandle.On (s.program j) new s.state
          ∧ ProgramHandle.On (s.program k) old s.state
      | .detach => op = .detach i

section Answers

variable {settings : Settings} {s : Session η} {op : Operation} {id : UInt32} {change : LinkChange}
  {record : LinkRecord}

theorem through_of_run {i : Nat} {handle : Handle} (hhandle : s.links[i]? = some handle)
    {action : Link → Action (Machine η) Unit} {answer : Except Error LinkRecord} {m' : Machine η}
    (hrun : (action handle.link).run.run s.machine = (answer.map fun _ => (), m')) :
  through i action s = (answer.map fun _ => none, { s with machine := m' })
  := by
  rw [through, hhandle]
  dsimp only
  rw [asking, hrun]
  cases answer with
  | error e => rfl
  | ok changed => rfl

theorem run_update_of_open {link : Link} {fd program : Descriptor} (hopen : link.fd = some fd)
    (m : Machine η) :
  (link.update (kernel settings {}) (some program)).run.run m
    = ((kernel settings {}).updateLink fd program none).run.run m
  := by
  obtain ⟨linkType, handle, pinned⟩ := link
  cases hopen
  rfl

theorem run_replace_of_open {link : Link} {fd program old : Descriptor} (hopen : link.fd = some fd)
    (m : Machine η) :
  (link.replace (kernel settings {}) (some program) (some old)).run.run m
    = ((kernel settings {}).updateLink fd program (some old)).run.run m
  := by
  obtain ⟨linkType, handle, pinned⟩ := link
  cases hopen
  rfl

theorem run_detach_of_open {link : Link} {fd : Descriptor} (hopen : link.fd = some fd)
    (m : Machine η) :
  (link.detach (kernel settings {})).run.run m = ((kernel settings {}).detachLink fd).run.run m
  := by
  obtain ⟨linkType, handle, pinned⟩ := link
  cases hopen
  rfl

variable (settings) in
/-- A change is answered from the record of the link, whichever handle it comes through. -/
theorem perform_of_means (hmeans : op.Means s id change)
    (hrecord : s.state.links.get? id = some record) :
  (s.perform settings op).1 = (change.answer record).map (fun _ => none)
    ∧ (s.perform settings op).2.state.links.get? id = some (change.next record)
    ∧ ∃ machine, (s.perform settings op).2 = { s with machine }
  := by
  obtain ⟨i, handle, hhandle, hopen, hon, hop⟩ := hmeans
  obtain ⟨fd, hfd, hlink⟩ := hon.of_isSome hopen
  cases change with
  | update new =>
      obtain ⟨j, rfl, program, programType, attachType, hprogram, hnew⟩ := hop
      have hold : ((none : Option Descriptor).mapM fun fd : Descriptor =>
          s.state.programId Command.linkUpdate fd) = .ok none := rfl
      obtain ⟨m', hrun, hnext⟩ := Machine.run_updateLink settings hlink
        (State.programId_of_object hnew) hold hrecord
      have hupdate := (run_update_of_open hfd s.machine).trans hrun
      rw [← hprogram] at hupdate
      rw [perform, through_of_run hhandle hupdate]
      exact ⟨rfl, hnext, m', rfl⟩
  | replace new old =>
      obtain ⟨j, k, rfl, ⟨program, programType, attachType, hprogram, hnew⟩, expected, oldType,
        oldAttachType, hexpected, hold⟩ := hop
      have hold : ((some expected).mapM fun fd : Descriptor =>
          s.state.programId Command.linkUpdate fd) = .ok (some old) := by
        rw [Option.mapM_some, State.programId_of_object hold]
        rfl
      obtain ⟨m', hrun, hnext⟩ := Machine.run_updateLink settings hlink
        (State.programId_of_object hnew) hold hrecord
      have hreplace := (run_replace_of_open hfd s.machine).trans hrun
      rw [← hprogram, ← hexpected] at hreplace
      rw [perform, through_of_run hhandle hreplace]
      exact ⟨rfl, hnext, m', rfl⟩
  | detach =>
      cases hop
      obtain ⟨m', hrun, hnext⟩ := Machine.run_detachLink settings hlink hrecord
      have hdetach := (run_detach_of_open hfd s.machine).trans hrun
      rw [perform, through_of_run hhandle hdetach]
      exact ⟨rfl, hnext, m', rfl⟩

variable (settings) in
/-- Making a change leaves all handles as they are. -/
theorem Operation.Means.after {other : Operation} {otherChange : LinkChange}
    (h : other.Means s id otherChange) (hvalid : s.state.Valid) (hmeans : op.Means s id change)
    (hrecord : s.state.links.get? id = some record) :
  other.Means (s.perform settings op).2 id otherChange
  := by
  have hextends : Extends s.state (s.perform settings op).2.state := extends_perform hvalid op
  obtain ⟨-, -, machine, hafter⟩ := perform_of_means settings hmeans hrecord
  rw [hafter] at hextends ⊢
  obtain ⟨i, handle, hhandle, hopen, hon, hop⟩ := h
  refine ⟨i, handle, hhandle, hopen, hon.mono hextends, ?_⟩
  cases otherChange with
  | update new =>
      obtain ⟨j, rfl, hnew⟩ := hop
      exact ⟨j, rfl, programHandle_on_mono hnew hextends⟩
  | replace new old =>
      obtain ⟨j, k, rfl, hnew, hold⟩ := hop
      exact ⟨j, k, rfl, programHandle_on_mono hnew hextends, programHandle_on_mono hold hextends⟩
  | detach => exact hop

/-! ### Links that have been detached -/

end Answers

end Session

namespace Memory.Machine

variable {settings : Settings} {m m' : Machine η} {id : UInt32} {record : LinkRecord}

/-- No request changes a link that has been detached, as long as no link is made. -/
theorem record_of_detached (hdetached : record.detached = true)
    (hrecord : m.state.links.get? id = some record) {request : Request}
    (hrequest : ¬ request.AddsLink) :
  ((kernel settings {}).after m request).state.links.get? id = some record
  := by
  cases effect_after settings m request with
  | none hlinks hpins =>
      rw [hlinks]
      exact hrecord
  | addLink hadds hpins => exact absurd hadds hrequest
  | changeLink other old new hold hsame hlinks hpins =>
      rw [hlinks, Table.get?_insert]
      split
      next hid =>
        rw [← hid, hrecord] at hold
        cases hold
        rw [hsame hdetached]
      next => exact hrecord
  | pin names object hfree hlinks hpins =>
      rw [hlinks]
      exact hrecord
  | unpin path hremove hlinks hpins =>
      rw [hlinks]
      exact hrecord

end Memory.Machine

namespace Session

/-- The operation attaches nothing, or is a request elsewhere that makes no link. -/
def Operation.AddsNoLink : Operation → Prop
  | .event (.request request) => ¬ request.AddsLink
  | .event _ => False
  | .attach _ _ => False
  | _ => True

theorem Operation.kind_mem (op : Operation) :
  op.kind = Request.Opens ∨ op.kind = Request.Pins ∨ op.kind = Request.Swaps
    ∨ op.kind = Request.Detaches
  := by
  cases op with
  | pinProgram i path => exact .inr (.inl rfl)
  | pinLink i path => exact .inr (.inl rfl)
  | unpinLink i => exact .inr (.inl rfl)
  | unpin path => exact .inr (.inl rfl)
  | update i j => exact .inr (.inr (.inl rfl))
  | replace i j k => exact .inr (.inr (.inl rfl))
  | detach i => exact .inr (.inr (.inr rfl))
  | _ => exact .inl rfl

/-- No link is made by an operation on what there is. -/
theorem Operation.not_addsLink_of_kind {op : Operation} {request : Request} (h : op.kind request) :
  ¬ request.AddsLink
  := by
  intro hadds
  obtain hkind | hkind | hkind | hkind := op.kind_mem
  · rw [hkind] at h
    obtain hlooks | ⟨path, flags, rfl⟩ := h
    · cases request with
      | programInfo fd => cases hadds
      | objectType fd => cases hadds
      | linkInfo fd => cases hadds
      | _ => cases hlooks
    · cases hadds
  · rw [hkind] at h
    cases request with
    | pin fd path => cases hadds
    | removePin path => cases hadds
    | _ => cases h
  · rw [hkind] at h
    cases request with
    | updateLink link fd old => cases hadds
    | _ => cases h
  · rw [hkind] at h
    cases request with
    | detachLink link => cases hadds
    | _ => cases h

section Answers

variable {settings : Settings} {s : Session η} {op : Operation} {id : UInt32} {record : LinkRecord}

/-- A link that has been detached stays as it is. -/
theorem record_perform_of_detached (hdetached : record.detached = true)
    (hrecord : s.state.links.get? id = some record) (hop : op.AddsNoLink) :
  (s.perform settings op).2.state.links.get? id = some record
  := by
  by_cases hown : op.Own
  · apply (leads_perform settings s hown).holds (P := fun m : Machine η =>
      m.state.links.get? id = some record) _ hrecord
    intro m request hkind hrecord
    apply Machine.record_of_detached hdetached hrecord (Operation.not_addsLink_of_kind hkind)
  · cases op with
    | event event =>
        cases event with
        | request request => apply Machine.record_of_detached hdetached hrecord hop
        | _ => cases hop
    | attach request linkType => cases hop
    | _ => exact absurd trivial hown

theorem record_run_of_detached (settings : Settings) (hdetached : record.detached = true)
    (hrecord : s.state.links.get? id = some record) {later : List Operation}
    (hlater : ∀ op ∈ later, op.AddsNoLink) :
  (s.run settings later).state.links.get? id = some record
  := by
  induction later generalizing s with
  | nil => exact hrecord
  | cons op ops ih =>
      apply ih
      · apply record_perform_of_detached hdetached hrecord
        apply hlater op List.mem_cons_self
      · intro other hother
        apply hlater other (List.mem_cons_of_mem op hother)

/-! ### Programs that take the place of the same one -/

/-- The calls that succeed of a list of calls, each with the program that it brings, made one after the
other. -/
def succeeding (settings : Settings) (s : Session η) :
    List (Operation × UInt32) → List (Operation × UInt32)
  | [] => []
  | call :: calls =>
    match s.perform settings call.1 with
    | (.ok _, next) => call :: succeeding settings next calls
    | (.error _, next) => succeeding settings next calls

theorem succeeding_cons_of_ok {call : Operation × UInt32} {answer : Option Pinned}
    (h : (s.perform settings call.1).1 = .ok answer) (calls : List (Operation × UInt32)) :
  s.succeeding settings (call :: calls)
    = call :: succeeding settings (s.perform settings call.1).2 calls
  := by
  rw [succeeding]
  split
  next hperform => rw [hperform]
  next hperform =>
    rw [hperform] at h
    cases h

theorem succeeding_cons_of_error {call : Operation × UInt32} {e : Error}
    (h : (s.perform settings call.1).1 = .error e) (calls : List (Operation × UInt32)) :
  s.succeeding settings (call :: calls)
    = succeeding settings (s.perform settings call.1).2 calls
  := by
  rw [succeeding]
  split
  next hperform =>
    rw [hperform] at h
    cases h
  next hperform => rw [hperform]

section Replacements

variable {old : UInt32} {calls : List (Operation × UInt32)}

variable (settings) in
/-- Calls that replace a program can be made after one another. -/
theorem means_tail (hvalid : s.state.Valid) (hrecord : s.state.links.get? id = some record)
    {call : Operation × UInt32}
    (hcalls : ∀ other ∈ call :: calls, other.1.Means s id (.replace other.2 old)) :
  ∀ other ∈ calls, other.1.Means (s.perform settings call.1).2 id (.replace other.2 old)
  := by
  intro other hother
  have hcall := hcalls call List.mem_cons_self
  apply (hcalls other (List.mem_cons_of_mem call hother)).after settings hvalid hcall hrecord

/-- No replacement succeeds while another program than the expected one is attached. -/
theorem succeeding_of_ne (hvalid : s.state.Valid) (hrecord : s.state.links.get? id = some record)
    (hattached : record.programId ≠ old)
    (hcalls : ∀ call ∈ calls, call.1.Means s id (.replace call.2 old)) :
  s.succeeding settings calls = []
    ∧ (s.run settings (calls.map Prod.fst)).state.links.get? id = some record
  := by
  induction calls generalizing s with
  | nil => exact ⟨rfl, hrecord⟩
  | cons call calls ih =>
      obtain ⟨hanswer, hnext, -⟩ :=
        perform_of_means settings (hcalls call List.mem_cons_self) hrecord
      obtain ⟨e, hrefused⟩ := LinkChange.exists_answer_replace_of_ne call.2 hattached
      rw [hrefused] at hanswer
      rw [LinkChange.next_of_error hrefused] at hnext
      rw [succeeding_cons_of_error hanswer]
      apply ih (valid_perform hvalid call.1) hnext (means_tail settings hvalid hrecord hcalls)

/-- Of the replacements that bring another program, the first one succeeds and no other. -/
theorem succeeding_of_eq (hvalid : s.state.Valid) (hrecord : s.state.links.get? id = some record)
    (hdetached : record.detached = false) (hattached : record.programId = old)
    (hcalls : ∀ call ∈ calls, call.1.Means s id (.replace call.2 old))
    (hnew : ∃ call ∈ calls, call.2 ≠ old) :
  ∃ call ∈ calls,
    (s.succeeding settings calls).filter (fun call => call.2 ≠ old) = [call]
      ∧ (s.run settings (calls.map Prod.fst)).state.links.get? id
        = some { record with programId := call.2 }
  := by
  induction calls generalizing s with
  | nil =>
      obtain ⟨call, hcall, -⟩ := hnew
      cases hcall
  | cons call calls ih =>
      obtain ⟨hanswer, hnext, -⟩ :=
        perform_of_means settings (hcalls call List.mem_cons_self) hrecord
      have htaken : (LinkChange.replace call.2 old).answer record
          = .ok { record with programId := call.2 } :=
        LinkChange.answer_replace_of_eq hdetached hattached
      rw [htaken] at hanswer
      rw [LinkChange.next_of_ok htaken] at hnext
      have hnextValid : (s.perform settings call.1).2.state.Valid := valid_perform hvalid call.1
      have hrest := means_tail settings hvalid hrecord hcalls
      rw [succeeding_cons_of_ok hanswer]
      by_cases hsame : call.2 = old
      · -- The program that is attached takes its own place.
        rw [hsame, ← hattached] at hnext
        obtain ⟨other, hother, hne⟩ := hnew
        have hlater : ∃ call ∈ calls, call.2 ≠ old := by
          rcases List.mem_cons.1 hother with rfl | hother
          · exact absurd hsame hne
          · exact ⟨other, hother, hne⟩
        obtain ⟨winner, hwinner, hfilter, hlast⟩ := ih hnextValid hnext hrest hlater
        refine ⟨winner, List.mem_cons_of_mem call hwinner, ?_, hlast⟩
        rw [List.filter_cons_of_neg (by simp [hsame])]
        exact hfilter
      · obtain ⟨hnone, hlast⟩ := succeeding_of_ne hnextValid hnext hsame hrest
        refine ⟨call, List.mem_cons_self, ?_, hlast⟩
        rw [hnone, List.filter_cons_of_pos (by simp [hsame])]
        rfl

end Replacements

end Answers

/-! ### Runs of changes -/

section Runs

variable {settings : Settings} {s : Session η} {id : UInt32} {record : LinkRecord}

/-- Any number of changes leave the record as if it had gone through them one by one. -/
theorem record_run_of_means (settings : Settings) (hvalid : s.state.Valid)
    (hrecord : s.state.links.get? id = some record)
    {calls : List (Operation × LinkChange)} (hcalls : ∀ call ∈ calls, call.1.Means s id call.2) :
  (s.run settings (calls.map Prod.fst)).state.links.get? id
      = some ((calls.map Prod.snd).foldl LinkChange.next record)
    ∧ ∀ (op : Operation) change, op.Means s id change →
      op.Means (s.run settings (calls.map Prod.fst)) id change
  := by
  induction calls generalizing s record with
  | nil => exact ⟨hrecord, fun _ _ hop => hop⟩
  | cons call calls ih =>
      have hcall := hcalls call List.mem_cons_self
      have hafter (op : Operation) (change : LinkChange) (hmeans : op.Means s id change) :
          op.Means (s.perform settings call.1).2 id change :=
        hmeans.after settings hvalid hcall hrecord
      obtain ⟨-, hnext, -⟩ := perform_of_means settings hcall hrecord
      obtain ⟨hlast, hmeans⟩ := ih (valid_perform hvalid call.1) hnext fun other hother =>
        hafter other.1 other.2 (hcalls other (List.mem_cons_of_mem call hother))
      refine ⟨hlast, ?_⟩
      intro op change hop
      apply hmeans op change (hafter op change hop)

end Runs

end Session

/-- Through whichever handles a link is changed, each change is answered from the record that the ones
before it have left.  Once it is detached, no program takes its place any more, and of replacements that
expect the same program and bring others exactly one succeeds. -/
theorem changes_answered {settings : Settings} {m : Machine η} (h : m.Reachable settings)
    (before : List Session.Operation) {id : UInt32} {record : LinkRecord}
    (hrecord : ((Session.start m).run settings before).state.links.get? id = some record) :
  let s := (Session.start m).run settings before
  (∀ calls : List (Session.Operation × LinkChange), (∀ call ∈ calls, call.1.Means s id call.2) →
      ∀ op change, op.Means s id change →
        let current := (calls.map Prod.snd).foldl LinkChange.next record
        let answered := (s.run settings (calls.map Prod.fst)).perform settings op
        answered.1 = (change.answer current).map (fun _ => none)
          ∧ answered.2.state.links.get? id = some (change.next current))
    ∧ (record.detached = true → ∀ later : List Session.Operation, (∀ op ∈ later, op.AddsNoLink) →
      (s.run settings later).state.links.get? id = some record
        ∧ ∀ op new expected, op.Means (s.run settings later) id (.swap new expected) →
          ((s.run settings later).perform settings op).1
            = .error (.ofErrno Command.linkUpdate Errno.enolink))
    ∧ ∀ old (calls : List (Session.Operation × UInt32)), record.detached = false →
      record.programId = old → (∀ call ∈ calls, call.1.Means s id (.replace call.2 old)) →
      (∃ call ∈ calls, call.2 ≠ old) →
        ∃ call ∈ calls,
          (s.succeeding settings calls).filter (fun call => call.2 ≠ old) = [call]
            ∧ (s.run settings (calls.map Prod.fst)).state.links.get? id
              = some { record with programId := call.2 }
  := by
  intro s
  have hvalid : s.state.Valid := Session.valid_run (Session.sound_start h).valid before
  refine ⟨?_, ?_, ?_⟩
  · intro calls hcalls op change hop
    obtain ⟨hlast, hmeans⟩ := Session.record_run_of_means settings hvalid hrecord hcalls
    obtain ⟨hanswer, hnext, -⟩ :=
      Session.perform_of_means settings (hmeans op change hop) hlast
    exact ⟨hanswer, hnext⟩
  · intro hdetached later hlater
    have hkept := Session.record_run_of_detached settings hdetached hrecord hlater
    refine ⟨hkept, ?_⟩
    intro op new expected hop
    obtain ⟨hanswer, -⟩ := Session.perform_of_means settings hop hkept
    rw [hanswer, LinkChange.answer_swap_of_detached hdetached]
    rfl
  · intro old calls hdetached hattached hcalls hnew
    apply Session.succeeding_of_eq hvalid hrecord hdetached hattached hcalls hnew

/-- A machine with three programs, of which the first is attached by a link with two descriptors. -/
def swapMachine : Machine Unit :=
  let load : ProgramLoad := ⟨.xdp, none, none, [.exit], ⟨"MIT", nul_not_mem_mit⟩, "", 0, 0, 0⟩
  (Machine.fresh ()).afterEvents {}
    [.request (.loadProgram load), .request (.loadProgram load), .request (.loadProgram load),
      .request (.createLink ⟨nthDescriptor 0, 1, .xdp, 0, .none⟩), .request (.openLink 1)]

/-- Handles on everything there is. -/
def swapOperations : List Session.Operation :=
  [.openProgram (nthDescriptor 0), .openProgram (nthDescriptor 1), .openProgram (nthDescriptor 2),
    .openLink (nthDescriptor 3), .openLink (nthDescriptor 4)]

/-- Two programs are to take the place of the first one, each through a handle of its own. -/
theorem changes_answered_two :
  let s := (Session.start swapMachine).run {} swapOperations
  let calls : List (Session.Operation × UInt32) := [(.replace 0 1 0, 2), (.replace 1 2 0, 3)]
  ∃ call ∈ calls, (s.succeeding {} calls).filter (fun call => call.2 ≠ 1) = [call]
  := by
  intro s calls
  have hrecord : s.state.links.get? 1
      = some { LinkRecord.ofAttachType 1 .xdp 1 with target := 1 } := by
    decide +kernel
  obtain ⟨-, -, hreplace⟩ := changes_answered ⟨(), _, rfl⟩ swapOperations hrecord
  have hlinks : s.links
      = [3, 4].map fun i => ⟨⟨.xdp, some (nthDescriptor i), none⟩, some (nthDescriptor i)⟩ := by
    decide +kernel
  have hprograms : s.programs = [0, 1, 2].map fun i => ⟨some (nthDescriptor i), .xdp⟩ := by
    decide +kernel
  have hloaded : ∀ i < 3, s.state.object? (nthDescriptor i)
      = some (.program (UInt32.ofNat (i + 1)) .xdp none) := by
    decide +kernel
  have hmade : ∀ i < 2, s.state.object? (nthDescriptor (i + 3)) = some (.link 1) := by
    decide +kernel
  have hprogram (i : Nat) (hi : i < 3) :
      ProgramHandle.On (s.program i) (UInt32.ofNat (i + 1)) s.state := by
    refine ⟨nthDescriptor i, .xdp, none, ?_, hloaded i hi⟩
    rw [Session.program, hprograms]
    revert i
    decide
  have hlink (i : Nat) (hi : i < 2) :
      ∃ handle, s.links[i]? = some handle ∧ handle.link.fd.isSome ∧ handle.On 1 s.state := by
    let fd := nthDescriptor (i + 3)
    refine ⟨⟨⟨.xdp, some fd, none⟩, some fd⟩, ?_, rfl, fd, rfl, hmade i hi, .inr rfl⟩
    rw [hlinks]
    revert i
    decide
  have hmeans : ∀ call ∈ calls, call.1.Means s 1 (.replace call.2 1) := by
    intro call hcall
    rcases List.mem_cons.1 hcall with rfl | hcall
    · obtain ⟨handle, hhandle, hopen, hon⟩ := hlink 0 (by decide)
      exact ⟨0, handle, hhandle, hopen, hon, 1, 0, rfl, hprogram 1 (by decide),
        hprogram 0 (by decide)⟩
    · rw [List.mem_singleton.1 hcall]
      obtain ⟨handle, hhandle, hopen, hon⟩ := hlink 1 (by decide)
      exact ⟨1, handle, hhandle, hopen, hon, 2, 0, rfl, hprogram 2 (by decide),
        hprogram 0 (by decide)⟩
  obtain ⟨call, hcall, hwins, -⟩ :=
    hreplace 1 calls rfl rfl hmeans ⟨_, List.mem_cons_self, by decide⟩
  exact ⟨call, hcall, hwins⟩

end Bpf
