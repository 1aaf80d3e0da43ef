import Bpf.Memory.Kernel

/-!
# Operations on the state of a kernel in memory

What each operation does to a state, whatever its answer.  An operation either refuses before it has
changed anything, or makes the one change that it is there for.  Only new programs and new links can
fail after that: their ids may have run out, which stops the program (`State.halted`), and the record
stays where there is no descriptor to be had for it (`State.run_loadProgram`, `State.run_addLink`).
-/

namespace Bpf

/-- A step that succeeds after another one comes after a success. -/
theorem exists_of_bind_eq_ok {ε α β : Type} {x : Except ε α} {f : α → Except ε β} {b : β}
    (h : x >>= f = .ok b) :
  ∃ a, x = .ok a ∧ f a = .ok b
  := by
  cases x with
  | error e => cases h
  | ok a => exact ⟨a, rfl, h⟩

namespace Action

variable {σ α β : Type} {x : Action σ α} {f : α → Action σ β}

/-! ### Checks before changes -/

/-- The action only looks at the state. -/
def Reads (x : Action σ α) : Prop := ∀ s, (x.run.run s).2 = s

/-- Where the action fails it leaves the state as it is. -/
def Refuses (x : Action σ α) : Prop := ∀ s e s', x.run.run s = (.error e, s') → s' = s

theorem reads_get :
  Reads (get : Action σ σ)
  := fun _ => rfl

theorem reads_ofExcept (answer : Except Error α) :
  Reads (ofExcept answer : Action σ α)
  := fun _ => rfl

theorem refuses_throw (e : Error) :
  Refuses (throw e : Action σ α)
  := by
  intro s e s' h
  cases h
  rfl

theorem refuses_set (t : σ) :
  Refuses (set t : Action σ PUnit)
  := by
  intro s e s' h
  cases h

/-- What is checked first may be refused. -/
theorem Reads.bind (hx : Reads x) (hf : ∀ a, Refuses (f a)) :
  Refuses (x >>= f)
  := by
  intro s e s' h
  have hs := hx s
  rcases hrun : x.run.run s with ⟨e' | a, t⟩
  · rw [run_bind_of_error hrun] at h
    rw [hrun] at hs
    cases h
    exact hs
  · rw [run_bind_of_ok hrun] at h
    rw [hrun] at hs
    cases hs
    apply hf a _ _ _ h

/-- A condition may be refused. -/
theorem refuses_unless {c : Prop} [Decidable c] (e : Error) (hx : Refuses x) :
  Refuses (if c then throw e else x)
  := by
  split
  next => apply refuses_throw
  next => apply hx

end Action

namespace Memory

namespace State

variable {s s' : State}

/-! ### Changes of a state -/

/-- Descriptors can be opened. -/
def HasDescriptors (s : State) : Prop := s.device = none

instance (s : State) : Decidable s.HasDescriptors := by
  unfold HasDescriptors
  infer_instance

/-- The state with another descriptor, for an object. -/
def opened (s : State) (object : Object) : State :=
  { s with
    objects := s.objects.insert s.nextDescriptor object
    descriptorCount := s.descriptorCount + 1 }

/-- The state with another program. -/
def withProgram (s : State) (programType : ProgramType) : State :=
  { s with
    nextProgramId := s.nextProgramId + 1
    programs := s.programs.insert s.nextProgramId programType }

/-- The state with another link. -/
def withLink (s : State) (link : LinkRecord) : State :=
  { s with
    nextLinkId := s.nextLinkId + 1
    links := s.links.insert s.nextLinkId link }

/-- The state with another program, which has been opened. -/
def loaded (s : State) (programType : ProgramType) (attachType : Option AttachType) : State :=
  (s.withProgram programType).opened (.program s.nextProgramId programType attachType)

/-- The state with another link, which has been opened. -/
def linked (s : State) (link : LinkRecord) : State :=
  (s.withLink link).opened (.link s.nextLinkId)

/-- The state with another record under an id. -/
def recorded (s : State) (id : UInt32) (link : LinkRecord) : State :=
  { s with links := s.links.insert id link }

/-- The state with an object pinned. -/
def pinned (s : State) (names : List String) (object : Object) : State :=
  { s with pins := s.pins.insert names object }

/-- The state without a pin. -/
def unpinned (s : State) (names : List String) : State := { s with pins := s.pins.erase names }

/-- The state once there was no id to go on with. -/
def halted (s : State) : State := { s with stopped := true }

theorem halted_of_stopped (h : s.stopped = true) :
  s.halted = s
  := by
  rw [halted, ← h]

theorem object?_opened (s : State) (object : Object) :
  (s.opened object).object? s.nextDescriptor = some object
  := by
  rw [object?, opened, Assoc.get?_insert, if_pos rfl]

theorem get?_pins_pinned (s : State) (names other : List String) (object : Object) :
  (s.pinned names object).pins.get? other
    = if other = names then some object else s.pins.get? other
  := by
  apply Assoc.get?_insert

theorem get?_pins_unpinned (s : State) (names other : List String) :
  (s.unpinned names).pins.get? other = if other = names then none else s.pins.get? other
  := by
  apply Assoc.get?_erase

/-! ### Opening -/

theorem run_openObject (object : Object) (h : s.HasDescriptors) :
  (openObject object).run.run s = (.ok s.nextDescriptor, s.opened object)
  := by
  obtain ⟨objects, programs, links, pins, calls, nextProgramId, nextLinkId, count, device, stopped⟩ := s
  cases h
  rfl

theorem run_openObject_of_device {failure : IoError} (object : Object)
    (h : s.device = some failure) :
  (openObject object).run.run s = (.error (.io failure), s)
  := by
  obtain ⟨objects, programs, links, pins, calls, nextProgramId, nextLinkId, count, device, stopped⟩ := s
  cases h
  rfl

/-- Without a descriptor to be had nothing is opened. -/
theorem exists_run_openObject (object : Object) (h : ¬ s.HasDescriptors) :
  ∃ failure, s.device = some failure ∧ (openObject object).run.run s = (.error (.io failure), s)
  := by
  obtain ⟨failure, hdevice⟩ := Option.ne_none_iff_exists'.1 h
  exact ⟨failure, hdevice, run_openObject_of_device object hdevice⟩

theorem openObject_eq_ok {object : Object} {fd : Descriptor}
    (h : (openObject object).run.run s = (.ok fd, s')) :
  s.HasDescriptors ∧ fd = s.nextDescriptor ∧ s' = s.opened object
  := by
  by_cases hfd : s.HasDescriptors
  · rw [run_openObject object hfd] at h
    cases h
    exact ⟨hfd, rfl, rfl⟩
  · obtain ⟨failure, -, hrun⟩ := exists_run_openObject object hfd
    rw [hrun] at h
    cases h

theorem refuses_openObject (object : Object) :
  (openObject object).Refuses
  := by
  intro s e s' h
  by_cases hfd : s.HasDescriptors
  · rw [run_openObject object hfd] at h
    cases h
  · obtain ⟨failure, -, hrun⟩ := exists_run_openObject object hfd
    rw [hrun] at h
    cases h
    rfl

/-- An opened object or none, and nothing else that is new. -/
theorem snd_openObject (object : Object) (s : State) :
  ((openObject object).run.run s).2 = s
    ∨ s.HasDescriptors ∧ ((openObject object).run.run s).2 = s.opened object
  := by
  by_cases hfd : s.HasDescriptors
  · right
    rw [run_openObject object hfd]
    exact ⟨hfd, rfl⟩
  · left
    obtain ⟨failure, -, hrun⟩ := exists_run_openObject object hfd
    rw [hrun]

/-! ### Looking things up -/

theorem program_eq_ok {call : String} {fd : Descriptor}
    {found : UInt32 × ProgramType × Option AttachType} (h : s.program call fd = .ok found) :
  s.object? fd = some (.program found.1 found.2.1 found.2.2)
  := by
  unfold program at h
  split at h
  next hobject =>
    cases h
    exact hobject
  next => cases h
  next => cases h

theorem programId_eq_ok {call : String} {fd : Descriptor} {id : UInt32}
    (h : s.programId call fd = .ok id) :
  ∃ programType attachType, s.object? fd = some (.program id programType attachType)
  := by
  obtain ⟨found, hfound, hid⟩ := exists_of_bind_eq_ok h
  cases hid
  exact ⟨_, _, program_eq_ok hfound⟩

theorem linkId_eq_ok {call : String} {fd : Descriptor} {id : UInt32}
    (h : s.linkId call fd = .ok id) :
  s.object? fd = some (.link id)
  := by
  unfold linkId at h
  split at h
  next hobject =>
    cases h
    exact hobject
  next => cases h
  next => cases h

theorem record_eq_ok {call : String} {missing : Errno} {id : UInt32} {link : LinkRecord}
    (h : s.record call missing id = .ok link) :
  s.links.get? id = some link
  := by
  unfold record at h
  split at h
  next hlink =>
    cases h
    exact hlink
  next => cases h

/-! ### New programs and new links -/

theorem run_idAfter {id : UInt32} (h : id ≠ lastId) (s : State) :
  (idAfter id).run.run s = (.ok (id + 1), s)
  := by
  rw [idAfter, if_neg h]
  rfl

theorem run_idAfter_lastId (s : State) :
  (idAfter lastId).run.run s = (.error overflow, s.halted)
  := rfl

/-- A program gets its record before it is opened. -/
theorem run_loadProgram (load : ProgramLoad) (s : State) :
  (loadProgram load).run.run s
    = if load.insns.isEmpty then (.error (.ofErrno Command.progLoad Errno.einval), s)
      else if s.nextProgramId = lastId then (.error overflow, s.halted)
      else (openObject (.program s.nextProgramId load.programType load.attachType)).run.run
        (s.withProgram load.programType)
  := by
  unfold loadProgram
  split
  next => rfl
  next =>
    by_cases hid : s.nextProgramId = lastId
    · rw [if_pos hid]
      have hnext := run_idAfter_lastId s
      rw [← hid] at hnext
      apply Action.run_bind_of_error hnext
    · rw [if_neg hid]
      apply Action.run_bind_of_ok (run_idAfter hid s)

/-- A link gets its record before it is opened. -/
theorem run_addLink (link : UInt32 → LinkRecord) (s : State) :
  (addLink link).run.run s
    = if s.nextLinkId = lastId then (.error overflow, s.halted)
      else (openObject (.link s.nextLinkId)).run.run (s.withLink (link s.nextLinkId))
  := by
  by_cases hid : s.nextLinkId = lastId
  · rw [if_pos hid]
    have hnext := run_idAfter_lastId s
    rw [← hid] at hnext
    apply Action.run_bind_of_error hnext
  · rw [if_neg hid]
    apply Action.run_bind_of_ok (run_idAfter hid s)

theorem addLink_eq_ok {link : UInt32 → LinkRecord} {fd : Descriptor}
    (h : (addLink link).run.run s = (.ok fd, s')) :
  s.HasDescriptors ∧ s.nextLinkId ≠ lastId ∧ fd = s.nextDescriptor
    ∧ s' = s.linked (link s.nextLinkId)
  := by
  rw [run_addLink] at h
  split at h
  next => cases h
  next hid =>
    obtain ⟨hfd, rfl, rfl⟩ := openObject_eq_ok h
    exact ⟨hfd, hid, rfl, rfl⟩

/-- What a request for a program may leave behind. -/
theorem snd_loadProgram (load : ProgramLoad) (s : State) :
  ((loadProgram load).run.run s).2 = s ∨ ((loadProgram load).run.run s).2 = s.halted
    ∨ s.nextProgramId ≠ lastId
      ∧ (((loadProgram load).run.run s).2 = s.withProgram load.programType
        ∨ s.HasDescriptors
          ∧ ((loadProgram load).run.run s).2 = s.loaded load.programType load.attachType)
  := by
  rw [run_loadProgram]
  split
  next => exact .inl rfl
  next =>
    split
    next => exact .inr (.inl rfl)
    next hid =>
      right
      right
      refine ⟨hid, ?_⟩
      apply snd_openObject

/-- What a request for a link may leave behind once nothing is in its way. -/
theorem snd_addLink (link : UInt32 → LinkRecord) (s : State) :
  ((addLink link).run.run s).2 = s.halted
    ∨ s.nextLinkId ≠ lastId
      ∧ (((addLink link).run.run s).2 = s.withLink (link s.nextLinkId)
        ∨ s.HasDescriptors ∧ ((addLink link).run.run s).2 = s.linked (link s.nextLinkId))
  := by
  rw [run_addLink]
  split
  next => exact .inl rfl
  next hid =>
    right
    refine ⟨hid, ?_⟩
    apply snd_openObject

/-- A raw tracepoint is refused, or gets a link. -/
theorem openRawTracepoint_cases (name : Option NulFree) (program : Descriptor) (s : State) :
  (∃ e, (openRawTracepoint name program).run.run s = (.error e, s))
    ∨ ∃ id programType loaded attachType,
      s.object? program = some (.program id programType loaded)
        ∧ tracepointType name loaded = .ok attachType
        ∧ (openRawTracepoint name program).run.run s
          = (addLink fun linkId => .ofAttachType linkId attachType id).run.run s
  := by
  have hrun : (openRawTracepoint name program).run.run s
      = (Action.ofExcept (s.program Command.rawTracepointOpen program) >>= fun found =>
          Action.ofExcept (tracepointType name found.2.2) >>= fun attachType =>
            addLink fun linkId => .ofAttachType linkId attachType found.1).run.run s := rfl
  rw [hrun, Action.run_ofExcept_bind]
  split
  next found hprogram =>
    rw [Action.run_ofExcept_bind]
    split
    next attachType htype =>
      right
      exact ⟨_, _, _, attachType, program_eq_ok hprogram, htype, rfl⟩
    next e htype => exact .inl ⟨e, rfl⟩
  next e hprogram => exact .inl ⟨e, rfl⟩

/-- A link is made once there is nothing left that is in its way. -/
theorem run_createLink (request : LinkCreate) (s : State) :
  (createLink request).run.run s
    = match s.programId Command.linkCreate request.program with
      | .error e => (.error e, s)
      | .ok id =>
        if isOnInterface request.attachType && request.target = 0xffffffff then
          (.error (.ofErrno Command.linkCreate Errno.enodev), s)
        else if s.checkPlace request = false then
          (.error (.ofErrno Command.linkCreate Errno.enoent), s)
        else (addLink (requested request id)).run.run s
  := by
  show (Action.ofExcept (s.programId Command.linkCreate request.program) >>= _).run.run s = _
  rw [Action.run_ofExcept_bind]
  cases s.programId Command.linkCreate request.program with
  | error e => rfl
  | ok id =>
      dsimp only
      split
      next => rfl
      next =>
        cases hplace : s.checkPlace request with
        | false => rfl
        | true => rfl

/-- A request for a link is refused, or gets one. -/
theorem createLink_cases (request : LinkCreate) (s : State) :
  (∃ e, (createLink request).run.run s = (.error e, s))
    ∨ ∃ id programType loaded,
      s.object? request.program = some (.program id programType loaded)
        ∧ ¬ (isOnInterface request.attachType && request.target = 0xffffffff)
        ∧ s.checkPlace request = true
        ∧ (createLink request).run.run s = (addLink (requested request id)).run.run s
  := by
  rw [run_createLink]
  split
  next e hid => exact .inl ⟨e, rfl⟩
  next id hid =>
    obtain ⟨programType, loaded, hobject⟩ := programId_eq_ok hid
    split
    next => exact .inl ⟨_, rfl⟩
    next hinterface =>
      split
      next => exact .inl ⟨_, rfl⟩
      next hplace =>
        right
        exact ⟨id, programType, loaded, hobject, hinterface, Bool.not_eq_false _ ▸ hplace, rfl⟩

theorem openRawTracepoint_eq_ok {name : Option NulFree} {program fd : Descriptor}
    (h : (openRawTracepoint name program).run.run s = (.ok fd, s')) :
  ∃ id programType loaded attachType, s.object? program = some (.program id programType loaded)
    ∧ tracepointType name loaded = .ok attachType
    ∧ (addLink fun linkId => .ofAttachType linkId attachType id).run.run s = (.ok fd, s')
  := by
  obtain ⟨e, hrun⟩ | ⟨id, programType, loaded, attachType, hobject, htype, hrun⟩ :=
    openRawTracepoint_cases name program s
  · rw [hrun] at h
    cases h
  · rw [hrun] at h
    exact ⟨id, programType, loaded, attachType, hobject, htype, h⟩

theorem createLink_eq_ok {request : LinkCreate} {fd : Descriptor}
    (h : (createLink request).run.run s = (.ok fd, s')) :
  ∃ id programType loaded, s.object? request.program = some (.program id programType loaded)
    ∧ (addLink (requested request id)).run.run s = (.ok fd, s')
  := by
  obtain ⟨e, hrun⟩ | ⟨id, programType, loaded, hobject, -, -, hrun⟩ := createLink_cases request s
  · rw [hrun] at h
    cases h
  · rw [hrun] at h
    exact ⟨id, programType, loaded, hobject, h⟩

/-! ### Changes of links -/

theorem updateLink_eq_ok {link program : Descriptor} {old : Option Descriptor} {u : Unit}
    (h : (updateLink link program old).run.run s = (.ok u, s')) :
  ∃ id record new programType attachType,
    s.object? link = some (.link id) ∧ s.links.get? id = some record
      ∧ record.detached = false
      ∧ s.object? program = some (.program new programType attachType)
      ∧ s' = s.recorded id { record with programId := new }
  := by
  have h : (Action.ofExcept (s.linkId Command.linkUpdate link) >>= _).run.run s = (.ok u, s') := h
  obtain ⟨id, hid, h⟩ := Action.exists_of_run_ofExcept_bind_ok h
  obtain ⟨new, hnew, h⟩ := Action.exists_of_run_ofExcept_bind_ok h
  obtain ⟨expected, -, h⟩ := Action.exists_of_run_ofExcept_bind_ok h
  obtain ⟨record, hrecord, h⟩ := Action.exists_of_run_ofExcept_bind_ok h
  obtain ⟨programType, attachType, hobject⟩ := programId_eq_ok hnew
  dsimp only at h
  split at h
  next => cases h
  next hdetached =>
    split at h
    next => cases h
    next =>
      cases h
      exact ⟨id, record, new, programType, attachType, linkId_eq_ok hid, record_eq_ok hrecord,
        Bool.eq_false_iff.2 hdetached, hobject, rfl⟩

theorem refuses_updateLink (link program : Descriptor) (old : Option Descriptor) :
  (updateLink link program old).Refuses
  := by
  apply Action.reads_get.bind
  intro s
  apply (Action.reads_ofExcept _).bind
  intro id
  apply (Action.reads_ofExcept _).bind
  intro new
  apply (Action.reads_ofExcept _).bind
  intro expected
  apply (Action.reads_ofExcept _).bind
  intro record
  apply Action.refuses_unless
  apply Action.refuses_unless
  apply Action.refuses_set

theorem detachLink_eq_ok {link : Descriptor} {u : Unit}
    (h : (detachLink link).run.run s = (.ok u, s')) :
  ∃ id record, s.object? link = some (.link id) ∧ s.links.get? id = some record
    ∧ s' = s.recorded id { record with detached := true }
  := by
  have h : (Action.ofExcept (s.linkId Command.linkDetach link) >>= _).run.run s = (.ok u, s') := h
  obtain ⟨id, hid, h⟩ := Action.exists_of_run_ofExcept_bind_ok h
  obtain ⟨record, hrecord, h⟩ := Action.exists_of_run_ofExcept_bind_ok h
  cases h
  exact ⟨id, record, linkId_eq_ok hid, record_eq_ok hrecord, rfl⟩

theorem refuses_detachLink (link : Descriptor) :
  (detachLink link).Refuses
  := by
  apply Action.reads_get.bind
  intro s
  apply (Action.reads_ofExcept _).bind
  intro id
  apply (Action.reads_ofExcept _).bind
  intro record
  apply Action.refuses_set

theorem openLink_eq_ok {id : UInt32} {fd : Descriptor}
    (h : (openLink id).run.run s = (.ok fd, s')) :
  s.HasDescriptors ∧ (∃ record, s.links.get? id = some record) ∧ fd = s.nextDescriptor
    ∧ s' = s.opened (.link id)
  := by
  have h : (Action.ofExcept (s.record Command.linkFdById Errno.enoent id) >>= _).run.run s
      = (.ok fd, s') := h
  obtain ⟨record, hrecord, h⟩ := Action.exists_of_run_ofExcept_bind_ok h
  dsimp only at h
  split at h
  next => cases h
  next =>
    obtain ⟨hfd, rfl, rfl⟩ := openObject_eq_ok h
    exact ⟨hfd, ⟨record, record_eq_ok hrecord⟩, rfl, rfl⟩

theorem refuses_openLink (id : UInt32) :
  (openLink id).Refuses
  := by
  apply Action.reads_get.bind
  intro s
  apply (Action.reads_ofExcept _).bind
  intro record
  apply Action.refuses_unless
  apply refuses_openObject

/-! ### Pins -/

theorem run_pin (fd : Descriptor) (path : Path) (s : State) :
  (State.pin fd path).run.run s
    = match s.object? fd with
      | none => (.error (.ofErrno Command.objPin Errno.ebadf), s)
      | some object =>
        if s.pins.contains path.components then (.error (.ofErrno Command.objPin Errno.eexist), s)
        else (.ok (), s.pinned path.components object)
  := by
  show (match s.object? fd with
    | none => throw (.ofErrno Command.objPin Errno.ebadf)
    | some object =>
      if s.pins.contains path.components then throw (.ofErrno Command.objPin Errno.eexist)
      else set (s.pinned path.components object) : Action State Unit).run.run s = _
  split
  next => rfl
  next =>
    split
    next => rfl
    next => rfl

theorem pin_eq_ok {fd : Descriptor} {path : Path} {u : Unit}
    (h : (State.pin fd path).run.run s = (.ok u, s')) :
  ∃ object, s.object? fd = some object ∧ s.pins.get? path.components = none
    ∧ s' = s.pinned path.components object
  := by
  rw [run_pin] at h
  split at h
  next => cases h
  next object hobject =>
    split at h
    next => cases h
    next hfree =>
      cases h
      refine ⟨object, hobject, ?_, rfl⟩
      simpa [Assoc.contains] using hfree

theorem run_pin_of_free {fd : Descriptor} {object : Object} {path : Path}
    (hobject : s.object? fd = some object) (hfree : s.pins.get? path.components = none) :
  (State.pin fd path).run.run s = (.ok (), s.pinned path.components object)
  := by
  rw [run_pin, hobject]
  apply if_neg
  rw [Assoc.contains, hfree]
  decide

theorem run_pin_of_taken {fd : Descriptor} {object other : Object} {path : Path}
    (hobject : s.object? fd = some object) (htaken : s.pins.get? path.components = some other) :
  (State.pin fd path).run.run s = (.error (.ofErrno Command.objPin Errno.eexist), s)
  := by
  rw [run_pin, hobject]
  apply if_pos
  rw [Assoc.contains, htaken]
  rfl

theorem run_pin_of_unknown {fd : Descriptor} (path : Path) (hobject : s.object? fd = none) :
  (State.pin fd path).run.run s = (.error (.ofErrno Command.objPin Errno.ebadf), s)
  := by
  rw [run_pin, hobject]

theorem refuses_pin (fd : Descriptor) (path : Path) :
  (State.pin fd path).Refuses
  := by
  apply Action.reads_get.bind
  intro s
  split
  next => apply Action.refuses_throw
  next =>
    apply Action.refuses_unless
    apply Action.refuses_set

theorem openPin_eq_ok {path : Path} {flags : UInt32} {fd : Descriptor}
    (h : (openPin path flags).run.run s = (.ok fd, s')) :
  ∃ object, s.HasDescriptors ∧ s.pins.get? path.components = some object
    ∧ fd = s.nextDescriptor ∧ s' = s.opened object
  := by
  unfold openPin at h
  split at h
  next => cases h
  next =>
    have hget : (get : Action State State).run.run s = (.ok s, s) := rfl
    rw [Action.run_bind_of_ok hget] at h
    split at h
    next object hobject =>
      obtain ⟨hfd, hnew, rfl⟩ := openObject_eq_ok h
      exact ⟨object, hfd, hobject, hnew, rfl⟩
    next => cases h

theorem refuses_openPin (path : Path) (flags : UInt32) :
  (openPin path flags).Refuses
  := by
  apply Action.refuses_unless
  apply Action.reads_get.bind
  intro s
  split
  next => apply refuses_openObject
  next => apply Action.refuses_throw

theorem run_removePin (path : Path) (s : State) :
  (removePin path).run s
    = if s.pins.contains path.components then (.ok (), s.unpinned path.components)
      else (.error (.os Errno.enoent), s)
  := by
  show (if s.pins.contains path.components then _ else _ : StateM State _).run s = _
  split
  next => rfl
  next => rfl

end State

end Memory

end Bpf
