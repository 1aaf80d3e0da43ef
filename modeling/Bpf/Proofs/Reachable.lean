import Bpf.Proofs.Walk
import Bpf.Request

/-!
# States that a kernel in memory can reach

An `Event` is anything that can happen to a kernel in memory: a request, whatever the answer, a new
map, or a link that comes, goes or is let go elsewhere.  `State.Step` lists what an event can do to the
state, and what holds of all reachable states is read off that list: descriptors are new when they are
opened, no program has the id zero, and each link is kept under its own id (`State.Valid`).  Unless
links are taken out, there is a link behind every descriptor and every pin of a link
(`State.Complete`).
-/

namespace Bpf

variable {σ η α : Type}

/-- The state of a kernel after a request. -/
def Kernel.after (K : Kernel σ) (s : σ) : Request → σ
  | .loadProgram load => ((K.loadProgram load).run.run s).2
  | .programInfo fd => ((K.programInfo fd).run.run s).2
  | .attachProgram attach => ((K.attachProgram attach).run.run s).2
  | .queryPrograms target attachType => ((K.queryPrograms target attachType).run.run s).2
  | .openRawTracepoint name fd => ((K.openRawTracepoint name fd).run.run s).2
  | .createLink create => ((K.createLink create).run.run s).2
  | .updateLink link fd old => ((K.updateLink link fd old).run.run s).2
  | .detachLink link => ((K.detachLink link).run.run s).2
  | .linkInfo link => ((K.linkInfo link).run.run s).2
  | .nextLinkId start => ((K.nextLinkId start).run.run s).2
  | .openLink id => ((K.openLink id).run.run s).2
  | .pin fd path => ((K.pin fd path).run.run s).2
  | .openPin path flags => ((K.openPin path flags).run.run s).2
  | .objectType fd => ((K.objectType fd).run.run s).2
  | .removePin path => ((K.removePin path).run s).2
  | .btfId name => ((K.btfId name).run.run s).2

namespace Memory

/-! ### Steps -/

namespace State

variable {s s' : State}

/-- An object that the kernel has, behind a descriptor or at a pin. -/
def Knows (s : State) (object : Object) : Prop :=
  (∃ fd, s.object? fd = some object) ∨ ∃ names, s.pins.get? names = some object

theorem knows_of_object? {fd : Descriptor} {object : Object} (h : s.object? fd = some object) :
  s.Knows object
  := by
  left
  exact ⟨fd, h⟩

/-- What a descriptor may be opened for. -/
inductive Offers (s : State) : Object → Prop where
  | map : Offers s .map
  | program (id : UInt32) (programType : ProgramType) (attachType : Option AttachType)
      (h : s.programs.get? id = some programType) :
    Offers s (.program id programType attachType)
  | link (id : UInt32) (link : LinkRecord) (h : s.links.get? id = some link) : Offers s (.link id)
  | known (object : Object) (h : s.Knows object) : Offers s object

/-- The state once the device fails on which descriptors are opened. -/
def withoutDevice (s : State) (failure : IoError) : State := { s with device := some failure }

/-- What an event can do to a state, other than taking a link out. -/
inductive Step (s : State) : State → Prop where
  | count (call : String) : Step s (s.counted call)
  | loseDevice (failure : IoError) : Step s (s.withoutDevice failure)
  | addProgram (programType : ProgramType) (hnext : s.nextProgramId ≠ lastId) :
    Step s ((s.counted Command.progLoad).withProgram programType)
  | haltProgram (hlast : s.nextProgramId = lastId) : Step s (s.counted Command.progLoad).halted
  | addLink (link : LinkRecord) (hid : link.id = s.nextLinkId) (hnext : s.nextLinkId ≠ lastId) :
    Step s (s.withLink link)
  | haltLink (hlast : s.nextLinkId = lastId) : Step s s.halted
  | openObject (object : Object) (hoffers : s.Offers object) : Step s (s.opened object)
  | change (id : UInt32) (old new : LinkRecord) (hold : s.links.get? id = some old)
      (hid : new.id = old.id) :
    Step s (s.recorded id new)
  | insertLink (link : LinkRecord) : Step s (s.insertLink link)
  | pin (names : List String) (object : Object) (hknown : s.Knows object) :
    Step s (s.pinned names object)
  | unpin (names : List String) : Step s (s.unpinned names)

/-- A state after any number of steps. -/
abbrev Steps : State → State → Prop := Relation.ReflTransGen Step

theorem steps_openObject {object : Object} (h : s.Offers object) :
  Steps s ((State.openObject object).run.run s).2
  := by
  obtain heq | ⟨-, heq⟩ := snd_openObject object s
  · rw [heq]
  · rw [heq]
    apply Relation.ReflTransGen.single
    apply Step.openObject object h

theorem steps_loadProgram (load : ProgramLoad) (s : State) :
  Steps s ((State.loadProgram load).run.run (s.counted Command.progLoad)).2
  := by
  rw [run_loadProgram]
  split
  next =>
    apply Relation.ReflTransGen.single
    apply Step.count
  next =>
    split
    next hlast =>
      apply Relation.ReflTransGen.single
      apply Step.haltProgram (s := s) hlast
    next hnext =>
      apply Relation.ReflTransGen.head (Step.addProgram (s := s) load.programType hnext)
      apply steps_openObject
      apply Offers.program
      rw [withProgram, Table.get?_insert, if_pos rfl]

theorem steps_addLink {link : UInt32 → LinkRecord} (hid : ∀ id, (link id).id = id) (s : State) :
  Steps s ((State.addLink link).run.run s).2
  := by
  rw [run_addLink]
  split
  next hlast =>
    apply Relation.ReflTransGen.single
    apply Step.haltLink hlast
  next hnext =>
    apply Relation.ReflTransGen.head (Step.addLink (link s.nextLinkId) (hid _) hnext)
    apply steps_openObject
    apply Offers.link _ (link s.nextLinkId)
    rw [withLink, Table.get?_insert, if_pos rfl]

theorem steps_openRawTracepoint (name : Option NulFree) (program : Descriptor) (s : State) :
  Steps s ((State.openRawTracepoint name program).run.run s).2
  := by
  obtain ⟨e, hrun⟩ | ⟨id, programType, loaded, attachType, -, -, hrun⟩ :=
    openRawTracepoint_cases name program s
  · rw [hrun]
  · rw [hrun]
    apply steps_addLink
    intro id
    rfl

theorem id_requested (request : LinkCreate) (programId id : UInt32) :
  (requested request programId id).id = id
  := by
  unfold requested
  cases request.extra with
  | _ => rfl

theorem programId_requested (request : LinkCreate) (programId id : UInt32) :
  (requested request programId id).programId = programId
  := by
  unfold requested
  cases request.extra with
  | _ => rfl

theorem steps_createLink (request : LinkCreate) (s : State) :
  Steps s ((State.createLink request).run.run s).2
  := by
  obtain ⟨e, hrun⟩ | ⟨id, programType, loaded, -, -, -, hrun⟩ := createLink_cases request s
  · rw [hrun]
  · rw [hrun]
    apply steps_addLink (id_requested request id)

/-- What holds before an operation, and after it if it succeeds, holds after an operation that refuses
before it changes anything. -/
theorem holds_of_refuses {α : Type} {operation : Action State α} {P : State → Prop}
    (hrefuses : operation.Refuses) (hbefore : P s)
    (hok : ∀ answer s', operation.run.run s = (.ok answer, s') → P s') :
  P (operation.run.run s).2
  := by
  rcases hrun : operation.run.run s with ⟨e | answer, s'⟩
  · cases hrefuses _ _ _ hrun
    exact hbefore
  · exact hok answer s' hrun

theorem steps_updateLink (link program : Descriptor) (old : Option Descriptor) (s : State) :
  Steps s ((State.updateLink link program old).run.run s).2
  := by
  apply holds_of_refuses (refuses_updateLink link program old) .refl
  intro u s' h
  obtain ⟨id, record, new, programType, attachType, -, hrecord, -, -, rfl⟩ := updateLink_eq_ok h
  apply Relation.ReflTransGen.single
  apply Step.change _ _ _ hrecord
  rfl

theorem steps_detachLink (link : Descriptor) (s : State) :
  Steps s ((State.detachLink link).run.run s).2
  := by
  apply holds_of_refuses (refuses_detachLink link) .refl
  intro u s' h
  obtain ⟨id, record, -, hrecord, rfl⟩ := detachLink_eq_ok h
  apply Relation.ReflTransGen.single
  apply Step.change _ _ _ hrecord
  rfl

theorem steps_pin (fd : Descriptor) (path : Path) (s : State) :
  Steps s ((State.pin fd path).run.run s).2
  := by
  apply holds_of_refuses (refuses_pin fd path) .refl
  intro u s' h
  obtain ⟨object, hobject, -, rfl⟩ := pin_eq_ok h
  apply Relation.ReflTransGen.single
  apply Step.pin _ _ (knows_of_object? hobject)

theorem steps_openPin (path : Path) (flags : UInt32) (s : State) :
  Steps s ((State.openPin path flags).run.run s).2
  := by
  apply holds_of_refuses (refuses_openPin path flags) .refl
  intro fd s' h
  obtain ⟨object, -, hobject, -, rfl⟩ := openPin_eq_ok h
  apply Relation.ReflTransGen.single
  apply Step.openObject
  apply Offers.known
  right
  exact ⟨path.components, hobject⟩

theorem steps_openLink (id : UInt32) (s : State) :
  Steps s ((State.openLink id).run.run s).2
  := by
  apply holds_of_refuses (refuses_openLink id) .refl
  intro fd s' h
  obtain ⟨-, ⟨record, hrecord⟩, -, rfl⟩ := openLink_eq_ok h
  apply Relation.ReflTransGen.single
  apply Step.openObject
  apply Offers.link id record hrecord

theorem steps_releaseLink (s : State) (id : UInt32) :
  Steps s (s.releaseLink id)
  := by
  unfold releaseLink Table.modify
  cases hlink : s.links.get? id with
  | none => apply Relation.ReflTransGen.refl
  | some link =>
      apply Relation.ReflTransGen.single
      apply Step.change _ _ _ hlink
      rfl

end State

/-! ### Requests -/

namespace Machine

variable {call : String} {operation : Action State α} {m : Machine η}

/-- What holds once a request has been counted, and after its operation if that succeeds, holds after
a request that is refused before anything is changed. -/
theorem holds_request {P : State → Prop} (hrefuses : operation.Refuses)
    (hcount : P (m.state.counted call))
    (hok : ∀ answer s', operation.run.run (m.state.counted call) = (.ok answer, s') → P s') :
  P (((do count call; change operation : Action (Machine η) α)).run.run m).2.state
  := State.holds_of_refuses hrefuses hcount hok

/-- A request that counts as a command takes the steps of its operation. -/
theorem steps_request (call : String) (m : Machine η)
    (hsteps : ∀ s, State.Steps s (operation.run.run s).2) :
  State.Steps m.state (((do count call; change operation : Action (Machine η) α)).run.run m).2.state
  := by
  apply Relation.ReflTransGen.head (State.Step.count call)
  apply hsteps

theorem steps_look (answer : State → Except Error α) (m : Machine η) :
  State.Steps m.state ((look answer).run.run m).2.state
  := by
  apply Relation.ReflTransGen.refl

theorem steps_countedLook (call : String) (answer : State → Except Error α) (m : Machine η) :
  State.Steps m.state (((do count call; look answer : Action (Machine η) α)).run.run m).2.state
  := by
  apply Relation.ReflTransGen.single
  apply State.Step.count

theorem run_removePin (settings : Settings) (path : Path) (m : Machine η) :
  ((kernel settings {}).removePin path).run m
    = if m.state.pins.contains path.components then
        (.ok (), { m with state := (m.state.counted Command.unlink).unpinned path.components })
      else (.error (.os Errno.enoent), m.counted Command.unlink)
  := by
  have hrun : ((kernel settings {}).removePin path).run m
      = (((State.removePin path).run (m.state.counted Command.unlink)).1,
          { m with state := ((State.removePin path).run (m.state.counted Command.unlink)).2 }) := rfl
  have hpins : (m.state.counted Command.unlink).pins = m.state.pins := rfl
  rw [hrun, State.run_removePin, hpins]
  split
  next => rfl
  next => rfl

theorem steps_removePin (settings : Settings) (path : Path) (m : Machine η) :
  State.Steps m.state (((kernel settings {}).removePin path).run m).2.state
  := by
  have hcount : State.Steps m.state (m.state.counted Command.unlink) :=
    Relation.ReflTransGen.single (State.Step.count Command.unlink)
  rw [run_removePin]
  split
  next =>
    apply hcount.tail
    apply State.Step.unpin
  next => apply hcount

/-- Whatever is asked of a kernel, its state takes steps. -/
theorem steps_after (settings : Settings) (m : Machine η) (request : Request) :
  State.Steps m.state ((kernel settings {}).after m request).state
  := by
  cases request with
  | loadProgram load => apply State.steps_loadProgram load m.state
  | openRawTracepoint name fd =>
      apply steps_request Command.rawTracepointOpen m (State.steps_openRawTracepoint name fd)
  | createLink create => apply steps_request Command.linkCreate m (State.steps_createLink create)
  | updateLink link fd old =>
      apply steps_request Command.linkUpdate m (State.steps_updateLink link fd old)
  | detachLink link => apply steps_request Command.linkDetach m (State.steps_detachLink link)
  | openLink id => apply steps_request Command.linkFdById m (State.steps_openLink id)
  | pin fd path => apply steps_request Command.objPin m (State.steps_pin fd path)
  | openPin path flags => apply steps_request Command.objGet m (State.steps_openPin path flags)
  | removePin path => apply steps_removePin
  | programInfo fd => apply steps_look
  | objectType fd => apply steps_look
  | attachProgram attach => apply steps_countedLook Command.progAttach
  | queryPrograms target attachType => apply steps_countedLook Command.progQuery
  | linkInfo link => apply steps_countedLook Command.infoByFd
  | nextLinkId start => apply steps_countedLook Command.linkNextId
  | btfId name => apply Relation.ReflTransGen.refl

end Machine

/-! ### Events -/

/-- Something that can happen to a kernel in memory. -/
inductive Event where
  | request (request : Request)
  | createMap
  | loseDevice (failure : IoError)
  | insertLink (link : LinkRecord)
  | removeLink (id : UInt32)
  | releaseLink (id : UInt32)

namespace Event

/-- The kernel after an event. -/
def apply (settings : Settings) (m : Machine η) : Event → Machine η
  | .request r => (kernel settings {}).after m r
  | .createMap => { m with state := ((State.openObject .map).run.run m.state).2 }
  | .loseDevice failure => { m with state := m.state.withoutDevice failure }
  | .insertLink link => { m with state := m.state.insertLink link }
  | .removeLink id => { m with state := m.state.removeLink id }
  | .releaseLink id => { m with state := m.state.releaseLink id }

/-- No link is taken out. -/
def KeepsLinks : Event → Prop
  | .removeLink _ => False
  | _ => True

instance (event : Event) : Decidable event.KeepsLinks := by
  cases event <;> simp only [KeepsLinks] <;> infer_instance

theorem steps_apply (settings : Settings) (m : Machine η) {event : Event} (h : event.KeepsLinks) :
  State.Steps m.state (event.apply settings m).state
  := by
  cases event with
  | request r => apply Machine.steps_after
  | createMap => apply State.steps_openObject .map
  | loseDevice failure =>
      apply Relation.ReflTransGen.single
      apply State.Step.loseDevice
  | insertLink link =>
      apply Relation.ReflTransGen.single
      apply State.Step.insertLink
  | removeLink id => cases h
  | releaseLink id => apply State.steps_releaseLink

end Event

/-- The kernel after a list of events. -/
def Machine.afterEvents (settings : Settings) (m : Machine η) (events : List Event) : Machine η :=
  events.foldl (Event.apply settings) m

/-- A kernel to which nothing has happened. -/
def Machine.fresh (script : η) : Machine η := ⟨{}, script⟩

/-- The license that programs have by default can be passed to a kernel. -/
theorem nul_not_mem_mit :
  '\x00' ∉ "MIT".toList
  := by
  decide

/-- Something has led a new kernel to this state. -/
def Machine.Reachable (settings : Settings) (m : Machine η) : Prop :=
  ∃ script events, m = (Machine.fresh script).afterEvents settings events

/-- Something has led a new kernel to this state, and no link was taken out on the way. -/
def Machine.ReachableKeeping (settings : Settings) (m : Machine η) : Prop :=
  ∃ script events, m = (Machine.fresh script).afterEvents settings events
    ∧ ∀ event ∈ events, event.KeepsLinks

/-! ### What all reachable states have in common -/

/-- A number below another one has a successor. -/
theorem toNat_succ_of_lt {k limit : UInt32} (h : k < limit) :
  (k + 1).toNat = k.toNat + 1
  := by
  have hlt := UInt32.lt_iff_toNat_lt.1 h
  have hlimit := limit.toNat_lt
  have hone : (1 : UInt32).toNat = 1 := rfl
  rw [UInt32.toNat_add]
  omega

theorem toNat_succ_le (k : UInt32) :
  (k + 1).toNat ≤ k.toNat + 1
  := by
  rw [UInt32.toNat_add]
  apply Nat.mod_le

theorem le_lastId (id : UInt32) :
  id ≤ lastId
  := by
  have hlt := id.toNat_lt
  have hlast : lastId.toNat = 4294967295 := rfl
  apply UInt32.le_iff_toNat_le.2
  omega

/-- There is a number above each one but the last. -/
theorem lt_lastId {id : UInt32} (h : id ≠ lastId) :
  id < lastId
  := by
  have hne : id.toNat ≠ lastId.toNat := fun heq => h (UInt32.toNat_inj.1 heq)
  have hle := UInt32.le_iff_toNat_le.1 (le_lastId id)
  apply UInt32.lt_iff_toNat_lt.2
  omega

/-- A number that is not the last one is followed by a larger one. -/
theorem lt_succ_of_ne_lastId {id : UInt32} (h : id ≠ lastId) :
  id < id + 1
  := by
  apply UInt32.lt_iff_toNat_lt.2
  rw [toNat_succ_of_lt (lt_lastId h)]
  omega

namespace State

variable {s s' : State}

/-- What holds of every state that a kernel can reach. -/
structure Valid (s : State) : Prop where
  /-- A descriptor that stands for something has been opened. -/
  fresh : ∀ fd object, s.object? fd = some object →
    ∃ serial < s.descriptorCount, fd = nthDescriptor serial
  nextProgram : 0 < s.nextProgramId
  programs : ∀ id programType, s.programs.get? id = some programType → id ≠ 0
  named : ∀ id programType attachType, s.Knows (.program id programType attachType) → id ≠ 0
  records : ∀ id link, s.links.get? id = some link → link.id = id

/-- There is a link behind every descriptor and every pin of a link. -/
def Complete (s : State) : Prop := ∀ id, s.Knows (.link id) → ∃ link, s.links.get? id = some link

theorem object?_opened_cases {object found : Object} {fd : Descriptor}
    (h : (s.opened object).object? fd = some found) :
  (fd = s.nextDescriptor ∧ found = object) ∨ s.object? fd = some found
  := by
  rw [object?, opened, Assoc.get?_insert] at h
  split at h
  next hfd =>
    cases h
    exact .inl ⟨hfd, rfl⟩
  next => exact .inr h

theorem knows_opened {object found : Object} (h : (s.opened object).Knows found) :
  found = object ∨ s.Knows found
  := by
  rcases h with ⟨fd, hfound⟩ | ⟨names, hfound⟩
  · rcases object?_opened_cases hfound with ⟨-, rfl⟩ | hfound
    · exact .inl rfl
    · exact .inr (.inl ⟨fd, hfound⟩)
  · exact .inr (.inr ⟨names, hfound⟩)

theorem knows_pinned {names : List String} {object found : Object} (hknown : s.Knows object)
    (h : (s.pinned names object).Knows found) :
  s.Knows found
  := by
  rcases h with ⟨fd, hfound⟩ | ⟨other, hfound⟩
  · exact .inl ⟨fd, hfound⟩
  · rw [get?_pins_pinned] at hfound
    split at hfound
    next =>
      cases hfound
      exact hknown
    next => exact .inr ⟨other, hfound⟩

theorem knows_unpinned {names : List String} {found : Object}
    (h : (s.unpinned names).Knows found) :
  s.Knows found
  := by
  rcases h with ⟨fd, hfound⟩ | ⟨other, hfound⟩
  · exact .inl ⟨fd, hfound⟩
  · rw [get?_pins_unpinned] at hfound
    split at hfound
    next => cases hfound
    next => exact .inr ⟨other, hfound⟩

/-- The next descriptor is a new one. -/
theorem Valid.object?_nextDescriptor (h : s.Valid) :
  s.object? s.nextDescriptor = none
  := by
  by_contra hne
  obtain ⟨object, hobject⟩ := Option.ne_none_iff_exists'.1 hne
  obtain ⟨serial, hlt, heq⟩ := h.fresh _ _ hobject
  have hserial : s.descriptorCount = serial := congrArg Descriptor.serial heq
  omega

theorem fresh_opened (h : s.Valid) {object found : Object} {fd : Descriptor}
    (hfound : (s.opened object).object? fd = some found) :
  ∃ serial < (s.opened object).descriptorCount, fd = nthDescriptor serial
  := by
  rcases object?_opened_cases hfound with ⟨rfl, -⟩ | hold
  · exact ⟨s.descriptorCount, Nat.lt_succ_self _, rfl⟩
  · obtain ⟨serial, hlt, heq⟩ := h.fresh fd found hold
    exact ⟨serial, Nat.lt_succ_of_lt hlt, heq⟩

/-- A descriptor may be opened for any object but a program without an id. -/
theorem Valid.opened (h : s.Valid) {object : Object}
    (hobject : ∀ id programType attachType, object = .program id programType attachType → id ≠ 0) :
  (s.opened object).Valid
  where
  fresh _ _ hfound := fresh_opened h hfound
  nextProgram := h.nextProgram
  programs := h.programs
  named id programType attachType hfound := by
    rcases knows_opened hfound with heq | hknown
    · apply hobject id programType attachType heq.symm
    · apply h.named id programType attachType hknown
  records := h.records

theorem Valid.withProgram (h : s.Valid) (programType : ProgramType)
    (hnext : s.nextProgramId ≠ lastId) :
  (s.withProgram programType).Valid
  where
  fresh := h.fresh
  nextProgram := UInt32.lt_trans h.nextProgram (lt_succ_of_ne_lastId hnext)
  programs id found hfound := by
    rw [State.withProgram, Table.get?_insert] at hfound
    split at hfound
    next heq =>
      rw [heq]
      apply (UInt32.ne_of_lt h.nextProgram).symm
    next => apply h.programs id found hfound
  named := h.named
  records := h.records

/-- What may be opened has an id, if it is a program. -/
theorem Valid.ne_zero_of_offers (h : s.Valid) {id : UInt32} {programType : ProgramType}
    {attachType : Option AttachType} (hoffers : s.Offers (.program id programType attachType)) :
  id ≠ 0
  := by
  cases hoffers with
  | program _ _ _ hprogram => apply h.programs id programType hprogram
  | known _ hknown => apply h.named id programType attachType hknown

theorem Valid.recorded (h : s.Valid) {id : UInt32} {link : LinkRecord} (hid : link.id = id) :
  (s.recorded id link).Valid
  where
  fresh := h.fresh
  nextProgram := h.nextProgram
  programs := h.programs
  named := h.named
  records other found hfound := by
    rw [State.recorded, Table.get?_insert] at hfound
    split at hfound
    next heq =>
      cases hfound
      exact hid.trans heq.symm
    next => apply h.records other found hfound

theorem Valid.step (h : s.Valid) (hstep : Step s s') :
  s'.Valid
  := by
  cases hstep with
  | count call => exact ⟨h.fresh, h.nextProgram, h.programs, h.named, h.records⟩
  | loseDevice failure => exact ⟨h.fresh, h.nextProgram, h.programs, h.named, h.records⟩
  | haltProgram hlast => exact ⟨h.fresh, h.nextProgram, h.programs, h.named, h.records⟩
  | haltLink hlast => exact ⟨h.fresh, h.nextProgram, h.programs, h.named, h.records⟩
  | addProgram programType hnext =>
      have hcounted : (s.counted Command.progLoad).Valid :=
        ⟨h.fresh, h.nextProgram, h.programs, h.named, h.records⟩
      apply hcounted.withProgram programType hnext
  | addLink link hid hnext =>
      have hrecorded : (s.recorded s.nextLinkId link).Valid := h.recorded hid
      exact ⟨h.fresh, h.nextProgram, h.programs, h.named, hrecorded.records⟩
  | openObject object hoffers =>
      apply h.opened
      rintro id programType attachType rfl
      apply h.ne_zero_of_offers hoffers
  | change id old new hold hid => apply h.recorded (hid.trans (h.records id old hold))
  | insertLink link =>
      have hrecorded : (s.recorded link.id link).Valid := h.recorded rfl
      exact ⟨h.fresh, h.nextProgram, h.programs, h.named, hrecorded.records⟩
  | pin names object hknown =>
      refine ⟨h.fresh, h.nextProgram, h.programs, ?_, h.records⟩
      intro id programType attachType hfound
      apply h.named id programType attachType (knows_pinned hknown hfound)
  | unpin names =>
      refine ⟨h.fresh, h.nextProgram, h.programs, ?_, h.records⟩
      intro id programType attachType hfound
      apply h.named id programType attachType (knows_unpinned hfound)

theorem Valid.steps (h : s.Valid) (hsteps : Steps s s') :
  s'.Valid
  := by
  induction hsteps with
  | refl => apply h
  | tail _ hstep ih => apply ih.step hstep

theorem Valid.removeLink (h : s.Valid) (id : UInt32) :
  (s.removeLink id).Valid
  where
  fresh := h.fresh
  nextProgram := h.nextProgram
  programs := h.programs
  named := h.named
  records other found hfound := by
    rw [State.removeLink, Table.get?_erase] at hfound
    split at hfound
    next => cases hfound
    next => apply h.records other found hfound

/-- A descriptor stands for the same object ever after. -/
theorem Valid.object?_of_steps (h : s.Valid) (hsteps : Steps s s') {fd : Descriptor}
    {object : Object} (hobject : s.object? fd = some object) :
  s'.object? fd = some object
  := by
  induction hsteps with
  | refl => apply hobject
  | @tail t t' hfirst hnext ih =>
      cases hnext with
      | openObject new hoffers =>
          have hvalid : t.Valid := h.steps hfirst
          have hne : fd ≠ t.nextDescriptor := by
            rintro rfl
            rw [hvalid.object?_nextDescriptor] at ih
            cases ih
          rw [object?, State.opened, Assoc.get?_insert, if_neg hne]
          apply ih
      | _ => apply ih

theorem Complete.recorded (h : s.Complete) (id : UInt32) (link : LinkRecord) :
  (s.recorded id link).Complete
  := by
  intro other hknown
  rw [State.recorded, Table.get?_insert]
  split
  next => exact ⟨link, rfl⟩
  next => apply h other hknown

theorem Complete.opened (h : s.Complete) {object : Object}
    (hobject : ∀ id, object = .link id → ∃ link, s.links.get? id = some link) :
  (s.opened object).Complete
  := by
  intro id hknown
  rcases knows_opened hknown with heq | hknown
  · apply hobject id heq.symm
  · apply h id hknown

theorem Complete.step (h : s.Complete) (hstep : Step s s') :
  s'.Complete
  := by
  cases hstep with
  | count call => apply h
  | loseDevice failure => apply h
  | addProgram programType hnext => apply h
  | haltProgram hlast => apply h
  | haltLink hlast => apply h
  | addLink link hid hnext => apply h.recorded s.nextLinkId link
  | openObject object hoffers =>
      apply h.opened
      rintro id rfl
      cases hoffers with
      | link _ link hlink => exact ⟨link, hlink⟩
      | known _ hknown => apply h id hknown
  | change id old new hold hid => apply h.recorded
  | insertLink link => apply h.recorded
  | pin names object hknown =>
      intro id hfound
      apply h id (knows_pinned hknown hfound)
  | unpin names =>
      intro id hfound
      apply h id (knows_unpinned hfound)

theorem Complete.steps (h : s.Complete) (hsteps : Steps s s') :
  s'.Complete
  := by
  induction hsteps with
  | refl => apply h
  | tail _ hstep ih => apply ih.step hstep

theorem valid_initial :
  ({} : State).Valid
  where
  fresh := by
    intro fd object h
    cases h
  nextProgram := by decide
  programs := by
    intro id programType h
    cases h
  named := by
    rintro id programType attachType (⟨fd, h⟩ | ⟨names, h⟩)
    · cases h
    · cases h
  records := by
    intro id link h
    cases h

theorem complete_initial :
  ({} : State).Complete
  := by
  rintro id (⟨fd, h⟩ | ⟨names, h⟩)
  · cases h
  · cases h

end State

section Apply

variable (settings : Settings) {m : Machine η}

theorem Event.valid_apply (h : m.state.Valid) (event : Event) :
  (event.apply settings m).state.Valid
  := by
  by_cases hkeeps : event.KeepsLinks
  · apply h.steps (Event.steps_apply settings m hkeeps)
  · cases event with
    | removeLink id => apply h.removeLink
    | _ => exact absurd trivial hkeeps

end Apply

namespace Machine

variable {settings : Settings} {m : Machine η}

theorem valid_afterEvents (h : m.state.Valid) (events : List Event) :
  (m.afterEvents settings events).state.Valid
  := by
  induction events generalizing m with
  | nil => apply h
  | cons event events ih =>
      apply ih
      apply event.valid_apply settings h

theorem complete_afterEvents (h : m.state.Complete) {events : List Event}
    (hkeeps : ∀ event ∈ events, event.KeepsLinks) :
  (m.afterEvents settings events).state.Complete
  := by
  induction events generalizing m with
  | nil => apply h
  | cons event events ih =>
      apply ih
      · apply h.steps (Event.steps_apply settings m (hkeeps event List.mem_cons_self))
      · intro other hother
        apply hkeeps other (List.mem_cons_of_mem event hother)

theorem Reachable.valid (h : m.Reachable settings) :
  m.state.Valid
  := by
  obtain ⟨script, events, rfl⟩ := h
  apply valid_afterEvents State.valid_initial

theorem ReachableKeeping.reachable (h : m.ReachableKeeping settings) :
  m.Reachable settings
  := by
  obtain ⟨script, events, heq, -⟩ := h
  exact ⟨script, events, heq⟩

theorem ReachableKeeping.complete (h : m.ReachableKeeping settings) :
  m.state.Complete
  := by
  obtain ⟨script, events, rfl, hkeeps⟩ := h
  apply complete_afterEvents State.complete_initial hkeeps

end Machine

end Memory

end Bpf
