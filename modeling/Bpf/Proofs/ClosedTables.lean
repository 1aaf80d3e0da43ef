import Bpf.Proofs.LinkChanges
import Bpf.Proofs.FreshIds

/-!
# References between tables

The objects of a kernel in memory refer to its tables: a descriptor or a pin names a link or a program
by its id, and the record of a link names the program that is attached.  As long as links come and go
through requests only, no reference leads nowhere (`State.Closed`).  `State.Outcome` lists what such an
event can do besides counting a command: a program that a link is given is always one that the kernel
knows.  Ids are taken from two counters, which go up by at most one with each event (`State.Spends`), so
fewer events than there are ids do not stop the program.
-/

namespace Bpf

variable {η : Type}

namespace Memory

variable {settings : Settings} {script : Script η}

/-- No link is put into the table or taken out of it from elsewhere. -/
def Event.SparesLinks : Event → Prop
  | .insertLink _ => False
  | .removeLink _ => False
  | _ => True

instance (event : Event) : Decidable event.SparesLinks :=
  match event with
  | .insertLink _ => isFalse id
  | .removeLink _ => isFalse id
  | .request _ => isTrue trivial
  | .createMap => isTrue trivial
  | .loseDevice _ => isTrue trivial
  | .releaseLink _ => isTrue trivial

/-! ### Closed states -/

namespace State

variable {s s' : State}

/-- There is a program with this id behind a descriptor or a pin. -/
def HasProgram (s : State) (id : UInt32) : Prop :=
  ∃ programType attachType, s.Knows (.program id programType attachType)

/-- Every reference leads to what it names, and the ids in use are below the next ones. -/
structure Closed (s : State) : Prop where
  /-- A link behind a descriptor or a pin is in the table. -/
  links : ∀ id, s.Knows (.link id) → ∃ link, s.links.get? id = some link
  /-- A program behind a descriptor or a pin is in the table, with its type. -/
  programs : ∀ id programType attachType, s.Knows (.program id programType attachType) →
    s.programs.get? id = some programType
  attached : ∀ id link, s.links.get? id = some link →
    ∃ programType, s.programs.get? link.programId = some programType
  linkIds : ∀ id link, s.links.get? id = some link →
    link.id = id ∧ 1 ≤ id.toNat ∧ id.toNat < s.nextLinkId.toNat
  programIds : ∀ id programType, s.programs.get? id = some programType →
    1 ≤ id.toNat ∧ id.toNat < s.nextProgramId.toNat
  positive : 1 ≤ s.nextLinkId.toNat ∧ 1 ≤ s.nextProgramId.toNat

theorem closed_initial :
  ({} : State).Closed
  where
  links := complete_initial
  programs := by
    rintro id programType attachType (⟨number, h⟩ | ⟨names, h⟩)
    · cases h
    · cases h
  attached := by
    intro id link h
    cases h
  linkIds := by
    intro id link h
    cases h
  programIds := by
    intro id programType h
    cases h
  positive := by decide

namespace Closed

/-- A program that the kernel knows is in the table. -/
theorem exists_program (h : s.Closed) {id : UInt32} (hid : s.HasProgram id) :
  ∃ programType, s.programs.get? id = some programType
  := by
  obtain ⟨programType, attachType, hknown⟩ := hid
  exact ⟨programType, h.programs id programType attachType hknown⟩

/-- A descriptor may be opened for a map, and for a link or a program in the table. -/
theorem opened (h : s.Closed) {object : Object}
    (hlink : ∀ id, object = .link id → ∃ link, s.links.get? id = some link)
    (hprogram : ∀ id programType attachType, object = .program id programType attachType →
      s.programs.get? id = some programType) :
  (s.opened object).Closed
  where
  links := Complete.opened h.links hlink
  programs id programType attachType hknown := by
    rcases knows_opened hknown with heq | hknown
    · apply hprogram id programType attachType heq.symm
    · apply h.programs id programType attachType hknown
  attached := h.attached
  linkIds := h.linkIds
  programIds := h.programIds
  positive := h.positive

/-- What is known has been in the tables before. -/
theorem opened_of_knows (h : s.Closed) {object : Object} (hknown : s.Knows object) :
  (s.opened object).Closed
  := by
  apply h.opened
  · rintro id rfl
    apply h.links id hknown
  · rintro id programType attachType rfl
    apply h.programs id programType attachType hknown

/-- A new program has an id that no other one has had. -/
theorem withProgram (h : s.Closed) (hnext : s.nextProgramId ≠ lastId) (programType : ProgramType) :
  (s.withProgram programType).Closed
  := by
  have hsucc : (s.nextProgramId + 1).toNat = s.nextProgramId.toNat + 1 :=
    toNat_succ_of_lt (lt_lastId hnext)
  have hget (id : UInt32) : (s.programs.insert s.nextProgramId programType).get? id
      = if id = s.nextProgramId then some programType else s.programs.get? id :=
    Table.get?_insert _ _ _ _
  have hkept (id : UInt32) (other : ProgramType) (hother : s.programs.get? id = some other) :
      (s.programs.insert s.nextProgramId programType).get? id = some other := by
    have hlt := (h.programIds id other hother).2
    have hne : id ≠ s.nextProgramId := by
      rintro rfl
      omega
    rw [hget, if_neg hne]
    apply hother
  constructor
  · apply h.links
  · intro id other attachType hknown
    apply hkept id other (h.programs id other attachType hknown)
  · intro id link hlink
    obtain ⟨other, hother⟩ := h.attached id link hlink
    exact ⟨other, hkept _ other hother⟩
  · apply h.linkIds
  · intro id other hother
    show 1 ≤ id.toNat ∧ id.toNat < (s.nextProgramId + 1).toNat
    have hother : (s.programs.insert s.nextProgramId programType).get? id = some other := hother
    rw [hget] at hother
    split at hother
    next hid =>
      have hpositive := h.positive.2
      rw [hid]
      omega
    next =>
      have hold := h.programIds id other hother
      omega
  · have hpositive := h.positive.1
    refine ⟨hpositive, ?_⟩
    show 1 ≤ (s.nextProgramId + 1).toNat
    omega

theorem loaded (h : s.Closed) (hnext : s.nextProgramId ≠ lastId) (programType : ProgramType)
    (attachType : Option AttachType) :
  (s.loaded programType attachType).Closed
  := by
  apply (h.withProgram hnext programType).opened
  · intro id heq
    cases heq
  · rintro id other attachType ⟨⟩
    show (s.programs.insert s.nextProgramId programType).get? s.nextProgramId = some programType
    rw [Table.get?_insert, if_pos rfl]

/-- A record may be kept under an id below the next one, for a program in the table. -/
theorem recorded (h : s.Closed) {id : UInt32} {link : LinkRecord}
    (hid : link.id = id ∧ 1 ≤ id.toNat ∧ id.toNat < s.nextLinkId.toNat)
    (hprogram : ∃ programType, s.programs.get? link.programId = some programType) :
  (s.recorded id link).Closed
  := by
  have hget (other : UInt32) : (s.links.insert id link).get? other
      = if other = id then some link else s.links.get? other :=
    Table.get?_insert _ _ _ _
  constructor
  · apply Complete.recorded h.links
  · apply h.programs
  · intro other found hfound
    have hfound : (s.links.insert id link).get? other = some found := hfound
    rw [hget] at hfound
    split at hfound
    next =>
      cases hfound
      apply hprogram
    next => apply h.attached other found hfound
  · intro other found hfound
    have hfound : (s.links.insert id link).get? other = some found := hfound
    rw [hget] at hfound
    split at hfound
    next heq =>
      cases hfound
      rw [heq]
      apply hid
    next => apply h.linkIds other found hfound
  · apply h.programIds
  · apply h.positive

theorem withLink (h : s.Closed) (hnext : s.nextLinkId ≠ lastId) {link : LinkRecord}
    (hid : link.id = s.nextLinkId)
    (hprogram : ∃ programType, s.programs.get? link.programId = some programType) :
  (s.withLink link).Closed
  := by
  have hsucc : (s.nextLinkId + 1).toNat = s.nextLinkId.toNat + 1 :=
    toNat_succ_of_lt (lt_lastId hnext)
  have hcounted : ({ s with nextLinkId := s.nextLinkId + 1 } : State).Closed := by
    refine ⟨h.links, h.programs, h.attached, ?_, h.programIds, ?_⟩
    · intro id found hfound
      show found.id = id ∧ 1 ≤ id.toNat ∧ id.toNat < (s.nextLinkId + 1).toNat
      obtain ⟨hid, hpositive, hlt⟩ := h.linkIds id found hfound
      exact ⟨hid, hpositive, by omega⟩
    · show 1 ≤ (s.nextLinkId + 1).toNat ∧ 1 ≤ s.nextProgramId.toNat
      have hpositive := h.positive
      omega
  have hbelow : s.nextLinkId.toNat < (s.nextLinkId + 1).toNat := by omega
  apply hcounted.recorded ⟨hid, h.positive.1, hbelow⟩ hprogram

theorem linked (h : s.Closed) (hnext : s.nextLinkId ≠ lastId) {link : LinkRecord}
    (hid : link.id = s.nextLinkId)
    (hprogram : ∃ programType, s.programs.get? link.programId = some programType) :
  (s.linked link).Closed
  := by
  apply (h.withLink hnext hid hprogram).opened
  · rintro id ⟨⟩
    refine ⟨link, ?_⟩
    show (s.links.insert s.nextLinkId link).get? s.nextLinkId = some link
    rw [Table.get?_insert, if_pos rfl]
  · intro id programType attachType heq
    cases heq

end Closed

/-! ### What an event leaves behind -/

/-- What an event that spares the links can do to a state, besides counting a command. -/
inductive Outcome (s : State) : State → Prop where
  | same : Outcome s s
  | halt (hlast : s.nextProgramId = lastId ∨ s.nextLinkId = lastId) : Outcome s s.halted
  | loseDevice (failure : IoError) : Outcome s (s.withoutDevice failure)
  | addProgram (programType : ProgramType) (hnext : s.nextProgramId ≠ lastId) :
    Outcome s (s.withProgram programType)
  | load (programType : ProgramType) (attachType : Option AttachType)
      (hnext : s.nextProgramId ≠ lastId) :
    Outcome s (s.loaded programType attachType)
  | addLink (link : LinkRecord) (hid : link.id = s.nextLinkId) (hnext : s.nextLinkId ≠ lastId)
      (hprogram : s.HasProgram link.programId) :
    Outcome s (s.withLink link)
  | link (link : LinkRecord) (hid : link.id = s.nextLinkId) (hnext : s.nextLinkId ≠ lastId)
      (hprogram : s.HasProgram link.programId) :
    Outcome s (s.linked link)
  | openKnown (object : Object) (hknown : s.Knows object) : Outcome s (s.opened object)
  | openLink (id : UInt32) (link : LinkRecord) (hlink : s.links.get? id = some link) :
    Outcome s (s.opened (.link id))
  | createMap : Outcome s (s.opened .map)
  | change (id : UInt32) (old new : LinkRecord) (hold : s.links.get? id = some old)
      (hid : new.id = old.id)
      (hprogram : new.programId = old.programId ∨ s.HasProgram new.programId) :
    Outcome s (s.recorded id new)
  | pin (names : List String) (object : Object) (hknown : s.Knows object) :
    Outcome s (s.pinned names object)
  | unpin (names : List String) : Outcome s (s.unpinned names)

theorem hasProgram_of_object? {fd : Descriptor} {id : UInt32} {programType : ProgramType}
    {attachType : Option AttachType}
    (h : s.object? fd = some (.program id programType attachType)) :
  s.HasProgram id
  := by
  exact ⟨programType, attachType, knows_of_object? h⟩

theorem outcome_loadProgram (load : ProgramLoad) (s : State) :
  Outcome s ((loadProgram load).run.run s).2
  := by
  rw [run_loadProgram]
  split
  next => apply Outcome.same
  next =>
    split
    next hlast => apply Outcome.halt (.inl hlast)
    next hnext =>
      obtain heq | ⟨-, heq⟩ := snd_openObject
        (.program s.nextProgramId load.programType load.attachType) (s.withProgram load.programType)
      · rw [heq]
        apply Outcome.addProgram _ hnext
      · rw [heq]
        apply Outcome.load _ _ hnext

theorem outcome_addLink {link : UInt32 → LinkRecord} (hid : ∀ id, (link id).id = id)
    (hprogram : ∀ id, s.HasProgram (link id).programId) :
  Outcome s ((addLink link).run.run s).2
  := by
  rw [run_addLink]
  split
  next hlast => apply Outcome.halt (.inr hlast)
  next hnext =>
    obtain heq | ⟨-, heq⟩ :=
      snd_openObject (.link s.nextLinkId) (s.withLink (link s.nextLinkId))
    · rw [heq]
      apply Outcome.addLink _ (hid _) hnext (hprogram _)
    · rw [heq]
      apply Outcome.link _ (hid _) hnext (hprogram _)

theorem outcome_openRawTracepoint (name : Option NulFree) (program : Descriptor) (s : State) :
  Outcome s ((openRawTracepoint name program).run.run s).2
  := by
  obtain ⟨e, hrun⟩ | ⟨id, programType, loaded, attachType, hobject, -, hrun⟩ :=
    openRawTracepoint_cases name program s
  · rw [hrun]
    apply Outcome.same
  · rw [hrun]
    apply outcome_addLink (fun _ => rfl) (fun _ => hasProgram_of_object? hobject)

theorem outcome_createLink (request : LinkCreate) (s : State) :
  Outcome s ((createLink request).run.run s).2
  := by
  obtain ⟨e, hrun⟩ | ⟨id, programType, loaded, hobject, -, -, hrun⟩ := createLink_cases request s
  · rw [hrun]
    apply Outcome.same
  · rw [hrun]
    apply outcome_addLink (id_requested request id)
    intro linkId
    rw [programId_requested]
    apply hasProgram_of_object? hobject

theorem outcome_updateLink (link program : Descriptor) (old : Option Descriptor) (s : State) :
  Outcome s ((updateLink link program old).run.run s).2
  := by
  apply holds_of_refuses (P := s.Outcome) (refuses_updateLink link program old) .same
  intro u s' h
  obtain ⟨id, record, new, programType, attachType, -, hrecord, -, hnew, rfl⟩ := updateLink_eq_ok h
  refine Outcome.change id record _ hrecord ?_ (Or.inr (hasProgram_of_object? hnew))
  rfl

theorem outcome_detachLink (link : Descriptor) (s : State) :
  Outcome s ((detachLink link).run.run s).2
  := by
  apply holds_of_refuses (P := s.Outcome) (refuses_detachLink link) .same
  intro u s' h
  obtain ⟨id, record, -, hrecord, rfl⟩ := detachLink_eq_ok h
  refine Outcome.change id record _ hrecord ?_ (Or.inl ?_)
  · rfl
  · rfl

theorem outcome_openLink (id : UInt32) (s : State) :
  Outcome s ((openLink id).run.run s).2
  := by
  apply holds_of_refuses (P := s.Outcome) (refuses_openLink id) .same
  intro fd s' h
  obtain ⟨-, ⟨record, hrecord⟩, -, rfl⟩ := openLink_eq_ok h
  apply Outcome.openLink id record hrecord

theorem outcome_pin (fd : Descriptor) (path : Path) (s : State) :
  Outcome s ((State.pin fd path).run.run s).2
  := by
  apply holds_of_refuses (P := s.Outcome) (refuses_pin fd path) .same
  intro u s' h
  obtain ⟨object, hobject, -, rfl⟩ := pin_eq_ok h
  apply Outcome.pin _ _ (knows_of_object? hobject)

theorem outcome_openPin (path : Path) (flags : UInt32) (s : State) :
  Outcome s ((openPin path flags).run.run s).2
  := by
  apply holds_of_refuses (P := s.Outcome) (refuses_openPin path flags) .same
  intro fd s' h
  obtain ⟨object, -, hobject, -, rfl⟩ := openPin_eq_ok h
  apply Outcome.openKnown
  right
  exact ⟨path.components, hobject⟩

theorem outcome_releaseLink (s : State) (id : UInt32) :
  Outcome s (s.releaseLink id)
  := by
  unfold releaseLink Table.modify
  cases hlink : s.links.get? id with
  | none => apply Outcome.same
  | some link =>
      refine Outcome.change id link _ hlink ?_ (Or.inl ?_)
      · rfl
      · rfl

/-- A closed state is followed by closed ones. -/
theorem Closed.outcome (h : s.Closed) (hout : s.Outcome s') :
  s'.Closed
  := by
  cases hout with
  | same => apply h
  | halt hlast => exact ⟨h.links, h.programs, h.attached, h.linkIds, h.programIds, h.positive⟩
  | loseDevice failure => exact ⟨h.links, h.programs, h.attached, h.linkIds, h.programIds, h.positive⟩
  | addProgram programType hnext => apply h.withProgram hnext
  | load programType attachType hnext => apply h.loaded hnext
  | addLink link hid hnext hprogram => apply h.withLink hnext hid (h.exists_program hprogram)
  | link link hid hnext hprogram => apply h.linked hnext hid (h.exists_program hprogram)
  | openKnown object hknown => apply h.opened_of_knows hknown
  | openLink id link hlink =>
      apply h.opened
      · rintro other ⟨⟩
        exact ⟨link, hlink⟩
      · intro other programType attachType heq
        cases heq
  | createMap =>
      apply h.opened
      · intro id heq
        cases heq
      · intro id programType attachType heq
        cases heq
  | change id old new hold hid hprogram =>
      have hids := h.linkIds id old hold
      apply h.recorded ⟨hid.trans hids.1, hids.2⟩
      rcases hprogram with heq | hprogram
      · rw [heq]
        apply h.attached id old hold
      · apply h.exists_program hprogram
  | pin names object hknown =>
      refine ⟨?_, ?_, h.attached, h.linkIds, h.programIds, h.positive⟩
      · intro id hfound
        apply h.links id (knows_pinned hknown hfound)
      · intro id programType attachType hfound
        apply h.programs id programType attachType (knows_pinned hknown hfound)
  | unpin names =>
      refine ⟨?_, ?_, h.attached, h.linkIds, h.programIds, h.positive⟩
      · intro id hfound
        apply h.links id (knows_unpinned hfound)
      · intro id programType attachType hfound
        apply h.programs id programType attachType (knows_unpinned hfound)

/-- The program goes on, and the next ids are at most `n`. -/
structure Spends (s : State) (n : Nat) : Prop where
  going : s.stopped = false
  programIds : s.nextProgramId.toNat ≤ n
  linkIds : s.nextLinkId.toNat ≤ n

/-- As long as there are ids left, an event takes at most one from each counter. -/
theorem Spends.outcome {n : Nat} (h : s.Spends n) (hroom : n < lastId.toNat) (hout : s.Outcome s') :
  s'.Spends (n + 1)
  := by
  obtain ⟨hgoing, hprograms, hlinks⟩ := h
  have hprogram := toNat_succ_le s.nextProgramId
  have hlink := toNat_succ_le s.nextLinkId
  have hnextProgram : (s.nextProgramId + 1).toNat ≤ n + 1 := by omega
  have hnextLink : (s.nextLinkId + 1).toNat ≤ n + 1 := by omega
  cases hout with
  | halt hlast =>
      obtain hlast | hlast := hlast
      · rw [hlast] at hprograms
        omega
      · rw [hlast] at hlinks
        omega
  | addProgram programType hnext => exact ⟨hgoing, hnextProgram, Nat.le_succ_of_le hlinks⟩
  | load programType attachType hnext => exact ⟨hgoing, hnextProgram, Nat.le_succ_of_le hlinks⟩
  | addLink link hid hnext hprogram => exact ⟨hgoing, Nat.le_succ_of_le hprograms, hnextLink⟩
  | link link hid hnext hprogram => exact ⟨hgoing, Nat.le_succ_of_le hprograms, hnextLink⟩
  | _ => exact ⟨hgoing, Nat.le_succ_of_le hprograms, Nat.le_succ_of_le hlinks⟩

end State

/-! ### Events -/

/-- Whatever is asked of a kernel, and whatever its script says, there is an outcome. -/
theorem Machine.outcome_afterUnder (settings : Settings) (script : Script η) (m : Machine η)
    (request : Request) :
  ∃ calls, ({ m.state with calls } : State).Outcome
    ((kernel settings script).after m request).state
  := by
  -- What holds of an outcome after the commands have been counted, whichever they are.
  let P (s' : State) : Prop := ∃ calls, ({ m.state with calls } : State).Outcome s'
  have hsame (calls : Assoc String Nat) : P { m.state with calls } := ⟨calls, .same⟩
  have hcounted (call : String) {s' : State} (h : (m.state.counted call).Outcome s') : P s' := ⟨_, h⟩
  cases request with
  | loadProgram load =>
      apply holds_permitted (P := P) (hsame _)
      exact hcounted _ (State.outcome_loadProgram load _)
  | createLink create =>
      apply holds_permitted (P := P) (hsame _)
      exact hcounted _ (State.outcome_createLink create _)
  | openRawTracepoint name fd => exact hcounted _ (State.outcome_openRawTracepoint name fd _)
  | updateLink link fd old => exact hcounted _ (State.outcome_updateLink link fd old _)
  | detachLink link => exact hcounted _ (State.outcome_detachLink link _)
  | openLink id => exact hcounted _ (State.outcome_openLink id _)
  | pin fd path => exact hcounted _ (State.outcome_pin fd path _)
  | openPin path flags => exact hcounted _ (State.outcome_openPin path flags _)
  | removePin path =>
      show P (((kernel settings {}).removePin path).run m).2.state
      rw [run_removePin]
      split
      next => exact ⟨_, .unpin _⟩
      next => apply hsame
  | queryPrograms target attachType =>
      show P (((kernel settings script).queryPrograms target attachType).run.run m).2.state
      simp only [kernel]
      cases script.queryPrograms with
      | none => apply hsame
      | some f => apply hsame
  | nextLinkId start =>
      show P (((kernel settings script).nextLinkId start).run.run m).2.state
      simp only [kernel]
      cases script.nextLinkId with
      | none => apply hsame
      | some f => apply hsame
  | _ => apply hsame

theorem Event.outcome_applyUnder (settings : Settings) (script : Script η) (m : Machine η)
    {event : Event} (h : event.SparesLinks) :
  ∃ calls, ({ m.state with calls } : State).Outcome
    (event.applyUnder settings script m).state
  := by
  cases event with
  | request r => apply Machine.outcome_afterUnder
  | createMap =>
      refine ⟨m.state.calls, ?_⟩
      apply State.holds_of_refuses (P := m.state.Outcome) (State.refuses_openObject .map) .same
      intro fd s' hopen
      obtain ⟨-, -, rfl⟩ := State.openObject_eq_ok hopen
      apply State.Outcome.createMap
  | loseDevice failure => exact ⟨m.state.calls, .loseDevice failure⟩
  | insertLink link => cases h
  | removeLink id => cases h
  | releaseLink id => exact ⟨m.state.calls, State.outcome_releaseLink m.state id⟩

/-- A state stays closed through events that spare the links. -/
theorem Machine.closed_foldl {m : Machine η} (h : m.state.Closed) {events : List Event}
    (hspares : ∀ event ∈ events, event.SparesLinks) :
  (events.foldl (Event.applyUnder settings script) m).state.Closed
  := by
  induction events generalizing m with
  | nil => apply h
  | cons event events ih =>
      obtain ⟨calls, hout⟩ :=
        Event.outcome_applyUnder settings script m (hspares event List.mem_cons_self)
      have hcounted : ({ m.state with calls } : State).Closed :=
        ⟨h.links, h.programs, h.attached, h.linkIds, h.programIds, h.positive⟩
      apply ih (hcounted.outcome hout)
      intro other hother
      apply hspares other (List.mem_cons_of_mem event hother)

/-- The program goes on through events that spare the links, as many as there are ids left. -/
theorem Machine.spends_foldl {m : Machine η} {n : Nat} (h : m.state.Spends n) {events : List Event}
    (hspares : ∀ event ∈ events, event.SparesLinks) (hroom : n + events.length ≤ lastId.toNat) :
  (events.foldl (Event.applyUnder settings script) m).state.Spends (n + events.length)
  := by
  induction events generalizing m n with
  | nil => apply h
  | cons event events ih =>
      rw [List.length_cons] at hroom ⊢
      obtain ⟨calls, hout⟩ :=
        Event.outcome_applyUnder settings script m (hspares event List.mem_cons_self)
      have hcounted : ({ m.state with calls } : State).Spends n := ⟨h.going, h.programIds, h.linkIds⟩
      rw [← Nat.succ_add_eq_add_succ]
      apply ih (hcounted.outcome (by omega) hout)
      · intro other hother
        apply hspares other (List.mem_cons_of_mem event hother)
      · omega

/-! ### Requests on links -/

namespace State

variable {s : State} {call : String} {fd program : Descriptor} {id : UInt32} {record : LinkRecord}

/-- To look for a program is not refused with this error number. -/
theorem programId_ne_enolink {e : Error} (h : s.programId call fd = .error e) :
  e ≠ .ofErrno call Errno.enolink
  := by
  simp only [programId, State.program] at h
  split at h
  next => cases h
  next =>
    cases h
    simp [Error.ofErrno, Errno.einval, Errno.enolink]
  next =>
    cases h
    simp [Error.ofErrno, Errno.ebadf, Errno.enolink]

theorem mapM_programId_ne_enolink {old : Option Descriptor} {e : Error}
    (h : (old.mapM fun fd => s.programId call fd) = .error e) :
  e ≠ .ofErrno call Errno.enolink
  := by
  cases old with
  | none => cases h
  | some fd =>
      rw [Option.mapM_some] at h
      cases hid : s.programId call fd with
      | ok found =>
          rw [hid] at h
          cases h
      | error e' =>
          rw [hid] at h
          cases h
          apply programId_ne_enolink hid

/-- An update of a link in the table is refused for want of a link only if it has been detached. -/
theorem detached_of_updateLink_refused {old : Option Descriptor}
    (hobject : s.object? fd = some (.link id)) (hrecord : s.links.get? id = some record)
    (h : ((updateLink fd program old).run.run s).1
      = .error (.ofErrno Command.linkUpdate Errno.enolink)) :
  record.detached = true
  := by
  rw [run_updateLink program old hobject hrecord] at h
  split at h
  next e _ hnew =>
    cases h
    exact absurd rfl (programId_ne_enolink hnew)
  next new e hnew hold =>
    cases h
    exact absurd rfl (mapM_programId_ne_enolink hold)
  next new expected hnew hold =>
    cases hanswer : (LinkChange.swap new expected).answer record with
    | ok changed =>
        rw [hanswer] at h
        cases h
    | error e =>
        rw [hanswer] at h
        cases h
        apply LinkChange.detached_of_answer_swap hanswer

end State

/-- As long as links come and go through requests, every reference in the tables of a kernel leads to
what it names, and fewer events than there are ids do not stop the program.  So no request on the
descriptor of a link fails because the link is missing: it can be reported on and detached, and an
update finds its record. -/
theorem references_closed {events : List Event} (initial : η)
    (hspares : ∀ event ∈ events, event.SparesLinks) :
  let m := events.foldl (Event.applyUnder settings script) (Machine.fresh initial)
  m.state.Closed
    ∧ (events.length < 2 ^ 32 - 1 → m.state.stopped = false)
    ∧ ∀ fd id, m.state.object? fd = some (.link id) →
      ∃ record, m.state.links.get? id = some record
        ∧ (((kernel settings script).linkInfo fd).run.run m).1
          = .ok (record.report settings.infoLength)
        ∧ (((kernel settings script).detachLink fd).run.run m).1 = .ok ()
        ∧ ∀ program old, (((kernel settings script).updateLink fd program old).run.run m).1
            = .error (.ofErrno Command.linkUpdate Errno.enolink) →
          record.detached = true
  := by
  intro m
  have hclosed : m.state.Closed := Machine.closed_foldl State.closed_initial hspares
  refine ⟨hclosed, ?_, ?_⟩
  · intro hlength
    have hinitial : (Machine.fresh initial).state.Spends 1 := ⟨rfl, Nat.le_refl 1, Nat.le_refl 1⟩
    have hroom : 1 + events.length ≤ lastId.toNat := by
      show 1 + events.length ≤ 2 ^ 32 - 1
      omega
    exact (Machine.spends_foldl hinitial hspares hroom).going
  intro fd id hobject
  obtain ⟨record, hrecord⟩ := hclosed.links id (State.knows_of_object? hobject)
  refine ⟨record, hrecord, ?_, ?_, ?_⟩
  · rw [show (kernel settings script).linkInfo fd = (kernel settings {}).linkInfo fd from rfl,
      Machine.run_linkInfo settings hobject hrecord]
  · obtain ⟨m', hdetach, -⟩ := Machine.run_detachLink settings hobject hrecord
    rw [show (kernel settings script).detachLink fd = (kernel settings {}).detachLink fd from rfl,
      hdetach]
    rfl
  · intro program old hrefused
    exact State.detached_of_updateLink_refused (s := m.state.counted Command.linkUpdate)
      hobject hrecord hrefused

/-- A script that refuses the first link and lets all others pass. -/
def refuseFirstLink : Script Bool where
  createLink := some fun _ => do
    let refused ← get
    set true
    if !refused then throw (.ofErrno Command.linkCreate Errno.eperm)

/-- Two programs are loaded, and a link is refused, made, pinned, given the other program, released,
opened at its pin and detached; the pin is removed. -/
def pinnedAndReleased : List Event :=
  let load : ProgramLoad := ⟨.xdp, none, none, [.exit], ⟨"MIT", nul_not_mem_mit⟩, "", 0, 0, 0⟩
  let create : LinkCreate := ⟨nthDescriptor 0, 1, .xdp, 0, .none⟩
  [ .request (.loadProgram load), .request (.loadProgram load), .request (.createLink create),
    .request (.createLink create), .request (.pin (nthDescriptor 2) ⟨"/link"⟩),
    .request (.updateLink (nthDescriptor 2) (nthDescriptor 1) (some (nthDescriptor 0))),
    .releaseLink 1, .request (.openLink 1), .createMap, .request (.openPin ⟨"/link"⟩ 0),
    .request (.detachLink (nthDescriptor 4)), .request (.removePin ⟨"/link"⟩) ]

/-- The link is reported on through the descriptor from its pin, and refuses a program because it has
been detached. -/
theorem references_closed_pinned :
  let m := pinnedAndReleased.foldl (Event.applyUnder {} refuseFirstLink) (Machine.fresh false)
  m.state.Closed ∧ m.state.stopped = false
    ∧ m.state.object? (nthDescriptor 4) = some (.link 1)
    ∧ ∃ record, m.state.links.get? 1 = some record
      ∧ (((kernel {} refuseFirstLink).linkInfo (nthDescriptor 4)).run.run m).1
        = .ok (record.report none)
      ∧ (((kernel {} refuseFirstLink).updateLink (nthDescriptor 4) (nthDescriptor 0) none).run.run m).1
        = .error (.ofErrno Command.linkUpdate Errno.enolink)
      ∧ record.detached = true
  := by
  have hspares : ∀ event ∈ pinnedAndReleased, event.SparesLinks := by decide
  have hlength : pinnedAndReleased.length < 2 ^ 32 - 1 := by simp [pinnedAndReleased]
  have hobject : (pinnedAndReleased.foldl (Event.applyUnder {} refuseFirstLink)
      (Machine.fresh false)).state.object? (nthDescriptor 4) = some (.link 1) := by decide +kernel
  obtain ⟨hclosed, hgoing, hlinks⟩ := @references_closed _ {} refuseFirstLink _ false hspares
  obtain ⟨record, hrecord, hinfo, -, hdetached⟩ := hlinks (nthDescriptor 4) 1 hobject
  have hrefused : (((kernel {} refuseFirstLink).updateLink (nthDescriptor 4) (nthDescriptor 0)
      none).run.run (pinnedAndReleased.foldl (Event.applyUnder {} refuseFirstLink)
      (Machine.fresh false))).1 = .error (.ofErrno Command.linkUpdate Errno.enolink) := by
    decide +kernel
  exact ⟨hclosed, hgoing hlength, hobject, record, hrecord, hinfo, hrefused, hdetached _ _ hrefused⟩

end Memory

end Bpf
