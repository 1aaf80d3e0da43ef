import Bpf.Proofs.Scripted

/-!
# Ids of new links

A kernel in memory gives a new link the next id.  That is above the ids of all links, also of those that
it was told of from elsewhere, until it is the last one: from then on links that are told of may have
that id too, but none is made any more.  So a new link never takes the place of another one.
-/

namespace Bpf.Memory

variable {η α : Type} {settings : Settings} {script : Script η}

namespace State

variable {s s' : State}

/-- The next id is above those of all links, or it is the last one. -/
structure Ahead (s : State) : Prop where
  positive : 0 < s.nextLinkId
  above : ∀ id link, s.links.get? id = some link → id < s.nextLinkId ∨ s.nextLinkId = lastId

theorem ahead_initial :
  ({} : State).Ahead
  where
  positive := by decide
  above := by
    intro id link h
    cases h

/-- There is no link with the next id yet, as long as there is one after it. -/
theorem Ahead.get?_nextLinkId (h : s.Ahead) (hnext : s.nextLinkId ≠ lastId) :
  s.links.get? s.nextLinkId = none
  := by
  cases hold : s.links.get? s.nextLinkId with
  | none => rfl
  | some found =>
      have hlt := (h.above _ _ hold).resolve_right hnext
      exact absurd hlt (UInt32.lt_irrefl _)

theorem Ahead.withLink (h : s.Ahead) (hnext : s.nextLinkId ≠ lastId) (link : LinkRecord) :
  (s.withLink link).Ahead
  := by
  have hlt : s.nextLinkId < s.nextLinkId + 1 := lt_succ_of_ne_lastId hnext
  constructor
  · apply UInt32.lt_trans h.positive hlt
  · intro id found hfound
    left
    show id < s.nextLinkId + 1
    rw [State.withLink, Table.get?_insert] at hfound
    split at hfound
    next hid =>
      rw [hid]
      apply hlt
    next =>
      have hbelow := (h.above id found hfound).resolve_right hnext
      apply UInt32.lt_trans hbelow hlt

/-- The next id is not lowered by a link that is told of, and is above that one unless there is no
number above it. -/
theorem nextLinkId_insertLink (s : State) (link : LinkRecord) :
  s.nextLinkId ≤ (s.insertLink link).nextLinkId
    ∧ (link.id < (s.insertLink link).nextLinkId ∨ (s.insertLink link).nextLinkId = lastId)
  := by
  let next := if link.id = lastId then link.id else link.id + 1
  have hmax : (s.insertLink link).nextLinkId = if s.nextLinkId ≤ next then next else s.nextLinkId :=
    rfl
  have hold : s.nextLinkId ≤ (s.insertLink link).nextLinkId := by
    rw [hmax]
    split
    next hle => exact hle
    next => apply UInt32.le_refl
  have hnew : next ≤ (s.insertLink link).nextLinkId := by
    rw [hmax]
    split
    next => apply UInt32.le_refl
    next hle => apply UInt32.le_of_lt (UInt32.not_le.1 hle)
  refine ⟨hold, ?_⟩
  by_cases hid : link.id = lastId
  · right
    have hnext : next = lastId := (if_pos hid).trans hid
    rw [hnext] at hnew
    apply UInt32.le_antisymm (le_lastId _) hnew
  · left
    have hnext : next = link.id + 1 := if_neg hid
    rw [hnext] at hnew
    apply UInt32.lt_of_lt_of_le (lt_succ_of_ne_lastId hid) hnew

theorem Ahead.insertLink (h : s.Ahead) (link : LinkRecord) :
  (s.insertLink link).Ahead
  := by
  obtain ⟨hold, hnew⟩ := nextLinkId_insertLink s link
  constructor
  · apply UInt32.lt_of_lt_of_le h.positive hold
  · intro id found hfound
    have hfound : (s.links.insert link.id link).get? id = some found := hfound
    rw [Table.get?_insert] at hfound
    split at hfound
    next hid =>
      rw [hid]
      exact hnew
    next =>
      obtain hbelow | hlast := h.above id found hfound
      · left
        apply UInt32.lt_of_lt_of_le hbelow hold
      · right
        rw [hlast] at hold
        apply UInt32.le_antisymm (le_lastId _) hold

theorem Ahead.step (h : s.Ahead) (hstep : Step s s') :
  s'.Ahead
  := by
  cases hstep with
  | addLink link hid hnext => apply h.withLink hnext
  | insertLink link => apply h.insertLink
  | change key old new hold hid =>
      refine ⟨h.positive, ?_⟩
      intro id found hfound
      rw [recorded, Table.get?_insert] at hfound
      split at hfound
      next heq =>
        rw [heq]
        apply h.above key old hold
      next => apply h.above id found hfound
  | _ => exact ⟨h.positive, h.above⟩

theorem Ahead.steps (h : s.Ahead) (hsteps : Steps s s') :
  s'.Ahead
  := by
  induction hsteps with
  | refl => apply h
  | tail _ hstep ih => apply ih.step hstep

theorem Ahead.removeLink (h : s.Ahead) (id : UInt32) :
  (s.removeLink id).Ahead
  where
  positive := h.positive
  above other found hfound := by
    rw [State.removeLink, Table.get?_erase] at hfound
    split at hfound
    next => cases hfound
    next => apply h.above other found hfound

end State

theorem Event.ahead_applyUnder {m : Machine η} (h : m.state.Ahead) (event : Event) :
  (event.applyUnder settings script m).state.Ahead
  := by
  obtain hsteps | ⟨id, hremoved⟩ := event.applyUnder_cases settings script m
  · apply h.steps hsteps
  · rw [hremoved]
    apply h.removeLink

theorem Machine.ReachableUnder.ahead {m : Machine η} (h : m.ReachableUnder settings script) :
  m.state.Ahead
  := by
  induction h with
  | fresh state => apply State.ahead_initial
  | after hm event ih => apply event.ahead_applyUnder ih

/-! ### New links -/

namespace State

variable {s s' : State} {fd : Descriptor}

/-- A new link is behind a descriptor.  It has an id of its own, and the other links are as they
were. -/
def AddsLink (s s' : State) (fd : Descriptor) : Prop :=
  ∃ id link, 0 < id ∧ s.links.get? id = none ∧ s'.object? fd = some (.link id)
    ∧ s'.links.get? id = some link ∧ link.id = id
    ∧ ∀ other, other ≠ id → s'.links.get? other = s.links.get? other

/-- Every link is still there, as it was. -/
def KeepsEach (s s' : State) : Prop :=
  ∀ id link, s.links.get? id = some link → s'.links.get? id = some link

theorem Ahead.addsLink {link : UInt32 → LinkRecord} (h : s.Ahead) (hid : ∀ id, (link id).id = id)
    (hadd : (State.addLink link).run.run s = (.ok fd, s')) :
  s.AddsLink s' fd
  := by
  obtain ⟨-, hnext, rfl, rfl⟩ := State.addLink_eq_ok hadd
  have hlinks (id : UInt32) : (s.linked (link s.nextLinkId)).links.get? id
      = if id = s.nextLinkId then some (link s.nextLinkId) else s.links.get? id :=
    Table.get?_insert _ _ _ _
  refine ⟨s.nextLinkId, link s.nextLinkId, h.positive, h.get?_nextLinkId hnext, ?_, ?_,
    hid s.nextLinkId, ?_⟩
  · apply State.object?_opened
  · rw [hlinks, if_pos rfl]
  · intro other hother
    rw [hlinks, if_neg hother]

theorem Ahead.keepsEach_withLink (h : s.Ahead) (hnext : s.nextLinkId ≠ lastId)
    (link : LinkRecord) :
  s.KeepsEach (s.withLink link)
  := by
  intro id found hfound
  have hne : id ≠ s.nextLinkId := by
    rintro rfl
    rw [h.get?_nextLinkId hnext] at hfound
    cases hfound
  rw [State.withLink, Table.get?_insert, if_neg hne]
  exact hfound

/-- Also a link that cannot be opened takes the place of no other one. -/
theorem Ahead.keepsEach_addLink (h : s.Ahead) (link : UInt32 → LinkRecord) :
  s.KeepsEach ((State.addLink link).run.run s).2
  := by
  obtain heq | ⟨hnext, heq | ⟨-, heq⟩⟩ := snd_addLink link s
  · rw [heq]
    exact fun _ _ hfound => hfound
  · rw [heq]
    apply h.keepsEach_withLink hnext
  · rw [heq]
    apply h.keepsEach_withLink hnext

theorem Ahead.keepsEach_createLink (h : s.Ahead) (request : LinkCreate) :
  s.KeepsEach ((State.createLink request).run.run s).2
  := by
  obtain ⟨e, hrun⟩ | ⟨id, programType, loaded, -, -, -, hrun⟩ := createLink_cases request s
  · rw [hrun]
    exact fun _ _ hfound => hfound
  · rw [hrun]
    apply h.keepsEach_addLink

theorem Ahead.keepsEach_openRawTracepoint (h : s.Ahead) (name : Option NulFree)
    (program : Descriptor) :
  s.KeepsEach ((State.openRawTracepoint name program).run.run s).2
  := by
  obtain ⟨e, hrun⟩ | ⟨id, programType, loaded, attachType, -, -, hrun⟩ :=
    openRawTracepoint_cases name program s
  · rw [hrun]
    exact fun _ _ hfound => hfound
  · rw [hrun]
    apply h.keepsEach_addLink

end State

/-- Every link that a kernel makes has an id of its own, which is not zero, and takes the place of no
other link, in all states that can be reached, whatever links the kernel was told of.  What is asked
for a link keeps all links that there are, whatever the answer. -/
theorem new_link_has_own_id {m : Machine η} (h : m.ReachableUnder settings script) :
  (∀ request answer m', ((kernel settings script).createLink request).run.run m = (answer, m') →
    (∀ fd, answer = .ok fd → m.state.AddsLink m'.state fd) ∧ m.state.KeepsEach m'.state)
  ∧ (∀ name program answer m',
    ((kernel settings script).openRawTracepoint name program).run.run m = (answer, m') →
    (∀ fd, answer = .ok fd → m.state.AddsLink m'.state fd) ∧ m.state.KeepsEach m'.state)
  := by
  constructor
  · intro request answer m' hrun
    have hahead : (m.state.counted Command.linkCreate).Ahead := ⟨h.ahead.positive, h.ahead.above⟩
    constructor
    · rintro fd rfl
      have hcreate := Machine.run_permitted_eq_ok hrun
      obtain ⟨id, programType, attachType, -, hadd⟩ := State.createLink_eq_ok hcreate
      apply hahead.addsLink (State.id_requested request id) hadd
    · obtain ⟨e, script', hcases⟩ | ⟨script', hcases⟩ := Machine.run_permitted_cases
        Command.linkCreate script.createLink request (State.createLink request) m
      · cases hrun.symm.trans hcases
        exact fun _ _ hfound => hfound
      · cases hrun.symm.trans hcases
        apply hahead.keepsEach_createLink
  · intro name program answer m' hrun
    have hahead : (m.state.counted Command.rawTracepointOpen).Ahead :=
      ⟨h.ahead.positive, h.ahead.above⟩
    have hopen := Machine.run_request_eq hrun
    constructor
    · rintro fd rfl
      obtain ⟨id, programType, loaded, attachType, -, -, hadd⟩ :=
        State.openRawTracepoint_eq_ok hopen
      apply hahead.addsLink (fun _ => rfl) hadd
    · have hkeeps := hahead.keepsEach_openRawTracepoint name program
      rw [hopen] at hkeeps
      apply hkeeps

/-- A machine with a program behind its first descriptor, which was told of a link with an id. -/
def toldOf (id : UInt32) : Machine Unit :=
  let load : ProgramLoad := ⟨.xdp, none, none, [.exit], ⟨"MIT", nul_not_mem_mit⟩, "", 0, 0, 0⟩
  let loaded := (Event.request (.loadProgram load)).applyUnder {} {} (Machine.fresh ())
  (Event.insertLink (.ofAttachType id .tcxIngress 77)).applyUnder {} {} loaded

theorem reachableUnder_toldOf (id : UInt32) :
  (toldOf id).ReachableUnder {} {}
  := by
  unfold toldOf
  apply Machine.ReachableUnder.after
  apply Machine.ReachableUnder.after
  apply Machine.ReachableUnder.fresh

/-- The last link that can be made gets the last id but one.  After it, or once the kernel was told of
a link with the last id, the next one stops the program, and the links stay as they are. -/
theorem new_link_has_own_id_last :
  let m := toldOf 0xfffffffd
  let request : LinkCreate := ⟨nthDescriptor 0, 1, .xdp, 0, .none⟩
  let made := ((kernel {} {}).createLink request).run.run m
  let next := ((kernel {} {}).createLink request).run.run made.2
  let beyond := ((kernel {} {}).createLink request).run.run (toldOf lastId)
  m.ReachableUnder {} {} ∧ (toldOf lastId).ReachableUnder {} {}
    ∧ made.1 = .ok (nthDescriptor 1) ∧ m.state.AddsLink made.2.state (nthDescriptor 1)
    ∧ made.2.state.links.keys = [0xfffffffd, 0xfffffffe]
    ∧ next.1 = .error State.overflow ∧ next.2.state.stopped = true
    ∧ next.2.state.links.keys = [0xfffffffd, 0xfffffffe]
    ∧ beyond.1 = .error State.overflow ∧ beyond.2.state.stopped = true
    ∧ (toldOf lastId).state.KeepsEach beyond.2.state
  := by
  intro m request made next beyond
  have hlast := reachableUnder_toldOf lastId
  have hmade : made.1 = .ok (nthDescriptor 1) := by decide +kernel
  refine ⟨reachableUnder_toldOf _, hlast, hmade, ?_, ?_, ?_, ?_, ?_, ?_, ?_, ?_⟩
  · apply ((new_link_has_own_id (reachableUnder_toldOf _)).1 request made.1 made.2 rfl).1
    exact hmade
  · decide +kernel
  · decide +kernel
  · decide +kernel
  · decide +kernel
  · decide +kernel
  · decide +kernel
  · exact ((new_link_has_own_id hlast).1 request beyond.1 beyond.2 rfl).2

end Bpf.Memory
