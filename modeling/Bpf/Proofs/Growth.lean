import Bpf.Proofs.FixedAnswers
import Bpf.Proofs.FreshIds

/-!
# What checks leave behind

The checks of features load programs, ask for attachments to what nobody has, and two of them ask for
a link that the kernel may well make.  `State.Growth` is what all this can do to a kernel in memory:
programs and links are added, and nothing else happens.  An action that `Grows` the state asks for at
most one link of each attach type in a list, and all checks do so, whatever the script does.  What was
there before is `Within` the state afterwards, and as long as there are ids left for what is asked for,
the program goes on (`State.Growth.stopped_eq`).
-/

namespace Bpf

/-- The attach types of the links that the check for a feature may make. -/
def AttachFeature.makes : AttachFeature → List AttachType
  | .kprobeMulti => [.traceKprobeMulti]
  | .uprobeMulti => [.traceUprobeMulti]
  | _ => []

namespace Memory

open AttachFeature (nowhere nobody)

variable {η α β : Type}

/-! ### Growth -/

namespace State

variable {s t u : State} {asked asked' : List LinkRecord}

/-- The state after programs and links were asked for, the links in the list one after another.  Each
is there, opened or not, unless there was no id left for it. -/
inductive Growth (s : State) : List LinkRecord → State → Prop where
  | same : Growth s [] s
  | count {asked : List LinkRecord} {t : State} (h : Growth s asked t) (call : String) :
    Growth s asked (t.counted call)
  | addProgram {asked : List LinkRecord} {t : State} (h : Growth s asked t)
      (programType : ProgramType) (hnext : t.nextProgramId ≠ lastId) :
    Growth s asked ((t.counted Command.progLoad).withProgram programType)
  | haltProgram {asked : List LinkRecord} {t : State} (h : Growth s asked t)
      (hlast : t.nextProgramId = lastId) :
    Growth s asked (t.counted Command.progLoad).halted
  | addLink {asked : List LinkRecord} {t : State} (h : Growth s asked t) (link : LinkRecord)
      (hid : link.id = t.nextLinkId) (hnext : t.nextLinkId ≠ lastId) :
    Growth s (asked ++ [link]) (t.withLink link)
  | haltLink {asked : List LinkRecord} {t : State} (h : Growth s asked t) (link : LinkRecord)
      (hlast : t.nextLinkId = lastId) :
    Growth s (asked ++ [link]) t.halted
  | openObject {asked : List LinkRecord} {t : State} (h : Growth s asked t) (object : Object)
      (hoffers : t.Offers object) :
    Growth s asked (t.opened object)

namespace Growth

theorem steps (h : s.Growth asked t) :
  Steps s t
  := by
  induction h with
  | same => apply Relation.ReflTransGen.refl
  | count _ call ih => apply ih.tail (Step.count call)
  | addProgram _ programType hnext ih => apply ih.tail (Step.addProgram programType hnext)
  | haltProgram _ hlast ih => apply ih.tail (Step.haltProgram hlast)
  | addLink _ link hid hnext ih => apply ih.tail (Step.addLink link hid hnext)
  | haltLink _ link hlast ih => apply ih.tail (Step.haltLink hlast)
  | openObject _ object hoffers ih => apply ih.tail (Step.openObject object hoffers)

theorem trans (h : s.Growth asked t) (h' : t.Growth asked' u) :
  s.Growth (asked ++ asked') u
  := by
  induction h' with
  | same =>
      rw [List.append_nil]
      apply h
  | count _ call ih => apply ih.count call
  | addProgram _ programType hnext ih => apply ih.addProgram programType hnext
  | haltProgram _ hlast ih => apply ih.haltProgram hlast
  | addLink _ link hid hnext ih =>
      rw [← List.append_assoc]
      apply ih.addLink link hid hnext
  | haltLink _ link hlast ih =>
      rw [← List.append_assoc]
      apply ih.haltLink link hlast
  | openObject _ object hoffers ih => apply ih.openObject object hoffers

/-- Without attach types to choose from no link is asked for. -/
theorem of_sublist_nil (h : s.Growth asked t)
    (hasked : (asked.map LinkRecord.attachType).Sublist []) :
  s.Growth [] t
  := by
  rw [List.sublist_nil, List.map_eq_nil_iff] at hasked
  rw [hasked] at h
  apply h

theorem pins_eq (h : s.Growth asked t) :
  t.pins = s.pins
  := by
  induction h with
  | same => rfl
  | _ => assumption

theorem device_eq (h : s.Growth asked t) :
  t.device = s.device
  := by
  induction h with
  | same => rfl
  | _ => assumption

theorem links_eq (h : s.Growth asked t) (hnone : asked = []) :
  t.links = s.links
  := by
  induction h with
  | same => rfl
  | addLink _ link hid hnext ih =>
      apply absurd hnone
      apply List.append_ne_nil_of_right_ne_nil
      apply List.cons_ne_nil
  | haltLink _ link hlast ih =>
      apply absurd hnone
      apply List.append_ne_nil_of_right_ne_nil
      apply List.cons_ne_nil
  | count _ call ih => apply ih hnone
  | addProgram _ programType hnext ih => apply ih hnone
  | haltProgram _ hlast ih => apply ih hnone
  | openObject _ object hoffers ih => apply ih hnone

/-- A link is an old one, or one of those that were asked for, under its own id. -/
theorem mem_asked (h : s.Growth asked t) {id : UInt32} {link : LinkRecord}
    (hlink : t.links.get? id = some link) :
  s.links.get? id = some link ∨ link ∈ asked ∧ link.id = id
  := by
  induction h with
  | same => exact .inl hlink
  | @addLink asked t _ new hid hnext ih =>
      have hlink : (t.links.insert t.nextLinkId new).get? id = some link := hlink
      rw [Table.get?_insert] at hlink
      split at hlink
      next heq =>
        cases hlink
        exact .inr ⟨List.mem_append_right asked List.mem_cons_self, hid.trans heq.symm⟩
      next =>
        obtain hold | ⟨hasked, heq⟩ := ih hlink
        · exact .inl hold
        · exact .inr ⟨List.mem_append_left [new] hasked, heq⟩
  | haltLink _ new hlast ih =>
      obtain hold | ⟨hasked, heq⟩ := ih hlink
      · exact .inl hold
      · exact .inr ⟨List.mem_append_left [new] hasked, heq⟩
  | count _ call ih => apply ih hlink
  | addProgram _ programType hnext ih => apply ih hlink
  | haltProgram _ hlast ih => apply ih hlink
  | openObject _ object hoffers ih => apply ih hlink

/-- The links that there are stay as they are, and those that are added have ids from the next one
on. -/
theorem links_kept (h : s.Growth asked t) (hahead : s.Ahead) :
  s.nextLinkId ≤ t.nextLinkId ∧ s.KeepsEach t
    ∧ ∀ id, s.links.get? id = none → t.links.get? id ≠ none → s.nextLinkId ≤ id
  := by
  induction h with
  | same => exact ⟨UInt32.le_refl _, fun _ _ hlink => hlink, fun _ hnone hsome => absurd hnone hsome⟩
  | @addLink asked t hbefore new hid hnext ih =>
      obtain ⟨hle, hkeeps, hnew⟩ := ih
      refine ⟨?_, ?_, ?_⟩
      · apply UInt32.le_trans hle (UInt32.le_of_lt (lt_succ_of_ne_lastId hnext))
      · intro id link hlink
        have hahead' : t.Ahead := hahead.steps hbefore.steps
        apply hahead'.keepsEach_withLink hnext new id link (hkeeps id link hlink)
      · intro id hnone hsome
        rw [withLink, Table.get?_insert] at hsome
        split at hsome
        next heq =>
          rw [heq]
          exact hle
        next => apply hnew id hnone hsome
  | _ => assumption

end Growth

/-! ### What was there before -/

/-- The next program id is above those of all programs. -/
def Numbered (s : State) : Prop :=
  ∀ id programType, s.programs.get? id = some programType → id < s.nextProgramId

theorem Numbered.step (h : s.Numbered) (hstep : Step s t) :
  t.Numbered
  := by
  cases hstep with
  | addProgram programType hnext =>
      have hlt : s.nextProgramId < s.nextProgramId + 1 := lt_succ_of_ne_lastId hnext
      intro id found hfound
      show id < s.nextProgramId + 1
      have hfound : (s.programs.insert s.nextProgramId programType).get? id = some found := hfound
      rw [Table.get?_insert] at hfound
      split at hfound
      next heq =>
        rw [heq]
        exact hlt
      next => apply UInt32.lt_trans (h id found hfound) hlt
  | _ => apply h

theorem Numbered.steps (h : s.Numbered) (hsteps : Steps s t) :
  t.Numbered
  := by
  induction hsteps with
  | refl => apply h
  | tail hbefore hstep ih => apply ih.step hstep

/-- The programs that there are stay as they are, and those that are loaded have ids from the next one
on. -/
theorem Growth.programs_kept (h : s.Growth asked t) (hnumbered : s.Numbered) :
  s.nextProgramId ≤ t.nextProgramId
    ∧ (∀ id programType, s.programs.get? id = some programType →
      t.programs.get? id = some programType)
    ∧ ∀ id, s.programs.get? id = none → t.programs.get? id ≠ none → s.nextProgramId ≤ id
  := by
  induction h with
  | same => exact ⟨UInt32.le_refl _, fun _ _ hprogram => hprogram, fun _ hnone hsome => absurd hnone hsome⟩
  | @addProgram asked t hbefore programType hnext ih =>
      obtain ⟨hle, hkeeps, hnew⟩ := ih
      have hprograms (id : UInt32) :
          ((t.counted Command.progLoad).withProgram programType).programs.get? id
            = if id = t.nextProgramId then some programType else t.programs.get? id :=
        Table.get?_insert _ _ _ _
      refine ⟨?_, ?_, ?_⟩
      · apply UInt32.le_trans hle (UInt32.le_of_lt (lt_succ_of_ne_lastId hnext))
      · intro id found hfound
        have hold := hkeeps id found hfound
        have hbelow : id < t.nextProgramId := hnumbered.steps hbefore.steps id found hold
        rw [hprograms, if_neg (UInt32.ne_of_lt hbelow)]
        exact hold
      · intro id hnone hsome
        rw [hprograms] at hsome
        split at hsome
        next heq =>
          rw [heq]
          exact hle
        next => apply hnew id hnone hsome
  | _ => assumption

/-- Everything that is in the first state is in the second one as it was, and what is new has ids from
the next ones on. -/
structure Within (s t : State) : Prop where
  links : ∀ id link, s.links.get? id = some link → t.links.get? id = some link
  programs : ∀ id programType, s.programs.get? id = some programType →
    t.programs.get? id = some programType
  pins : t.pins = s.pins
  newLinks : ∀ id, s.links.get? id = none → t.links.get? id ≠ none → s.nextLinkId ≤ id
  newPrograms : ∀ id, s.programs.get? id = none → t.programs.get? id ≠ none → s.nextProgramId ≤ id

theorem Growth.within (h : s.Growth asked t) (hahead : s.Ahead) (hnumbered : s.Numbered) :
  s.Within t
  := by
  obtain ⟨-, hlinks, hnewLinks⟩ := h.links_kept hahead
  obtain ⟨-, hprograms, hnewPrograms⟩ := h.programs_kept hnumbered
  exact ⟨hlinks, hprograms, h.pins_eq, hnewLinks, hnewPrograms⟩

/-! ### Ids that are left -/

theorem callCount_counted (s : State) (call other : String) :
  (s.counted call).callCount other
    = if other = call then s.callCount call + 1 else s.callCount other
  := by
  rw [callCount, counted, Assoc.get?_insert]
  split
  next => rfl
  next => rfl

theorem callCount_le_counted (s : State) (call other : String) :
  s.callCount other ≤ (s.counted call).callCount other
  := by
  rw [callCount_counted]
  split
  next heq =>
    rw [heq]
    omega
  next => apply Nat.le_refl

/-- Each id that was given to a program was asked for. -/
def Paid (s : State) : Prop := s.nextProgramId.toNat ≤ 1 + s.callCount Command.progLoad

theorem Paid.counted (h : s.Paid) (call : String) :
  (s.counted call).Paid
  := by
  have hle := callCount_le_counted s call Command.progLoad
  show s.nextProgramId.toNat ≤ 1 + (s.counted call).callCount Command.progLoad
  unfold Paid at h
  omega

theorem Paid.step (h : s.Paid) (hstep : Step s t) :
  t.Paid
  := by
  cases hstep with
  | count call => apply h.counted
  | haltProgram hlast => apply h.counted
  | addProgram programType hnext =>
      have hcount : (s.counted Command.progLoad).callCount Command.progLoad
          = s.callCount Command.progLoad + 1 := by
        rw [callCount_counted, if_pos rfl]
      have hle := toNat_succ_le s.nextProgramId
      show (s.nextProgramId + 1).toNat
        ≤ 1 + (s.counted Command.progLoad).callCount Command.progLoad
      unfold Paid at h
      omega
  | _ => apply h

theorem Paid.steps (h : s.Paid) (hsteps : Steps s t) :
  t.Paid
  := by
  induction hsteps with
  | refl => apply h
  | tail _ hstep ih => apply ih.step hstep

namespace Growth

theorem nextLinkId_le (h : s.Growth asked t) :
  t.nextLinkId.toNat ≤ s.nextLinkId.toNat + asked.length
  := by
  induction h with
  | same => apply Nat.le_refl
  | @addLink asked t _ link hid hnext ih =>
      have hle := toNat_succ_le t.nextLinkId
      rw [List.length_append, List.length_singleton]
      show (t.nextLinkId + 1).toNat ≤ _
      omega
  | @haltLink asked t _ link hlast ih =>
      rw [List.length_append, List.length_singleton]
      show t.nextLinkId.toNat ≤ _
      omega
  | _ => assumption

/-- With fewer programs asked for than there are ids, and no more links than ids are left for, there
always is an id to go on with. -/
theorem stopped_eq (h : s.Growth asked t) (hpaid : s.Paid)
    (hlinks : s.nextLinkId.toNat + asked.length ≤ lastId.toNat)
    (hloads : t.callCount Command.progLoad < lastId.toNat) :
  t.stopped = s.stopped
  := by
  induction h with
  | same => rfl
  | @count asked t _ call ih =>
      have hle := callCount_le_counted t call Command.progLoad
      apply ih hlinks (by omega)
  | @addProgram asked t _ programType hnext ih =>
      have hle := callCount_le_counted t Command.progLoad Command.progLoad
      have hloads : (t.counted Command.progLoad).callCount Command.progLoad < lastId.toNat := hloads
      apply ih hlinks (by omega)
  | @haltProgram asked t hbefore hlast ih =>
      -- The last request came when all ids but one had been given to others.
      have hpaid' : t.Paid := hpaid.steps hbefore.steps
      have hcount : (t.counted Command.progLoad).callCount Command.progLoad
          = t.callCount Command.progLoad + 1 := by
        rw [callCount_counted, if_pos rfl]
      have hloads : (t.counted Command.progLoad).callCount Command.progLoad < lastId.toNat := hloads
      rw [Paid, hlast] at hpaid'
      omega
  | @addLink asked t _ link hid hnext ih =>
      rw [List.length_append, List.length_singleton] at hlinks
      apply ih (by omega) hloads
  | @haltLink asked t hbefore link hlast ih =>
      have hle := hbefore.nextLinkId_le
      rw [List.length_append, List.length_singleton] at hlinks
      rw [hlast] at hle
      omega
  | openObject _ object hoffers ih => apply ih hlinks hloads

end Growth

/-! ### What is added -/

/-- The links of the second state under ids for which the first one has no link. -/
def added (s t : State) : List LinkRecord :=
  (t.links.keys.filter fun id => !s.links.contains id).filterMap t.links.get?

theorem mem_added {link : LinkRecord} (h : link ∈ s.added t) :
  ∃ id, s.links.get? id = none ∧ t.links.get? id = some link
  := by
  obtain ⟨id, hid, hlink⟩ := List.mem_filterMap.1 h
  obtain ⟨-, hnew⟩ := List.mem_filter.1 hid
  refine ⟨id, ?_, hlink⟩
  simpa [Table.contains] using hnew

/-- Each link that is added is one of those that were asked for. -/
theorem Growth.subperm_added (h : s.Growth asked t) (hvalid : s.Valid) :
  (s.added t).Subperm asked
  := by
  have hkeys : t.links.keys.Nodup := by
    apply (List.pairwise_map.2 t.links.ascending).imp
    intro id other hlt
    apply UInt32.ne_of_lt hlt
  apply List.subperm_of_subset
  · apply (hkeys.filter _).filterMap
    -- A link is under its own id, so it is not under two ids.
    intro id other link hid hother
    have hid := (hvalid.steps h.steps).records id link hid
    have hother := (hvalid.steps h.steps).records other link hother
    exact hid.symm.trans hother
  · intro link hlink
    obtain ⟨id, hnone, hsome⟩ := mem_added hlink
    obtain hold | ⟨hasked, -⟩ := h.mem_asked hsome
    · rw [hnone] at hold
      cases hold
    · apply hasked

end State

/-! ### Events -/

section Events

variable {settings : Settings} {script : Script η} {m : Machine η}

theorem Event.numbered_applyUnder (h : m.state.Numbered) (event : Event) :
  (event.applyUnder settings script m).state.Numbered
  := by
  obtain hsteps | ⟨id, hremoved⟩ := event.applyUnder_cases settings script m
  · apply h.steps hsteps
  · rw [hremoved]
    apply h

theorem Event.paid_applyUnder (h : m.state.Paid) (event : Event) :
  (event.applyUnder settings script m).state.Paid
  := by
  obtain hsteps | ⟨id, hremoved⟩ := event.applyUnder_cases settings script m
  · apply h.steps hsteps
  · rw [hremoved]
    apply h

theorem Machine.ReachableUnder.paid (h : m.ReachableUnder settings script) :
  m.state.Paid
  := by
  induction h with
  | fresh state => apply Nat.le_refl
  | after hm event ih => apply event.paid_applyUnder ih

end Events

/-! ### Actions that grow the state -/

/-- Whatever an action does to a valid state is growth, with at most one link of each attach type in
the list. -/
def Grows (types : List AttachType) (x : Action (Machine η) α) : Prop :=
  ∀ m : Machine η, m.state.Valid → ∃ asked, m.state.Growth asked (x.run.run m).2.state
    ∧ (asked.map LinkRecord.attachType).Sublist types

namespace Grows

variable {types types' : List AttachType} {x : Action (Machine η) α} {f : α → Action (Machine η) β}

/-- What asks for no link. -/
theorem of_growth_nil (h : ∀ m : Machine η, m.state.Valid → m.state.Growth [] (x.run.run m).2.state) :
  Grows types x
  := by
  intro m hvalid
  exact ⟨[], h m hvalid, List.nil_sublist types⟩

theorem of_state_eq (h : ∀ m : Machine η, (x.run.run m).2.state = m.state) :
  Grows types x
  := by
  apply of_growth_nil
  intro m _
  rw [h m]
  apply State.Growth.same

theorem of_counted (call : String)
    (h : ∀ m : Machine η, (x.run.run m).2.state = m.state.counted call) :
  Grows types x
  := by
  apply of_growth_nil
  intro m _
  rw [h m]
  apply State.Growth.same.count

theorem growth_nil (h : Grows [] x) {m : Machine η} (hvalid : m.state.Valid) :
  m.state.Growth [] (x.run.run m).2.state
  := by
  obtain ⟨asked, hgrowth, hasked⟩ := h m hvalid
  apply hgrowth.of_sublist_nil hasked

theorem pure (a : α) :
  Grows types (Pure.pure a : Action (Machine η) α)
  := of_state_eq fun _ => rfl

theorem throw (e : Error) :
  Grows types (MonadExcept.throw e : Action (Machine η) α)
  := of_state_eq fun _ => rfl

theorem ofExcept (answer : Except Error α) :
  Grows types (Action.ofExcept answer : Action (Machine η) α)
  := of_state_eq fun _ => rfl

theorem attempt (hx : Grows types x) :
  Grows types (Action.attempt x)
  := hx

theorem bind (hx : Grows types x) (hf : ∀ a, Grows types' (f a)) :
  Grows (types ++ types') (x >>= f)
  := by
  intro m hvalid
  obtain ⟨asked, hgrowth, hasked⟩ := hx m hvalid
  rcases hrun : x.run.run m with ⟨e | a, m'⟩
  · rw [hrun] at hgrowth
    rw [Action.run_bind_of_error hrun]
    exact ⟨asked, hgrowth, hasked.trans (List.sublist_append_left types types')⟩
  · rw [hrun] at hgrowth
    rw [Action.run_bind_of_ok hrun]
    obtain ⟨asked', hgrowth', hasked'⟩ := hf a m' (hvalid.steps hgrowth.steps)
    refine ⟨asked ++ asked', hgrowth.trans hgrowth', ?_⟩
    rw [List.map_append]
    apply hasked.append hasked'

/-- Links are only asked for by what comes after. -/
theorem before (hx : Grows [] x) (hf : ∀ a, Grows types (f a)) :
  Grows types (x >>= f)
  := hx.bind hf

/-- Links are only asked for by what comes first. -/
theorem after (hx : Grows types x) (hf : ∀ a, Grows [] (f a)) :
  Grows types (x >>= f)
  := by
  have hbind := hx.bind hf
  rw [List.append_nil] at hbind
  apply hbind

end Grows

/-! ### Requests -/

namespace State

variable {s t : State} {asked : List LinkRecord}

theorem Growth.afterOpen (h : s.Growth asked t) {object : Object} (hoffers : t.Offers object) :
  s.Growth asked ((State.openObject object).run.run t).2
  := by
  obtain heq | ⟨-, heq⟩ := snd_openObject object t
  · rw [heq]
    exact h
  · rw [heq]
    apply h.openObject object hoffers

theorem growth_loadProgram (load : ProgramLoad) (s : State) :
  s.Growth [] ((State.loadProgram load).run.run (s.counted Command.progLoad)).2
  := by
  rw [run_loadProgram]
  split
  next => apply Growth.same.count
  next =>
    split
    next hlast => apply Growth.same.haltProgram (t := s) hlast
    next hnext =>
      have hadded := (Growth.same (s := s)).addProgram load.programType hnext
      apply hadded.afterOpen
      apply Offers.program
      rw [withProgram, Table.get?_insert, if_pos rfl]

theorem Growth.afterAddLink (h : s.Growth asked t) {link : UInt32 → LinkRecord}
    (hid : ∀ id, (link id).id = id) :
  s.Growth (asked ++ [link t.nextLinkId]) ((State.addLink link).run.run t).2
  := by
  rw [run_addLink]
  split
  next hlast => apply h.haltLink _ hlast
  next hnext =>
    apply (h.addLink (link t.nextLinkId) (hid _) hnext).afterOpen
    apply Offers.link _ (link t.nextLinkId)
    rw [withLink, Table.get?_insert, if_pos rfl]

end State

section Requests

variable (settings : Settings) (script : Script η)

theorem grows_loadProgram (load : ProgramLoad) :
  Grows [] ((kernel settings script).loadProgram load)
  := by
  apply Grows.of_growth_nil
  intro m _
  apply Machine.holds_permitted (P := m.state.Growth [])
  · apply State.Growth.same.count
  · apply State.growth_loadProgram

theorem grows_attachProgram (request : ProgramAttach) :
  Grows [] ((kernel settings script).attachProgram request)
  := Grows.of_counted Command.progAttach fun _ => rfl

theorem grows_queryPrograms (target : UInt32) (attachType : AttachType) :
  Grows [] ((kernel settings script).queryPrograms target attachType)
  := by
  apply Grows.of_counted Command.progQuery
  intro m
  simp only [kernel]
  cases script.queryPrograms with
  | none => rfl
  | some f => rfl

theorem attachType_requested (request : LinkCreate) (programId id : UInt32) :
  (State.requested request programId id).attachType = request.attachType
  := by
  unfold State.requested
  cases request.extra with
  | _ => rfl

theorem grows_createLink (request : LinkCreate) :
  Grows [request.attachType] ((kernel settings script).createLink request)
  := by
  intro m _
  have hcounted : m.state.Growth [] (m.state.counted Command.linkCreate) := .count .same _
  have hrefused : ∃ asked, m.state.Growth asked (m.state.counted Command.linkCreate)
      ∧ (asked.map LinkRecord.attachType).Sublist [request.attachType] :=
    ⟨[], hcounted, List.nil_sublist _⟩
  apply Machine.holds_permitted (P := fun s => ∃ asked, m.state.Growth asked s
    ∧ (asked.map LinkRecord.attachType).Sublist [request.attachType]) hrefused
  obtain ⟨e, hrun⟩ | ⟨id, programType, loaded, -, -, -, hrun⟩ :=
    State.createLink_cases request (m.state.counted Command.linkCreate)
  · rw [hrun]
    exact hrefused
  · rw [hrun]
    refine ⟨_, hcounted.afterAddLink (State.id_requested request id), ?_⟩
    rw [List.nil_append, List.map_cons, List.map_nil, attachType_requested]

/-- A request that is refused in every valid state asks for no link. -/
theorem grows_createLink_of_refused {request : LinkCreate}
    (h : ∀ s : State, s.Valid → ∃ e, (State.createLink request).run.run s = (.error e, s)) :
  Grows [] ((kernel settings script).createLink request)
  := by
  apply Grows.of_growth_nil
  intro m hvalid
  have hcounted : (m.state.counted Command.linkCreate).Valid := hvalid.step (.count _)
  apply Machine.holds_permitted (P := m.state.Growth [])
  · apply State.Growth.same.count
  · obtain ⟨e, hrun⟩ := h _ hcounted
    rw [hrun]
    apply State.Growth.same.count

theorem createLink_nobody {s : State} (hs : s.Valid) {request : LinkCreate}
    (hprogram : request.program = nobody) :
  ∃ e, (State.createLink request).run.run s = (.error e, s)
  := by
  obtain hrefused | ⟨id, programType, loaded, hobject, -⟩ := State.createLink_cases request s
  · exact hrefused
  · rw [hprogram] at hobject
    obtain ⟨serial, -, hserial⟩ := hs.fresh _ _ hobject
    exact absurd hserial.symm (State.nthDescriptor_ne_nobody serial)

theorem createLink_no_interface (s : State) {request : LinkCreate}
    (hinterface : State.isOnInterface request.attachType = true)
    (htarget : request.target = nowhere) :
  ∃ e, (State.createLink request).run.run s = (.error e, s)
  := by
  obtain hrefused | ⟨id, programType, loaded, -, hnone, -⟩ := State.createLink_cases request s
  · exact hrefused
  · have hnowhere : request.target = 0xffffffff := htarget
    rw [hinterface, hnowhere] at hnone
    exact absurd rfl hnone

end Requests

/-! ### Checks -/

section Checks

variable {settings : Settings} {script : Script η}

theorem grows_loadGrowing (load : ProgramLoad) :
  Grows [] (loadGrowing (kernel settings script) load)
  := by
  induction load using loadGrowing.induct with
  | case1 load ih =>
      rw [loadGrowing]
      apply (grows_loadProgram settings script load).attempt.before
      intro answer
      cases answer with
      | ok fd => apply Grows.pure
      | error e =>
          dsimp only
          split
          next hwants => apply ih e hwants
          next => apply Grows.throw

theorem grows_load (spec : ProgramSpec) (logLevel : UInt32) :
  Grows [] (Program.load (kernel settings script) spec logLevel)
  := by
  have hrequest : Grows [] (Program.request (kernel settings script) spec logLevel) := by
    unfold Program.request
    cases NulFree.ofString? spec.license with
    | none => apply Grows.throw
    | some license =>
        apply Grows.before
        · apply Grows.of_state_eq
          intro m
          cases spec.attachTo with
          | none => rfl
          | some function =>
              show ((some <$> Action.ofExcept (btfId settings.btf function) :
                Action (Machine η) (Option UInt32)).run.run m).2.state = _
              cases btfId settings.btf function with
              | ok id => rfl
              | error e => rfl
        · intro btfId
          apply Grows.of_state_eq
          intro m
          rfl
  apply hrequest.before
  intro load
  apply (grows_loadGrowing load).before
  intro fd
  apply Grows.pure

theorem grows_checkProgram (spec : ProgramSpec) :
  Grows [] (checkProgram (kernel settings script) spec)
  := by
  apply (grows_load spec 0).attempt.before
  intro answer
  cases answer with
  | ok program => apply Grows.pure
  | error e => apply Grows.throw

theorem grows_checkType (t : ProgramType) :
  Grows [] (ProgramType.check (kernel settings script) t)
  := by
  cases t with
  | structOps =>
      apply (grows_checkProgram _).attempt.before
      intro answer
      cases answer with
      | ok _ => apply Grows.pure
      | error e =>
          dsimp only
          split
          · apply Grows.pure
          · apply Grows.throw
  | extension =>
      apply (grows_load _ 1).attempt.before
      intro answer
      cases answer with
      | ok program => apply Grows.pure
      | error e =>
          dsimp only
          split
          · apply Grows.pure
          · apply Grows.throw
  | _ => apply grows_checkProgram

theorem grows_tryLoad (call : HelperCall) :
  Grows [] (HelperCall.tryLoad (kernel settings script) call)
  := by
  apply (grows_load call.spec 1).attempt.before
  intro answer
  apply Grows.ofExcept

theorem grows_loadTrivial (programType : ProgramType) (attachType : Option AttachType) :
  Grows [] (AttachFeature.loadTrivial (kernel settings script) programType attachType)
  := by
  apply (grows_load _ 0).attempt.before
  intro answer
  cases answer with
  | ok program => apply Grows.ofExcept
  | error e => apply Grows.throw

theorem grows_checkProgAttach :
  Grows [] (AttachFeature.checkProgAttach (kernel settings script))
  := by
  apply (grows_loadTrivial _ _).before
  intro program
  apply Grows.pure

theorem grows_tryLink {types : List AttachType} {request : LinkCreate}
    (h : Grows types ((kernel settings script).createLink request)) :
  Grows types (AttachFeature.tryLink (kernel settings script) request)
  := by
  apply h.attempt.after
  intro answer
  apply Grows.pure

/-- There is no interface with the number that nobody has. -/
theorem grows_checkChain {attachType : AttachType}
    (hinterface : State.isOnInterface attachType = true) :
  Grows [] (AttachFeature.checkChain (kernel settings script) attachType)
  := by
  apply (grows_loadTrivial _ _).before
  intro program
  apply Grows.before
  · apply grows_tryLink
    apply grows_createLink_of_refused
    intro s _
    apply createLink_no_interface s hinterface rfl
  · intro answer
    cases answer with
    | ok _ => apply Grows.throw
    | error e => apply Grows.ofExcept

/-- No check for an attachment makes a link but those for links with many probes. -/
theorem grows_checkAttachment (feature : AttachFeature) :
  Grows feature.makes (AttachFeature.check (kernel settings script) feature)
  := by
  cases feature with
  | progAttach => apply grows_checkProgAttach
  | progAttachReplace =>
      apply grows_checkProgAttach.before
      intro _
      apply (grows_loadTrivial _ _).before
      intro program
      apply (grows_attachProgram settings script _).attempt.before
      intro answer
      apply Grows.ofExcept
  | bpfLink =>
      apply Grows.before
      · apply grows_tryLink
        apply grows_createLink_of_refused
        intro s hs
        apply createLink_nobody hs rfl
      · intro answer
        apply Grows.ofExcept
  | progQuery =>
      apply (grows_queryPrograms settings script _ _).attempt.before
      intro answer
      cases answer with
      | ok _ => apply Grows.throw
      | error e =>
          dsimp only
          split
          · apply Grows.pure
          · apply Grows.throw
  | tcx => apply grows_checkChain rfl
  | netkit => apply grows_checkChain rfl
  | kprobeMulti =>
      apply (grows_loadTrivial _ _).before
      intro program
      apply (grows_tryLink (grows_createLink settings script _)).after
      intro answer
      apply Grows.ofExcept
  | uprobeMulti =>
      apply (grows_loadTrivial _ _).before
      intro program
      apply (grows_tryLink (grows_createLink settings script _)).after
      intro answer
      apply Grows.ofExcept

end Checks

end Memory

end Bpf
