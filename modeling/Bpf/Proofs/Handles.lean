import Bpf.Pinned
import Bpf.Proofs.Reachable
import Bpf.Proofs.Report

/-!
# Handles on a kernel in memory

What an operation of a handle can do to the kernel is bounded by the requests that it makes.  To open
and to look changes neither links nor pins, to pin changes no link, and to swap programs or to detach
changes no pin.  Beyond that, each operation has an equation for its run.
-/

namespace Bpf

variable {σ τ η α β : Type}

/-! ### Requests by what they change -/

namespace Request

/-- The request only looks at an object. -/
def Looks : Request → Prop
  | .programInfo _ => True
  | .objectType _ => True
  | .linkInfo _ => True
  | _ => False

/-- The request only looks at an object, or opens one that is there. -/
def Opens (request : Request) : Prop :=
  request.Looks ∨ ∃ path flags, request = .openPin path flags

theorem Looks.opens (request : Request) (h : request.Looks) :
  request.Opens
  := .inl h

/-- The request makes a pin or removes one. -/
def Pins : Request → Prop
  | .pin _ _ => True
  | .removePin _ => True
  | _ => False

/-- The request swaps the program of a link. -/
def Swaps : Request → Prop
  | .updateLink _ _ _ => True
  | _ => False

/-- The request makes a new link. -/
def AddsLink : Request → Prop
  | .createLink _ => True
  | .openRawTracepoint _ _ => True
  | _ => False

/-- The request detaches a link. -/
def Detaches : Request → Prop
  | .detachLink _ => True
  | _ => False

end Request

/-- Requests of a kind lead from one state to another. -/
def Kernel.Leads (K : Kernel σ) (kind : Request → Prop) : σ → σ → Prop :=
  Relation.ReflTransGen fun s s' => ∃ request, kind request ∧ s' = K.after s request

/-- The action makes only requests of a kind. -/
def Action.Asks (K : Kernel σ) (kind : Request → Prop) (action : Action σ α) : Prop :=
  ∀ s, K.Leads kind s (action.run.run s).2

namespace Action

variable {K : Kernel σ} {kind : Request → Prop}

theorem asks_pure (a : α) :
  (pure a : Action σ α).Asks K kind
  := by
  intro s
  apply Relation.ReflTransGen.refl

theorem asks_throw (e : Error) :
  (throw e : Action σ α).Asks K kind
  := by
  intro s
  apply Relation.ReflTransGen.refl

theorem asks_ofExcept (answer : Except Error α) :
  (ofExcept answer : Action σ α).Asks K kind
  := by
  intro s
  apply Relation.ReflTransGen.refl

theorem Asks.bind {x : Action σ α} {f : α → Action σ β} (hx : x.Asks K kind)
    (hf : ∀ a, (f a).Asks K kind) :
  (x >>= f).Asks K kind
  := by
  intro s
  have hfirst := hx s
  rcases hrun : x.run.run s with ⟨e | a, s'⟩
  · rw [run_bind_of_error hrun]
    rw [hrun] at hfirst
    apply hfirst
  · rw [run_bind_of_ok hrun]
    rw [hrun] at hfirst
    apply hfirst.trans (hf a s')

theorem Asks.attempt {x : Action σ α} (hx : x.Asks K kind) :
  (attempt x).Asks K kind
  := hx

theorem Asks.map {x : Action σ α} (hx : x.Asks K kind) (f : α → β) :
  (f <$> x).Asks K kind
  := by
  rw [← bind_pure_comp]
  apply hx.bind
  intro a
  apply asks_pure

theorem Asks.mono {wider : Request → Prop} {x : Action σ α} (hx : x.Asks K kind)
    (h : ∀ request, kind request → wider request) :
  x.Asks K wider
  := by
  intro s
  apply (hx s).lift id
  rintro t t' ⟨request, hkind, hafter⟩
  exact ⟨request, h request hkind, hafter⟩

/-- A single request. -/
theorem asks_request (request : Request) (hkind : kind request) {x : Action σ α}
    (hx : ∀ s, (x.run.run s).2 = K.after s request) :
  x.Asks K kind
  := by
  intro s
  apply Relation.ReflTransGen.single
  exact ⟨request, hkind, hx s⟩

end Action

/-- What each request keeps, all of them keep together. -/
theorem Kernel.Leads.keeps {K : Kernel σ} {kind : Request → Prop} {s s' : σ} (aspect : σ → β)
    (hkeeps : ∀ s request, kind request → aspect (K.after s request) = aspect s)
    (h : K.Leads kind s s') :
  aspect s' = aspect s
  := by
  induction h with
  | refl => rfl
  | tail _ hnext ih =>
      obtain ⟨request, hkind, rfl⟩ := hnext
      rw [hkeeps _ request hkind, ih]

/-- What holds before and is kept by each request holds after all of them. -/
theorem Kernel.Leads.holds {K : Kernel σ} {kind : Request → Prop} {s s' : σ} {P : σ → Prop}
    (hkeeps : ∀ s request, kind request → P s → P (K.after s request)) (h : K.Leads kind s s')
    (hP : P s) :
  P s'
  := by
  induction h with
  | refl => exact hP
  | tail _ hnext ih =>
      obtain ⟨request, hkind, rfl⟩ := hnext
      apply hkeeps _ request hkind ih

/-! ### What operations ask for -/

section Asks

variable (K : Kernel σ) {kind : Request → Prop}

theorem Pin.asks_check (path : Path) :
  (Pin.check path : Action σ Unit).Asks K kind
  := by
  unfold Pin.check
  split
  · apply Action.asks_throw
  · apply Action.asks_pure

theorem Pin.asks_add (fd : Descriptor) (path : Path) :
  (Pin.add K fd path).Asks K Request.Pins
  := by
  apply (Pin.asks_check K path).bind
  intro u
  apply Action.asks_request (.pin fd path) trivial fun _ => rfl

theorem Pin.asks_remove (path : Path) :
  (Pin.remove K path).Asks K Request.Pins
  := by
  apply (Pin.asks_check K path).bind
  intro u
  apply (Action.asks_request (.removePin path) trivial fun _ => rfl).bind
  intro answer
  apply Action.asks_ofExcept

theorem Program.asks_ofDescriptor (fd : Descriptor) :
  (Program.ofDescriptor K fd).Asks K Request.Looks
  := by
  apply (Action.asks_request (.programInfo fd) trivial fun _ => rfl).bind
  intro info
  apply Action.asks_pure

theorem Program.asks_pin (program : Program) (path : Path) :
  (program.pin K path).Asks K Request.Pins
  := by
  apply (Action.asks_ofExcept _).bind
  intro fd
  apply Pin.asks_add

theorem Link.asks_queryInfo (fd : Descriptor) :
  (Link.queryInfo K fd).Asks K Request.Looks
  := by
  apply (Action.asks_request (.linkInfo fd) trivial fun _ => rfl).bind
  intro raw
  apply Action.asks_ofExcept

theorem Link.asks_ofDescriptor (fd : Descriptor) (pinned : Option Path) :
  (Link.ofDescriptor K fd pinned).Asks K Request.Looks
  := by
  apply (Link.asks_queryInfo K fd).bind
  intro info
  apply Action.asks_pure

theorem asks_openPin (path : Path) (flags : UInt32) :
  (K.openPin path flags).Asks K Request.Opens
  := by
  apply Action.asks_request (.openPin path flags) _ fun _ => rfl
  right
  exact ⟨path, flags, rfl⟩

theorem Link.asks_loadPinned (path : Path) (flags : UInt32) :
  (Link.loadPinned K path flags).Asks K Request.Opens
  := by
  apply (Pin.asks_check K path).bind
  intro u
  apply (asks_openPin K path flags).bind
  intro fd
  apply (Link.asks_ofDescriptor K fd (some path)).mono
  apply Request.Looks.opens

theorem Pinned.asks_load (path : Path) :
  (Pinned.load K path).Asks K Request.Opens
  := by
  apply (Pin.asks_check K path).bind
  intro u
  apply (asks_openPin K path 0).bind
  intro fd
  have htype : (K.objectType fd).Asks K Request.Looks :=
    Action.asks_request (.objectType fd) trivial fun _ => rfl
  apply (htype.mono Request.Looks.opens).bind
  intro objectType
  cases objectType with
  | map => apply Action.asks_pure
  | program =>
      apply ((Program.asks_ofDescriptor K fd).mono Request.Looks.opens).bind
      intro program
      apply Action.asks_pure
  | link =>
      apply ((Link.asks_ofDescriptor K fd (some path)).mono Request.Looks.opens).bind
      intro link
      apply Action.asks_pure

theorem Link.asks_update (link : Link) (program : ProgramHandle) :
  (link.update K program).Asks K Request.Swaps
  := by
  apply (Action.asks_ofExcept _).bind
  intro program
  apply (Action.asks_ofExcept _).bind
  intro fd
  apply Action.asks_request (.updateLink fd program none) trivial fun _ => rfl

theorem Link.asks_replace (link : Link) (program old : ProgramHandle) :
  (link.replace K program old).Asks K Request.Swaps
  := by
  apply (Action.asks_ofExcept _).bind
  intro program
  apply (Action.asks_ofExcept _).bind
  intro old
  apply (Action.asks_ofExcept _).bind
  intro fd
  apply Action.asks_request (.updateLink fd program (some old)) trivial fun _ => rfl

theorem Link.asks_detach (link : Link) :
  (link.detach K).Asks K Request.Detaches
  := by
  apply (Action.asks_ofExcept _).bind
  intro fd
  apply Action.asks_request (.detachLink fd) trivial fun _ => rfl

end Asks

/-! ### Handles that change -/

namespace Link

variable (K : Kernel σ)

/-- The handle changes if the kernel has done what it was asked for. -/
theorem run_onSecond_bind (action : Action σ Unit) (next : Link → Link) (link : Link) (s : σ) :
  (Action.onPart (Part.second Link σ) action
      >>= fun _ => (modify fun s => (next s.1, s.2) : Action (Link × σ) Unit)).run.run (link, s)
    = match action.run.run s with
      | (.ok _, s') => (.ok (), (next link, s'))
      | (.error e, s') => (.error e, (link, s'))
  := by
  have hpart : (Action.onPart (Part.second Link σ) action).run.run (link, s)
      = ((action.run.run s).1, (link, (action.run.run s).2)) := rfl
  rcases hrun : action.run.run s with ⟨e | u, s'⟩
  · rw [hrun] at hpart
    rw [Action.run_bind_of_error hpart]
  · rw [hrun] at hpart
    rw [Action.run_bind_of_ok hpart]
    rfl

/-- A handle pins its link at a path that is neither empty nor recorded, as long as it is open. -/
theorem run_pin (path : Path) (link : Link) (s : σ) :
  (pin K path).run.run (link, s)
    = if path.isEmpty then (.error Pin.emptyPath, (link, s))
      else if link.isPinnedAt path then (.ok (), (link, s))
      else
        match link.fd with
        | none => (.error closed, (link, s))
        | some fd =>
          match (Pin.add K fd path).run.run s with
          | (.ok _, s') => (.ok (), ({ link with pinned := some path }, s'))
          | (.error e, s') => (.error e, (link, s'))
  := by
  unfold pin Pin.check
  split
  next => rfl
  next =>
    by_cases hpinned : link.isPinnedAt path
    · rw [if_pos hpinned]
      show (if link.isPinnedAt path then _ else _ : Action (Link × σ) Unit).run.run (link, s) = _
      rw [if_pos hpinned]
      rfl
    · rw [if_neg hpinned]
      show (if link.isPinnedAt path then _ else _ : Action (Link × σ) Unit).run.run (link, s) = _
      rw [if_neg hpinned]
      obtain ⟨linkType, fd, pinned⟩ := link
      cases fd with
      | none => rfl
      | some fd =>
          apply run_onSecond_bind (Pin.add K fd path) fun l : Link => { l with pinned := some path }

/-- A handle removes the pin that it has recorded. -/
theorem run_unpin (link : Link) (s : σ) :
  (unpin K).run.run (link, s)
    = match link.pinned with
      | none => (.ok (), (link, s))
      | some path =>
        match (Pin.remove K path).run.run s with
        | (.ok _, s') => (.ok (), ({ link with pinned := none }, s'))
        | (.error e, s') => (.error e, (link, s'))
  := by
  obtain ⟨linkType, fd, pinned⟩ := link
  cases pinned with
  | none => rfl
  | some path => apply run_onSecond_bind (Pin.remove K path) fun l : Link => { l with pinned := none }

/-- To pin a link leaves the handle as it is, unless that succeeds; then the path, which is not empty,
is recorded. -/
theorem handle_run_pin_cases (path : Path) (link : Link) (s : σ) :
  let outcome := (pin K path).run.run (link, s)
  outcome.2.1 = link
    ∨ path.isEmpty = false ∧ outcome.1 = .ok () ∧ outcome.2.1 = { link with pinned := some path }
  := by
  intro outcome
  have houtcome : outcome = _ := run_pin K path link s
  rw [houtcome]
  split
  next => exact .inl rfl
  next hpath =>
    split
    next => exact .inl rfl
    next =>
      split
      next => exact .inl rfl
      next =>
        split
        next => exact .inr ⟨Bool.eq_false_iff.2 hpath, rfl, rfl⟩
        next => exact .inl rfl

/-- The removal of a pin leaves the handle as it is, unless that succeeds; then no path is recorded. -/
theorem handle_run_unpin_cases (link : Link) (s : σ) :
  let outcome := (unpin K).run.run (link, s)
  outcome.2.1 = link ∨ outcome.1 = .ok () ∧ outcome.2.1 = { link with pinned := none }
  := by
  intro outcome
  have houtcome : outcome = _ := run_unpin K link s
  rw [houtcome]
  split
  next => exact .inl rfl
  next =>
    split
    next => exact .inr ⟨rfl, rfl⟩
    next => exact .inl rfl

/-- To pin a link changes nothing of the handle but the path that it has recorded. -/
theorem handle_run_pin (path : Path) (link : Link) (s : σ) :
  ∃ pinned, ((pin K path).run.run (link, s)).2.1 = { link with pinned }
  := by
  obtain hlink | ⟨-, -, hlink⟩ := handle_run_pin_cases K path link s
  · exact ⟨link.pinned, hlink⟩
  · exact ⟨some path, hlink⟩

theorem handle_run_unpin (link : Link) (s : σ) :
  ∃ pinned, ((unpin K).run.run (link, s)).2.1 = { link with pinned }
  := by
  obtain hlink | ⟨-, hlink⟩ := handle_run_unpin_cases K link s
  · exact ⟨link.pinned, hlink⟩
  · exact ⟨none, hlink⟩

theorem fd_run_pin (path : Path) (link : Link) (s : σ) :
  ((pin K path).run.run (link, s)).2.1.fd = link.fd
  := by
  obtain ⟨pinned, hhandle⟩ := handle_run_pin K path link s
  rw [hhandle]

theorem fd_run_unpin (link : Link) (s : σ) :
  ((unpin K).run.run (link, s)).2.1.fd = link.fd
  := by
  obtain ⟨pinned, hhandle⟩ := handle_run_unpin K link s
  rw [hhandle]

end Link

namespace Memory

/-! ### What a kernel in memory keeps -/

/-- What the record of a link says apart from its program. -/
def LinkRecord.apartFromProgram (link : LinkRecord) : LinkRecord := { link with programId := 0 }

/-- What the record of a link says apart from whether it is detached. -/
def LinkRecord.apartFromDetached (link : LinkRecord) : LinkRecord := { link with detached := false }

namespace State

variable {s s' : State}

/-- The state apart from what is counted, and from whether the program has stopped. -/
def uncounted (s : State) : State := { s with calls := .empty, stopped := false }

/-- What a function makes of the record under each id. -/
def linkAspects (f : LinkRecord → β) (s : State) (id : UInt32) : Option β :=
  (s.links.get? id).map f

theorem linkAspects_recorded {f : LinkRecord → β} {id : UInt32} {old new : LinkRecord}
    (hold : s.links.get? id = some old) (hsame : f new = f old) :
  (s.recorded id new).linkAspects f = s.linkAspects f
  := by
  funext other
  rw [linkAspects, linkAspects, recorded, Table.get?_insert]
  split
  next hid => rw [hid, hold, Option.map_some, Option.map_some, hsame]
  next => rfl

/-- A new program changes neither links nor pins. -/
theorem kept_loadProgram (load : ProgramLoad) (s : State) :
  ((loadProgram load).run.run s).2.links = s.links
    ∧ ((loadProgram load).run.run s).2.pins = s.pins
  := by
  obtain heq | heq | ⟨-, heq | ⟨-, heq⟩⟩ := snd_loadProgram load s
  · rw [heq]
    exact ⟨rfl, rfl⟩
  · rw [heq]
    exact ⟨rfl, rfl⟩
  · rw [heq]
    exact ⟨rfl, rfl⟩
  · rw [heq]
    exact ⟨rfl, rfl⟩

/-- A new link changes no pin. -/
theorem pins_addLink (link : UInt32 → LinkRecord) (s : State) :
  ((addLink link).run.run s).2.pins = s.pins
  := by
  obtain heq | ⟨-, heq | ⟨-, heq⟩⟩ := snd_addLink link s
  · rw [heq]
    rfl
  · rw [heq]
    rfl
  · rw [heq]
    rfl

theorem pins_createLink (request : LinkCreate) (s : State) :
  ((createLink request).run.run s).2.pins = s.pins
  := by
  obtain ⟨e, hrun⟩ | ⟨id, programType, loaded, -, -, -, hrun⟩ := createLink_cases request s
  · rw [hrun]
  · rw [hrun, pins_addLink]

theorem pins_openRawTracepoint (name : Option NulFree) (program : Descriptor) (s : State) :
  ((openRawTracepoint name program).run.run s).2.pins = s.pins
  := by
  obtain ⟨e, hrun⟩ | ⟨id, programType, loaded, attachType, -, -, hrun⟩ :=
    openRawTracepoint_cases name program s
  · rw [hrun]
  · rw [hrun, pins_addLink]

/-- What a request can do to the links and the pins of a state.  A link that has been detached stays as
it is, and nothing is pinned in place of something else. -/
inductive Effect (s : State) (request : Request) (s' : State) : Prop where
  | none (hlinks : s'.links = s.links) (hpins : s'.pins = s.pins)
  | addLink (hrequest : request.AddsLink) (hpins : s'.pins = s.pins)
  | changeLink (id : UInt32) (old new : LinkRecord) (hold : s.links.get? id = some old)
    (hdetached : old.detached = true → new = old) (hlinks : s'.links = s.links.insert id new)
    (hpins : s'.pins = s.pins)
  | pin (names : List String) (object : Object) (hfree : s.pins.get? names = Option.none)
    (hlinks : s'.links = s.links) (hpins : s'.pins = s.pins.insert names object)
  | unpin (path : Path) (hrequest : request = .removePin path) (hlinks : s'.links = s.links)
    (hpins : s'.pins = s.pins.erase path.components)

end State

namespace Machine

variable {settings : Settings} {m m' : Machine η}

/-- Every request has one of the effects that there are. -/
theorem effect_after (settings : Settings) (m : Machine η) (request : Request) :
  m.state.Effect request ((kernel settings {}).after m request).state
  := by
  cases request with
  | loadProgram load =>
      obtain ⟨hlinks, hpins⟩ := State.kept_loadProgram load (m.state.counted Command.progLoad)
      exact .none hlinks hpins
  | createLink create =>
      have hpins := State.pins_createLink create (m.state.counted Command.linkCreate)
      exact .addLink trivial hpins
  | openRawTracepoint name program =>
      have hpins := State.pins_openRawTracepoint name program
        (m.state.counted Command.rawTracepointOpen)
      exact .addLink trivial hpins
  | updateLink link program old =>
      apply holds_request (P := m.state.Effect _) (State.refuses_updateLink link program old)
        (.none rfl rfl)
      intro u s' h
      obtain ⟨id, record, new, programType, attachType, -, hrecord, hattached, -, rfl⟩ :=
        State.updateLink_eq_ok h
      have hold : m.state.links.get? id = some record := hrecord
      refine .changeLink id record _ hold ?_ rfl rfl
      intro hdetached
      rw [hdetached] at hattached
      cases hattached
  | detachLink link =>
      apply holds_request (P := m.state.Effect _) (State.refuses_detachLink link) (.none rfl rfl)
      intro u s' h
      obtain ⟨id, record, -, hrecord, rfl⟩ := State.detachLink_eq_ok h
      have hold : m.state.links.get? id = some record := hrecord
      refine .changeLink id record _ hold ?_ rfl rfl
      intro hdetached
      rw [← hdetached]
  | openLink id =>
      apply holds_request (P := m.state.Effect _) (State.refuses_openLink id) (.none rfl rfl)
      intro fd s' h
      obtain ⟨-, -, -, rfl⟩ := State.openLink_eq_ok h
      exact .none rfl rfl
  | pin fd path =>
      apply holds_request (P := m.state.Effect _) (State.refuses_pin fd path) (.none rfl rfl)
      intro u s' h
      obtain ⟨object, -, hfree, rfl⟩ := State.pin_eq_ok h
      exact .pin path.components object hfree rfl rfl
  | openPin path flags =>
      apply holds_request (P := m.state.Effect _) (State.refuses_openPin path flags)
        (.none rfl rfl)
      intro fd s' h
      obtain ⟨object, -, -, -, rfl⟩ := State.openPin_eq_ok h
      exact .none rfl rfl
  | removePin path =>
      show m.state.Effect _ (((kernel settings {}).removePin path).run m).2.state
      rw [run_removePin]
      split
      next => exact .unpin path rfl rfl rfl
      next => exact .none rfl rfl
  | programInfo fd => exact .none rfl rfl
  | attachProgram attach => exact .none rfl rfl
  | queryPrograms target attachType => exact .none rfl rfl
  | linkInfo link => exact .none rfl rfl
  | nextLinkId start => exact .none rfl rfl
  | objectType fd => exact .none rfl rfl
  | btfId name => exact .none rfl rfl

/-- A request keeps whatever its operation keeps, if that refuses before it changes anything. -/
theorem keeps_request {call : String} {operation : Action State α} (aspect : State → β)
    (m : Machine η) (hrefuses : operation.Refuses)
    (hcount : ∀ s, aspect (s.counted call) = aspect s)
    (hok : ∀ s answer s', operation.run.run s = (.ok answer, s') → aspect s' = aspect s) :
  aspect (((do count call; change operation : Action (Machine η) α)).run.run m).2.state
    = aspect m.state
  := by
  apply holds_request (P := fun s => aspect s = aspect m.state) hrefuses (hcount m.state)
  intro answer s' h
  rw [hok _ _ _ h, hcount]

theorem steps_of_leads {kind : Request → Prop} (h : (kernel settings {}).Leads kind m m') :
  State.Steps m.state m'.state
  := by
  induction h with
  | refl => apply Relation.ReflTransGen.refl
  | tail _ hnext ih =>
      obtain ⟨request, -, rfl⟩ := hnext
      apply ih.trans (steps_after settings _ request)

/-- To look changes nothing but what is counted, whatever the script. -/
theorem keeps_of_looks {script : Script η} (h : (kernel settings script).Leads Request.Looks m m') :
  m'.state.uncounted = m.state.uncounted
  := by
  apply h.keeps fun m : Machine η => m.state.uncounted
  intro m request hkind
  cases request with
  | programInfo fd => rfl
  | objectType fd => rfl
  | linkInfo fd => rfl
  | _ => cases hkind

/-- To open changes neither links nor pins. -/
theorem keeps_of_opens (h : (kernel settings {}).Leads Request.Opens m m') :
  (m'.state.links, m'.state.pins) = (m.state.links, m.state.pins)
  := by
  apply h.keeps fun m : Machine η => (m.state.links, m.state.pins)
  rintro m request (hlooks | ⟨path, flags, rfl⟩)
  · have hleads : (kernel settings {}).Leads Request.Looks m ((kernel settings {}).after m request) :=
      Relation.ReflTransGen.single ⟨request, hlooks, rfl⟩
    exact congrArg (fun s => (s.links, s.pins)) (keeps_of_looks hleads)
  · apply keeps_request (fun s => (s.links, s.pins)) m (State.refuses_openPin path flags)
      fun s => rfl
    intro s fd s' hopen
    obtain ⟨object, -, -, -, rfl⟩ := State.openPin_eq_ok hopen
    rfl

/-- To pin changes no link. -/
theorem keeps_of_pins (h : (kernel settings {}).Leads Request.Pins m m') :
  m'.state.links = m.state.links
  := by
  apply h.keeps fun m : Machine η => m.state.links
  intro m request hkind
  cases request with
  | pin fd path =>
      apply keeps_request (fun s => s.links) m (State.refuses_pin fd path) fun s => rfl
      intro s u s' hpin
      obtain ⟨object, -, -, rfl⟩ := State.pin_eq_ok hpin
      rfl
  | removePin path =>
      show (((kernel settings {}).removePin path).run m).2.state.links = _
      rw [run_removePin]
      split
      next => rfl
      next => rfl
  | _ => cases hkind

/-- To swap programs changes no pin, and of a link nothing but its program. -/
theorem keeps_of_swaps (h : (kernel settings {}).Leads Request.Swaps m m') :
  (m'.state.pins, m'.state.linkAspects LinkRecord.apartFromProgram)
    = (m.state.pins, m.state.linkAspects LinkRecord.apartFromProgram)
  := by
  apply h.keeps fun m : Machine η => (m.state.pins, m.state.linkAspects LinkRecord.apartFromProgram)
  intro m request hkind
  cases request with
  | updateLink link program old =>
      apply keeps_request (fun s => (s.pins, s.linkAspects LinkRecord.apartFromProgram)) m
        (State.refuses_updateLink link program old) fun s => rfl
      intro s u s' hupdate
      obtain ⟨id, record, new, programType, attachType, -, hrecord, -, -, rfl⟩ :=
        State.updateLink_eq_ok hupdate
      apply congrArg (Prod.mk s.pins)
      apply State.linkAspects_recorded hrecord
      rfl
  | _ => cases hkind

/-- To detach changes no pin, and of a link nothing but that it is detached. -/
theorem keeps_of_detaches (h : (kernel settings {}).Leads Request.Detaches m m') :
  (m'.state.pins, m'.state.linkAspects LinkRecord.apartFromDetached)
    = (m.state.pins, m.state.linkAspects LinkRecord.apartFromDetached)
  := by
  apply h.keeps fun m : Machine η =>
    (m.state.pins, m.state.linkAspects LinkRecord.apartFromDetached)
  intro m request hkind
  cases request with
  | detachLink link =>
      apply keeps_request (fun s => (s.pins, s.linkAspects LinkRecord.apartFromDetached)) m
        (State.refuses_detachLink link) fun s => rfl
      intro s u s' hdetach
      obtain ⟨id, record, -, hrecord, rfl⟩ := State.detachLink_eq_ok hdetach
      apply congrArg (Prod.mk s.pins)
      apply State.linkAspects_recorded hrecord
      rfl
  | _ => cases hkind

/-! ### Runs -/

variable (settings) {fd : Descriptor} {path : Path} {flags : UInt32} {object : Object}

theorem run_add_of_isEmpty (fd : Descriptor) (hpath : path.isEmpty = true) (m : Machine η) :
  (Pin.add (kernel settings {}) fd path).run.run m = (.error Pin.emptyPath, m)
  := by
  rw [Pin.add, Pin.check, hpath]
  rfl

theorem run_add_of_free (hpath : path.isEmpty = false)
    (hobject : m.state.object? fd = some object)
    (hfree : m.state.pins.get? path.components = none) :
  (Pin.add (kernel settings {}) fd path).run.run m
    = (.ok (), { m with state := (m.state.counted Command.objPin).pinned path.components object })
  := by
  have hpin := State.run_pin_of_free (s := m.state.counted Command.objPin) hobject hfree
  rw [Pin.add, Pin.check, hpath]
  apply run_request hpin

theorem run_add_of_taken {other : Object} (hpath : path.isEmpty = false)
    (hobject : m.state.object? fd = some object)
    (htaken : m.state.pins.get? path.components = some other) :
  (Pin.add (kernel settings {}) fd path).run.run m
    = (.error (.ofErrno Command.objPin Errno.eexist), m.counted Command.objPin)
  := by
  have hpin := State.run_pin_of_taken (s := m.state.counted Command.objPin) hobject htaken
  rw [Pin.add, Pin.check, hpath]
  apply run_request hpin

theorem run_add_of_unknown (hpath : path.isEmpty = false)
    (hobject : m.state.object? fd = none) :
  (Pin.add (kernel settings {}) fd path).run.run m
    = (.error (.ofErrno Command.objPin Errno.ebadf), m.counted Command.objPin)
  := by
  have hpin := State.run_pin_of_unknown (s := m.state.counted Command.objPin) path hobject
  rw [Pin.add, Pin.check, hpath]
  apply run_request hpin

theorem run_remove_of_isEmpty (hpath : path.isEmpty = true) (m : Machine η) :
  (Pin.remove (kernel settings {}) path).run.run m = (.error Pin.emptyPath, m)
  := by
  rw [Pin.remove, Pin.check, hpath]
  rfl

/-- That there is no pin to remove is no failure. -/
theorem run_remove (hpath : path.isEmpty = false) (m : Machine η) :
  (Pin.remove (kernel settings {}) path).run.run m
    = (.ok (), { m with state := (m.state.counted Command.unlink).unpinned path.components })
  := by
  have hrun : (Pin.remove (kernel settings {}) path).run.run m
      = (Pin.removed (((kernel settings {}).removePin path).run m).1,
          (((kernel settings {}).removePin path).run m).2) := by
    rw [Pin.remove, Pin.check, hpath]
    rfl
  rw [hrun, run_removePin]
  cases hpin : m.state.pins.get? path.components with
  | some object =>
      have hcontains : m.state.pins.contains path.components = true := congrArg Option.isSome hpin
      rw [hcontains]
      rfl
  | none =>
      have hcontains : m.state.pins.contains path.components = false := congrArg Option.isSome hpin
      have herase : m.state.pins.erase path.components = m.state.pins :=
        Assoc.erase_of_get?_eq_none hpin
      have hunpinned : (m.state.counted Command.unlink).unpinned path.components
          = m.state.counted Command.unlink := by
        rw [State.unpinned]
        exact congrArg (fun pins => { m.state.counted Command.unlink with pins }) herase
      rw [hcontains, hunpinned]
      rfl

/-- The flags say nothing but how a pin may be opened. -/
def ForOpening (flags : UInt32) : Prop :=
  flags &&& (0xffffffff ^^^ (Flag.readOnly ||| Flag.writeOnly)) = 0

theorem openPin_of_forOpening (s : State) (path : Path) (hflags : ForOpening flags) :
  (State.openPin path flags).run.run s
    = match s.pins.get? path.components with
      | some object => (State.openObject object).run.run s
      | none => (.error (.ofErrno Command.objGet Errno.enoent), s)
  := by
  have hvalid : ¬ flags &&& (0xffffffff ^^^ (Flag.readOnly ||| Flag.writeOnly)) ≠ 0 :=
    not_not_intro hflags
  rw [State.openPin, if_neg hvalid]
  show (match s.pins.get? path.components with
    | some object => State.openObject object
    | none => throw (.ofErrno Command.objGet Errno.enoent) : Action State Descriptor).run.run s = _
  split
  next => rfl
  next => rfl

theorem run_openPin_of_flags (path : Path) (hflags : ¬ ForOpening flags) (m : Machine η) :
  ((kernel settings {}).openPin path flags).run.run m
    = (.error (.ofErrno Command.objGet Errno.einval), m.counted Command.objGet)
  := by
  have hinvalid : flags &&& (0xffffffff ^^^ (Flag.readOnly ||| Flag.writeOnly)) ≠ 0 := hflags
  apply run_request
  rw [State.openPin, if_pos hinvalid]
  rfl

theorem run_openPin_of_free (hflags : ForOpening flags)
    (hfree : m.state.pins.get? path.components = none) :
  ((kernel settings {}).openPin path flags).run.run m
    = (.error (.ofErrno Command.objGet Errno.enoent), m.counted Command.objGet)
  := by
  have hfree : (m.state.counted Command.objGet).pins.get? path.components = none := hfree
  apply run_request
  rw [openPin_of_forOpening _ path hflags, hfree]

/-- The machine after an object has been opened at its pin. -/
def openedPin (m : Machine η) (object : Object) : Machine η :=
  { m with state := (m.state.counted Command.objGet).opened object }

theorem run_openPin_of_pinned (hflags : ForOpening flags)
    (hpin : m.state.pins.get? path.components = some object) (hfd : m.state.HasDescriptors) :
  ((kernel settings {}).openPin path flags).run.run m
    = (.ok m.state.nextDescriptor, m.openedPin object)
  := by
  have hpin : (m.state.counted Command.objGet).pins.get? path.components = some object := hpin
  apply run_request
  rw [openPin_of_forOpening _ path hflags, hpin]
  apply State.run_openObject (s := m.state.counted Command.objGet) object hfd

theorem run_openPin_of_device {failure : IoError} (hflags : ForOpening flags)
    (hpin : m.state.pins.get? path.components = some object)
    (hdevice : m.state.device = some failure) :
  ((kernel settings {}).openPin path flags).run.run m
    = (.error (.io failure), m.counted Command.objGet)
  := by
  have hpin : (m.state.counted Command.objGet).pins.get? path.components = some object := hpin
  apply run_request
  rw [openPin_of_forOpening _ path hflags, hpin]
  apply State.run_openObject_of_device (s := m.state.counted Command.objGet) object hdevice

/-- A program is reported on. -/
theorem run_programInfo {id : UInt32} {programType : ProgramType} {attachType : Option AttachType}
    (hobject : m.state.object? fd = some (.program id programType attachType)) :
  ((kernel settings {}).programInfo fd).run.run m = (.ok ⟨programType, id, ""⟩, m)
  := by
  have hinfo : m.state.programInfo fd = .ok ⟨programType, id, ""⟩ := by
    simp only [State.programInfo, State.program, hobject, bind, Except.bind]
    rfl
  show (m.state.programInfo fd, m) = _
  rw [hinfo]

theorem run_objectType (hobject : m.state.object? fd = some object) :
  ((kernel settings {}).objectType fd).run.run m = (.ok object.objectType, m)
  := by
  have htype : m.state.objectType fd = .ok object.objectType := by
    rw [State.objectType, hobject]
  show (m.state.objectType fd, m) = _
  rw [htype]

/-- Only a link is reported on as a link. -/
theorem run_linkInfo_of_not_link (hobject : m.state.object? fd = some object)
    (hlink : object.objectType ≠ .link) :
  ((kernel settings {}).linkInfo fd).run.run m
    = (.error (.ofErrno Command.infoByFd Errno.einval), m.counted Command.infoByFd)
  := by
  have hobject : (m.state.counted Command.infoByFd).object? fd = some object := hobject
  have hinfo : (m.state.counted Command.infoByFd).linkInfo settings.infoLength fd
      = .error (.ofErrno Command.infoByFd Errno.einval) := by
    cases object with
    | link id => exact absurd rfl hlink
    | program id programType attachType =>
        simp only [State.linkInfo, State.linkId, hobject, bind, Except.bind]
    | map => simp only [State.linkInfo, State.linkId, hobject, bind, Except.bind]
  show ((m.state.counted Command.infoByFd).linkInfo settings.infoLength fd, _) = _
  rw [hinfo]
  rfl

theorem run_queryInfo {id : UInt32} {record : LinkRecord} {info : LinkInfo}
    (hobject : m.state.object? fd = some (.link id))
    (hrecord : m.state.links.get? id = some record)
    (hinfo : Link.readInfo (record.report settings.infoLength) = .ok info) :
  (Link.queryInfo (kernel settings {}) fd).run.run m = (.ok info, m.counted Command.infoByFd)
  := by
  rw [run_queryInfo_report settings hobject hrecord, hinfo]

/-- What a reply on a link tells, if it goes as far as the id. -/
theorem run_queryInfo_of_le (hlength : ∀ n, settings.infoLength = some n → 8 ≤ n) {id : UInt32}
    {record : LinkRecord} (hobject : m.state.object? fd = some (.link id))
    (hrecord : m.state.links.get? id = some record) :
  ∃ info, (Link.queryInfo (kernel settings {}) fd).run.run m = (.ok info, m.counted Command.infoByFd)
    ∧ info.linkType = Code.ofRaw (Code.raw record.linkType) ∧ info.id = record.id
  := by
  obtain ⟨info, hinfo, htype, hid⟩ := record.readInfo_report_of_le hlength
  exact ⟨info, run_queryInfo settings hobject hrecord hinfo, htype, hid⟩

theorem run_ofDescriptor_of_le (hlength : ∀ n, settings.infoLength = some n → 8 ≤ n) {id : UInt32}
    {record : LinkRecord} (hobject : m.state.object? fd = some (.link id))
    (hrecord : m.state.links.get? id = some record) (pinned : Option Path) :
  (Link.ofDescriptor (kernel settings {}) fd pinned).run.run m
    = (.ok ⟨Code.ofRaw (Code.raw record.linkType), some fd, pinned⟩, m.counted Command.infoByFd)
  := by
  obtain ⟨info, hquery, htype, -⟩ := run_queryInfo_of_le settings hlength hobject hrecord
  rw [Link.ofDescriptor, Action.run_bind_of_ok hquery, htype]
  rfl

/-- No handle is made on a link if a reply on it does not reach the id. -/
theorem run_ofDescriptor_of_lt (hshort : settings.infoLength.getD LinkInfo.size < 8) {id : UInt32}
    {record : LinkRecord} (hobject : m.state.object? fd = some (.link id))
    (hrecord : m.state.links.get? id = some record) (pinned : Option Path) :
  (Link.ofDescriptor (kernel settings {}) fd pinned).run.run m
    = (.error (.fatal
          s!"link info truncated to {settings.infoLength.getD LinkInfo.size} bytes"),
        m.counted Command.infoByFd)
  := by
  have hquery := run_queryInfo_report settings hobject hrecord
  rw [record.readInfo_report_of_lt hshort] at hquery
  rw [Link.ofDescriptor, Action.run_bind_of_error hquery]

theorem run_ofDescriptor_of_not_link (hobject : m.state.object? fd = some object)
    (hlink : object.objectType ≠ .link) (pinned : Option Path) :
  (Link.ofDescriptor (kernel settings {}) fd pinned).run.run m
    = (.error (.ofErrno Command.infoByFd Errno.einval), m.counted Command.infoByFd)
  := by
  have hinfo := run_linkInfo_of_not_link settings hobject hlink
  have hquery : (Link.queryInfo (kernel settings {}) fd).run.run m
      = (.error (.ofErrno Command.infoByFd Errno.einval), m.counted Command.infoByFd) := by
    rw [Link.queryInfo, Action.run_bind_of_error hinfo]
  rw [Link.ofDescriptor, Action.run_bind_of_error hquery]

/-- An open handle tells the id of its link. -/
theorem run_id_of_le (hlength : ∀ n, settings.infoLength = some n → 8 ≤ n) {link : Link}
    {id : UInt32} {record : LinkRecord} (hopen : link.fd = some fd)
    (hobject : m.state.object? fd = some (.link id))
    (hrecord : m.state.links.get? id = some record) :
  (link.id (kernel settings {})).run.run m = (.ok record.id, m.counted Command.infoByFd)
  := by
  obtain ⟨info, hquery, -, hid⟩ := run_queryInfo_of_le settings hlength hobject hrecord
  obtain ⟨linkType, handle, pinned⟩ := link
  cases hopen
  have hinfo : (Link.info (kernel settings {}) ⟨linkType, some fd, pinned⟩).run.run m
      = (.ok info, m.counted Command.infoByFd) := hquery
  rw [Link.id, Action.run_bind_of_ok hinfo, ← hid]
  rfl

/-! ### Opening a pin -/

theorem run_loadPinned_of_isEmpty (hpath : path.isEmpty = true) (flags : UInt32) (m : Machine η) :
  (Link.loadPinned (kernel settings {}) path flags).run.run m = (.error Pin.emptyPath, m)
  := by
  rw [Link.loadPinned, Pin.check, hpath]
  rfl

/-- An open handle is what a pin that cannot be opened does not give. -/
theorem run_loadPinned_of_error {e : Error} (hpath : path.isEmpty = false)
    (hopen : ((kernel settings {}).openPin path flags).run.run m = (.error e, m')) :
  (Link.loadPinned (kernel settings {}) path flags).run.run m = (.error e, m')
  := by
  rw [Link.loadPinned, Pin.check, hpath]
  apply Action.run_bind_of_error hopen

theorem run_loadPinned_of_ok (hpath : path.isEmpty = false)
    (hopen : ((kernel settings {}).openPin path flags).run.run m = (.ok fd, m')) :
  (Link.loadPinned (kernel settings {}) path flags).run.run m
    = (Link.ofDescriptor (kernel settings {}) fd (some path)).run.run m'
  := by
  rw [Link.loadPinned, Pin.check, hpath]
  apply Action.run_bind_of_ok hopen

theorem run_load_of_isEmpty (hpath : path.isEmpty = true) (m : Machine η) :
  (Pinned.load (kernel settings {}) path).run.run m = (.error Pin.emptyPath, m)
  := by
  rw [Pinned.load, Pin.check, hpath]
  rfl

theorem run_load_of_error {e : Error} (hpath : path.isEmpty = false)
    (hopen : ((kernel settings {}).openPin path 0).run.run m = (.error e, m')) :
  (Pinned.load (kernel settings {}) path).run.run m = (.error e, m')
  := by
  rw [Pinned.load, Pin.check, hpath]
  apply Action.run_bind_of_error hopen

/-- The handle on an object that has been found at a pin. -/
def found (K : Kernel σ) (path : Path) (fd : Descriptor) : ObjectType → Action σ Pinned
  | .map => pure (.map fd)
  | .program => do return .program (← Program.ofDescriptor K fd)
  | .link => do return .link (← Link.ofDescriptor K fd (some path))

theorem run_load_of_ok (hpath : path.isEmpty = false)
    (hopen : ((kernel settings {}).openPin path 0).run.run m = (.ok fd, m'))
    (hobject : m'.state.object? fd = some object) :
  (Pinned.load (kernel settings {}) path).run.run m
    = (found (kernel settings {}) path fd object.objectType).run.run m'
  := by
  have htype := run_objectType settings hobject
  rw [Pinned.load, Pin.check, hpath]
  apply (Action.run_bind_of_ok hopen).trans
  apply (Action.run_bind_of_ok htype).trans
  cases object.objectType with
  | map => rfl
  | program => rfl
  | link => rfl

/-! ### Runs that succeed -/

variable {settings}

theorem run_linkInfo_eq_ok {raw : RawLinkInfo}
    (h : ((kernel settings {}).linkInfo fd).run.run m = (.ok raw, m')) :
  (∃ id, m.state.object? fd = some (.link id)) ∧ m' = m.counted Command.infoByFd
  := by
  have hrun : ((m.counted Command.infoByFd).state.linkInfo settings.infoLength fd,
      m.counted Command.infoByFd) = (.ok raw, m') := h
  obtain ⟨hinfo, rfl⟩ := Prod.mk.inj hrun
  obtain ⟨id, hid, -⟩ := exists_of_bind_eq_ok hinfo
  exact ⟨⟨id, State.linkId_eq_ok hid⟩, rfl⟩

theorem run_programInfo_eq_ok {info : ProgramInfo}
    (h : ((kernel settings {}).programInfo fd).run.run m = (.ok info, m')) :
  (∃ attachType, m.state.object? fd = some (.program info.id info.programType attachType))
    ∧ m' = m
  := by
  have hrun : (m.state.programInfo fd, m) = (.ok info, m') := h
  obtain ⟨hinfo, rfl⟩ := Prod.mk.inj hrun
  obtain ⟨found, hfound, hinfo⟩ := exists_of_bind_eq_ok hinfo
  cases hinfo
  exact ⟨⟨_, State.program_eq_ok hfound⟩, rfl⟩

theorem run_openPin_eq_ok
    (h : ((kernel settings {}).openPin path flags).run.run m = (.ok fd, m')) :
  ∃ object, m.state.pins.get? path.components = some object
    ∧ fd = m.state.nextDescriptor ∧ m'.state.object? fd = some object
    ∧ m'.state.pins = m.state.pins
  := by
  obtain ⟨object, -, hpin, rfl, hstate⟩ := State.openPin_eq_ok (run_request_eq h)
  refine ⟨object, hpin, rfl, ?_, ?_⟩
  · rw [hstate]
    apply State.object?_opened
  · rw [hstate]
    rfl

/-- A handle is made only for a descriptor of a link. -/
theorem run_ofDescriptor_eq_ok {pinned : Option Path} {link : Link}
    (h : (Link.ofDescriptor (kernel settings {}) fd pinned).run.run m = (.ok link, m')) :
  ∃ id linkType, m.state.object? fd = some (.link id)
    ∧ link = ⟨linkType, some fd, pinned⟩ ∧ m' = m.counted Command.infoByFd
  := by
  obtain ⟨info, t, hquery, h⟩ := Action.exists_of_run_bind_ok h
  obtain ⟨rfl, rfl⟩ := Action.run_pure_eq_ok h
  obtain ⟨raw, u, hraw, hquery⟩ := Action.exists_of_run_bind_ok hquery
  obtain ⟨-, rfl⟩ := Action.run_ofExcept_eq_ok hquery
  obtain ⟨⟨id, hobject⟩, rfl⟩ := run_linkInfo_eq_ok hraw
  exact ⟨id, info.linkType, hobject, rfl, rfl⟩

theorem run_program_ofDescriptor_eq_ok {program : Program}
    (h : (Program.ofDescriptor (kernel settings {}) fd).run.run m = (.ok program, m')) :
  ∃ id programType attachType, m.state.object? fd = some (.program id programType attachType)
    ∧ program = ⟨some fd, programType⟩ ∧ m' = m
  := by
  obtain ⟨info, t, hinfo, h⟩ := Action.exists_of_run_bind_ok h
  obtain ⟨rfl, rfl⟩ := Action.run_pure_eq_ok h
  obtain ⟨⟨attachType, hobject⟩, rfl⟩ := run_programInfo_eq_ok hinfo
  exact ⟨info.id, info.programType, attachType, hobject, rfl, rfl⟩

theorem run_check_eq_ok {u : Unit} (h : (Pin.check path).run.run m = (.ok u, m')) :
  path.isEmpty = false ∧ m' = m
  := by
  unfold Pin.check at h
  split at h
  next => cases h
  next hpath =>
    cases h
    exact ⟨Bool.eq_false_iff.2 hpath, rfl⟩

/-- A handle loaded from a path is on the link that is pinned there. -/
theorem run_loadPinned_eq_ok {link : Link}
    (h : (Link.loadPinned (kernel settings {}) path flags).run.run m = (.ok link, m')) :
  ∃ id linkType fd, m.state.pins.get? path.components = some (.link id)
    ∧ link = ⟨linkType, some fd, some path⟩ ∧ m'.state.object? fd = some (.link id)
  := by
  obtain ⟨u, t, hcheck, hrest⟩ := Action.exists_of_run_bind_ok h
  obtain ⟨-, rfl⟩ := run_check_eq_ok hcheck
  obtain ⟨fd, t, hopen, hlast⟩ := Action.exists_of_run_bind_ok hrest
  obtain ⟨object, hpin, -, hobject, -⟩ := run_openPin_eq_ok hopen
  obtain ⟨id, linkType, hlink, rfl, rfl⟩ := run_ofDescriptor_eq_ok hlast
  rw [hobject] at hlink
  cases hlink
  exact ⟨id, linkType, fd, hpin, rfl, hobject⟩

/-- What is found at a path is what is pinned there. -/
theorem run_load_eq_ok {pinned : Pinned}
    (h : (Pinned.load (kernel settings {}) path).run.run m = (.ok pinned, m')) :
  ∃ object fd, m.state.pins.get? path.components = some object
    ∧ m'.state.object? fd = some object
    ∧ match object with
      | .map => pinned = .map fd
      | .program _ programType _ => pinned = .program ⟨some fd, programType⟩
      | .link _ => ∃ linkType, pinned = .link ⟨linkType, some fd, some path⟩
  := by
  obtain ⟨u, t, hcheck, hrest⟩ := Action.exists_of_run_bind_ok h
  obtain ⟨hpath, rfl⟩ := run_check_eq_ok hcheck
  obtain ⟨fd, t, hopen, hlast⟩ := Action.exists_of_run_bind_ok hrest
  obtain ⟨object, hpin, -, hobject, -⟩ := run_openPin_eq_ok hopen
  rw [run_load_of_ok settings hpath hopen hobject] at h
  refine ⟨object, fd, hpin, ?_⟩
  cases object with
  | map =>
      obtain ⟨rfl, rfl⟩ := Action.run_pure_eq_ok h
      exact ⟨hobject, rfl⟩
  | program id programType attachType =>
      obtain ⟨program, t', hprogram, hpure⟩ := Action.exists_of_run_bind_ok h
      obtain ⟨rfl, rfl⟩ := Action.run_pure_eq_ok hpure
      obtain ⟨id', type', attachType', hobject', rfl, rfl⟩ := run_program_ofDescriptor_eq_ok hprogram
      rw [hobject] at hobject'
      cases hobject'
      exact ⟨hobject, rfl⟩
  | link id =>
      obtain ⟨link, t', hlink, hpure⟩ := Action.exists_of_run_bind_ok h
      obtain ⟨rfl, rfl⟩ := Action.run_pure_eq_ok hpure
      obtain ⟨id', linkType, -, rfl, rfl⟩ := run_ofDescriptor_eq_ok hlink
      exact ⟨hobject, linkType, rfl⟩

end Machine

end Memory

end Bpf
