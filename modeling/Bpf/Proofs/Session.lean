import Bpf.Proofs.NewLinks

/-!
# Sessions

A `Session` is a kernel in memory together with the handles that have been opened on it.  An
`Operation` goes through one of the handles, makes another one, removes a pin, or stands for something
that happens to the kernel elsewhere.  Handles are never lost and stay on the object they were opened
on (`Session.Sound`), whatever is done in whatever order.
-/

namespace Bpf

open Memory

variable {η α : Type}

/-- A handle on a link in a session. -/
structure Session.Handle where
  link : Link
  /-- The descriptor with which the handle was opened. -/
  opened : Option Descriptor
deriving DecidableEq

/-- A kernel in memory with the handles that have been opened on it. -/
structure Session (η : Type) where
  programs : List Program
  links : List Session.Handle
  machine : Machine η

namespace Session

/-- Something that is done in a session; handles are numbered in the order in which they were made.
`attach` is how every attachment ends, and an iterator makes its handles by `openLink`. -/
inductive Operation where
  | event (event : Event)
  | attach (request : LinkRequest) (linkType : LinkType)
  | openProgram (fd : Descriptor)
  | openLink (fd : Descriptor)
  | load (path : Path)
  | loadPinned (path : Path) (flags : UInt32)
  | pinProgram (program : Nat) (path : Path)
  | pinLink (link : Nat) (path : Path)
  | unpinLink (link : Nat)
  | unpin (path : Path)
  | update (link program : Nat)
  | replace (link program old : Nat)
  | detach (link : Nat)
  | closeProgram (program : Nat)
  | closeLink (link : Nat)

/-! ### Performing operations -/

/-- A session without handles. -/
def start (m : Machine η) : Session η := ⟨[], [], m⟩

/-- The state of the kernel. -/
def state (s : Session η) : State := s.machine.state

/-- What the program with a number hands over, as if closed if there is none. -/
def program (s : Session η) (i : Nat) : ProgramHandle := s.programs[i]?.bind Program.fd

/-- The session with another handle. -/
def keep (s : Session η) : Pinned → Session η
  | .map _ => s
  | .program program => { s with programs := s.programs ++ [program] }
  | .link link => { s with links := s.links ++ [⟨link, link.fd⟩] }

/-- Opens an object and keeps the handle on it. -/
def opening (action : Action (Machine η) Pinned) (s : Session η) :
    Except Error (Option Pinned) × Session η :=
  match action.run.run s.machine with
  | (.ok found, machine) => (.ok (some found), keep { s with machine } found)
  | (.error e, machine) => (.error e, { s with machine })

/-- Asks the kernel for something. -/
def asking (action : Action (Machine η) Unit) (s : Session η) :
    Except Error (Option Pinned) × Session η :=
  match action.run.run s.machine with
  | (.ok _, machine) => (.ok none, { s with machine })
  | (.error e, machine) => (.error e, { s with machine })

/-- Lets the handle with a number do something that may change it. -/
def changing (i : Nat) (action : Action (Link × Machine η) Unit) (s : Session η) :
    Except Error (Option Pinned) × Session η :=
  match s.links[i]? with
  | none => (.ok none, s)
  | some handle =>
    match action.run.run (handle.link, s.machine) with
    | (.ok _, link, machine) =>
      (.ok none, { s with links := s.links.set i { handle with link }, machine })
    | (.error e, link, machine) =>
      (.error e, { s with links := s.links.set i { handle with link }, machine })

/-- Lets the handle with a number ask the kernel for something. -/
def through (i : Nat) (action : Link → Action (Machine η) Unit) (s : Session η) :
    Except Error (Option Pinned) × Session η :=
  match s.links[i]? with
  | none => (.ok none, s)
  | some handle => asking (action handle.link) s

/-- The answer to an operation, and the session after it.  A load answers with what it found. -/
def perform (settings : Settings) (s : Session η) :
    Operation → Except Error (Option Pinned) × Session η
  | .event event => (.ok none, { s with machine := event.apply settings s.machine })
  | .attach request linkType =>
    opening (Pinned.link <$> Link.ofRequest (kernel settings {}) request linkType) s
  | .openProgram fd => opening (Pinned.program <$> Program.ofDescriptor (kernel settings {}) fd) s
  | .openLink fd => opening (Pinned.link <$> Link.ofDescriptor (kernel settings {}) fd none) s
  | .load path => opening (Pinned.load (kernel settings {}) path) s
  | .loadPinned path flags =>
    opening (Pinned.link <$> Link.loadPinned (kernel settings {}) path flags) s
  | .pinProgram i path =>
    match s.programs[i]? with
    | none => (.ok none, s)
    | some program => asking (program.pin (kernel settings {}) path) s
  | .pinLink i path => changing i (Link.pin (kernel settings {}) path) s
  | .unpinLink i => changing i (Link.unpin (kernel settings {})) s
  | .unpin path => asking (Pin.remove (kernel settings {}) path) s
  | .update i j => through i (fun link => link.update (kernel settings {}) (s.program j)) s
  | .replace i j k =>
    through i (fun link => link.replace (kernel settings {}) (s.program j) (s.program k)) s
  | .detach i => through i (fun link => link.detach (kernel settings {})) s
  | .closeProgram i => (.ok none, { s with programs := s.programs.modify i Program.close })
  | .closeLink i => changing i (modify fun s => (s.1.close, s.2)) s

/-- The session after a list of operations. -/
def run (settings : Settings) (s : Session η) (ops : List Operation) : Session η :=
  ops.foldl (fun s op => (s.perform settings op).2) s

theorem run_append (settings : Settings) (s : Session η) (first second : List Operation) :
  s.run settings (first ++ second) = (s.run settings first).run settings second
  := by
  apply List.foldl_append

theorem run_concat (settings : Settings) (s : Session η) (ops : List Operation) (op : Operation) :
  s.run settings (ops ++ [op]) = ((s.run settings ops).perform settings op).2
  := by
  apply run_append

/-! ### Requests of operations -/

/-- The operation is on what there is: nothing is attached, and nothing happens elsewhere. -/
def Operation.Own : Operation → Prop
  | .event _ => False
  | .attach _ _ => False
  | _ => True

/-- What an operation on what there is asks for. -/
def Operation.kind : Operation → Request → Prop
  | .pinProgram _ _ => Request.Pins
  | .pinLink _ _ => Request.Pins
  | .unpinLink _ => Request.Pins
  | .unpin _ => Request.Pins
  | .update _ _ => Request.Swaps
  | .replace _ _ _ => Request.Swaps
  | .detach _ => Request.Detaches
  | _ => Request.Opens

section Leads

variable {settings : Settings} {kind : Request → Prop}

@[simp]
theorem machine_keep (s : Session η) (found : Pinned) :
  (s.keep found).machine = s.machine
  := by
  cases found with
  | map fd => rfl
  | program program => rfl
  | link link => rfl

theorem machine_opening (action : Action (Machine η) Pinned) (s : Session η) :
  (opening action s).2.machine = (action.run.run s.machine).2
  := by
  unfold opening
  split
  next hrun => rw [hrun, machine_keep]
  next hrun => rw [hrun]

theorem asking_snd (action : Action (Machine η) Unit) (s : Session η) :
  (asking action s).2 = { s with machine := (action.run.run s.machine).2 }
  := by
  unfold asking
  split
  next hrun => rw [hrun]
  next hrun => rw [hrun]

theorem changing_snd {i : Nat} {handle : Handle} {s : Session η} (h : s.links[i]? = some handle)
    (action : Action (Link × Machine η) Unit) :
  (changing i action s).2
    = { s with
        links := s.links.set i { handle with link := (action.run.run (handle.link, s.machine)).2.1 }
        machine := (action.run.run (handle.link, s.machine)).2.2 }
  := by
  unfold changing
  split
  next hnone =>
    rw [hnone] at h
    cases h
  next found hfound =>
    rw [hfound] at h
    cases h
    split
    next hrun => rw [hrun]
    next hrun => rw [hrun]

theorem leads_through (i : Nat) {action : Link → Action (Machine η) Unit}
    (h : ∀ link, (action link).Asks (kernel settings {}) kind) (s : Session η) :
  (kernel settings {}).Leads kind s.machine (through i action s).2.machine
  := by
  unfold through
  split
  next => apply Relation.ReflTransGen.refl
  next handle hhandle =>
    rw [asking_snd]
    apply h

theorem leads_changing (i : Nat) {action : Action (Link × Machine η) Unit}
    (h : ∀ link m, (kernel settings {}).Leads kind m (action.run.run (link, m)).2.2)
    (s : Session η) :
  (kernel settings {}).Leads kind s.machine (changing i action s).2.machine
  := by
  cases hhandle : s.links[i]? with
  | none =>
      rw [changing, hhandle]
      apply Relation.ReflTransGen.refl
  | some handle =>
      rw [changing_snd hhandle]
      apply h

theorem leads_pin (path : Path) (link : Link) (m : Machine η) :
  (kernel settings {}).Leads Request.Pins m
    ((Link.pin (kernel settings {}) path).run.run (link, m)).2.2
  := by
  rw [Link.run_pin]
  split
  next => apply Relation.ReflTransGen.refl
  next =>
    split
    next => apply Relation.ReflTransGen.refl
    next =>
      split
      next => apply Relation.ReflTransGen.refl
      next fd hfd =>
        have hadd := Pin.asks_add (kernel settings {}) fd path m
        split
        next hrun =>
          rw [hrun] at hadd
          apply hadd
        next hrun =>
          rw [hrun] at hadd
          apply hadd

theorem leads_unpin (link : Link) (m : Machine η) :
  (kernel settings {}).Leads Request.Pins m
    ((Link.unpin (kernel settings {})).run.run (link, m)).2.2
  := by
  rw [Link.run_unpin]
  split
  next => apply Relation.ReflTransGen.refl
  next path hpath =>
    have hremove := Pin.asks_remove (kernel settings {}) path m
    split
    next hrun =>
      rw [hrun] at hremove
      apply hremove
    next hrun =>
      rw [hrun] at hremove
      apply hremove

theorem leads_attach (settings : Settings) (s : Session η) (request : LinkRequest)
    (linkType : LinkType) :
  (kernel settings {}).Leads Request.Attaches s.machine
    (s.perform settings (.attach request linkType)).2.machine
  := by
  rw [perform, machine_opening]
  apply (Link.asks_ofRequest _ request linkType).map

/-- An operation makes only requests of its kind. -/
theorem leads_perform (settings : Settings) (s : Session η) {op : Operation} (h : op.Own) :
  (kernel settings {}).Leads op.kind s.machine (s.perform settings op).2.machine
  := by
  cases op with
  | event event => cases h
  | attach request linkType => cases h
  | openProgram fd =>
      rw [perform, machine_opening]
      apply ((Program.asks_ofDescriptor _ fd).mono Request.Looks.opens).map
  | openLink fd =>
      rw [perform, machine_opening]
      apply ((Link.asks_ofDescriptor _ fd none).mono Request.Looks.opens).map
  | load path =>
      rw [perform, machine_opening]
      apply Pinned.asks_load
  | loadPinned path flags =>
      rw [perform, machine_opening]
      apply (Link.asks_loadPinned _ path flags).map
  | pinProgram i path =>
      rw [perform]
      split
      next => apply Relation.ReflTransGen.refl
      next program hprogram =>
        rw [asking_snd]
        apply Program.asks_pin
  | pinLink i path => apply leads_changing i (leads_pin path)
  | unpinLink i => apply leads_changing i leads_unpin
  | unpin path =>
      rw [perform, asking_snd]
      apply Pin.asks_remove
  | update i j =>
      apply leads_through i
      intro link
      apply Link.asks_update
  | replace i j k =>
      apply leads_through i
      intro link
      apply Link.asks_replace
  | detach i =>
      apply leads_through i
      intro link
      apply Link.asks_detach
  | closeProgram i => apply Relation.ReflTransGen.refl
  | closeLink i =>
      apply leads_changing i
      intro link m
      apply Relation.ReflTransGen.refl

end Leads

/-! ### Sound sessions -/

/-- The handle was opened on the link with an id, and has its descriptor until it is closed. -/
def Handle.On (handle : Handle) (id : UInt32) (s : State) : Prop :=
  ∃ fd, handle.opened = some fd ∧ s.object? fd = some (.link id)
    ∧ (handle.link.fd = none ∨ handle.link.fd = some fd)

end Session

/-- The program with an id is handed over. -/
def ProgramHandle.On (program : ProgramHandle) (id : UInt32) (s : State) : Prop :=
  ∃ fd programType attachType, program = some fd
    ∧ s.object? fd = some (.program id programType attachType)

namespace Session

/-- Every handle is on an object of its kind. -/
structure Sound (s : Session η) : Prop where
  valid : s.state.Valid
  programs : ∀ program ∈ s.programs, program.fd = none ∨ ∃ id, ProgramHandle.On program.fd id s.state
  links : ∀ handle ∈ s.links, ∃ id, handle.On id s.state

/-- Descriptors that stand for something go on to stand for it. -/
def Extends (s s' : State) : Prop :=
  ∀ number object, s.object? number = some object → s'.object? number = some object

section Sound

variable {settings : Settings} {s : Session η}

theorem Handle.On.mono {handle : Handle} {id : UInt32} {t t' : State} (h : handle.On id t)
    (hextends : Extends t t') :
  handle.On id t'
  := by
  obtain ⟨fd, hopened, hobject, hfd⟩ := h
  exact ⟨fd, hopened, hextends _ _ hobject, hfd⟩

theorem Handle.On.of_isSome {handle : Handle} {id : UInt32} {t : State} (h : handle.On id t)
    (hopen : handle.link.fd.isSome) :
  ∃ fd, handle.link.fd = some fd ∧ t.object? fd = some (.link id)
  := by
  obtain ⟨fd, -, hobject, hfd | hfd⟩ := h
  · rw [hfd] at hopen
    cases hopen
  · exact ⟨fd, hfd, hobject⟩

theorem Handle.On.id_eq {handle other : Handle} {id id' : UInt32} {t : State}
    (h : handle.On id t) (hother : other.On id' t) (hopened : other.opened = handle.opened) :
  id' = id
  := by
  obtain ⟨fd, hfd, hobject, -⟩ := h
  obtain ⟨fd', hfd', hobject', -⟩ := hother
  rw [hopened, hfd] at hfd'
  cases hfd'
  rw [hobject] at hobject'
  cases hobject'
  rfl

theorem programHandle_on_mono {program : ProgramHandle} {id : UInt32} {t t' : State}
    (h : ProgramHandle.On program id t) (hextends : Extends t t') :
  ProgramHandle.On program id t'
  := by
  obtain ⟨fd, programType, attachType, hopen, hobject⟩ := h
  exact ⟨fd, programType, attachType, hopen, hextends _ _ hobject⟩

/-- An operation takes steps, unless a link is taken out elsewhere. -/
theorem steps_perform (settings : Settings) (s : Session η) (op : Operation) :
  State.Steps s.state (s.perform settings op).2.state ∨ ∃ id, op = .event (.removeLink id)
  := by
  by_cases hown : op.Own
  · left
    apply Machine.steps_of_leads (leads_perform settings s hown)
  · cases op with
    | event event =>
        cases event with
        | removeLink id => exact .inr ⟨id, rfl⟩
        | _ => exact .inl (Event.steps_apply settings s.machine trivial)
    | attach request linkType =>
        left
        apply Machine.steps_of_leads (leads_attach settings s request linkType)
    | _ => exact absurd trivial hown

theorem valid_perform (h : s.state.Valid) (op : Operation) :
  (s.perform settings op).2.state.Valid
  := by
  obtain hsteps | ⟨id, rfl⟩ := steps_perform settings s op
  · apply h.steps hsteps
  · apply h.removeLink

theorem extends_perform (h : s.state.Valid) (op : Operation) :
  Extends s.state (s.perform settings op).2.state
  := by
  intro number object hobject
  obtain hsteps | ⟨id, rfl⟩ := steps_perform settings s op
  · apply h.object?_of_steps hsteps hobject
  · apply hobject

theorem valid_run (h : s.state.Valid) (ops : List Operation) :
  (s.run settings ops).state.Valid
  := by
  induction ops generalizing s with
  | nil => apply h
  | cons op ops ih => apply ih (valid_perform h op)

theorem extends_run (h : s.state.Valid) (ops : List Operation) :
  Extends s.state (s.run settings ops).state
  := by
  induction ops generalizing s with
  | nil =>
      intro number object hobject
      apply hobject
  | cons op ops ih =>
      intro number object hobject
      apply ih (valid_perform h op)
      apply extends_perform h op number object hobject

theorem Sound.withMachine (h : s.Sound) {machine : Machine η} (hvalid : machine.state.Valid)
    (hextends : Extends s.state machine.state) :
  Sound { s with machine }
  where
  valid := hvalid
  programs program hprogram := by
    apply (h.programs program hprogram).imp_right
    rintro ⟨id, hon⟩
    exact ⟨id, programHandle_on_mono hon hextends⟩
  links handle hhandle := by
    obtain ⟨id, hon⟩ := h.links handle hhandle
    exact ⟨id, hon.mono hextends⟩

/-- A handle may do anything with its link but open another descriptor. -/
theorem Sound.set (h : s.Sound) {i : Nat} {handle : Handle} (hhandle : s.links[i]? = some handle)
    {link : Link} (hfd : link.fd = none ∨ link.fd = handle.link.fd) :
  Sound { s with links := s.links.set i { handle with link } }
  where
  valid := h.valid
  programs := h.programs
  links other hother := by
    rcases List.mem_or_eq_of_mem_set hother with hold | rfl
    · apply h.links other hold
    · obtain ⟨id, fd, hopened, hobject, hopen⟩ := h.links handle (List.mem_of_getElem? hhandle)
      refine ⟨id, fd, hopened, hobject, ?_⟩
      rcases hfd with hfd | hfd
      · exact .inl hfd
      · rw [hfd]
        exact hopen

theorem Sound.closeProgram (h : s.Sound) (i : Nat) :
  Sound { s with programs := s.programs.modify i Program.close }
  where
  valid := h.valid
  programs program hprogram := by
    obtain ⟨j, hj⟩ := List.mem_iff_getElem?.1 hprogram
    rw [List.getElem?_modify] at hj
    obtain ⟨old, hold, rfl⟩ := Option.map_eq_some_iff.1 hj
    split
    next => exact .inl rfl
    next => apply h.programs old (List.mem_of_getElem? hold)
  links := h.links

/-- What may be kept: a handle on an object of its kind. -/
def Fits (s : State) : Pinned → Prop
  | .map _ => True
  | .program program => ∃ id, ProgramHandle.On program.fd id s
  | .link link => ∃ id, Handle.On ⟨link, link.fd⟩ id s

theorem Sound.keep (h : s.Sound) {found : Pinned} (hfound : Fits s.state found) :
  (s.keep found).Sound
  := by
  cases found with
  | map fd => exact h
  | program program =>
      refine ⟨h.valid, ?_, h.links⟩
      intro other hother
      rcases List.mem_append.1 hother with hold | hnew
      · apply h.programs other hold
      · rw [List.mem_singleton.1 hnew]
        right
        exact hfound
  | link link =>
      refine ⟨h.valid, h.programs, ?_⟩
      intro other hother
      rcases List.mem_append.1 hother with hold | hnew
      · apply h.links other hold
      · rw [List.mem_singleton.1 hnew]
        exact hfound

theorem run_map_eq_ok {σ β : Type} {x : Action σ α} {f : α → β} {b : β} {t t' : σ}
    (h : (f <$> x).run.run t = (.ok b, t')) :
  ∃ a, x.run.run t = (.ok a, t') ∧ b = f a
  := by
  rw [← bind_pure_comp] at h
  obtain ⟨a, u, hx, hpure⟩ := Action.exists_of_run_bind_ok h
  obtain ⟨rfl, rfl⟩ := Action.run_pure_eq_ok hpure
  exact ⟨a, hx, rfl⟩

section Fits

variable {m m' : Machine η} {fd : Descriptor} {path : Path} {flags : UInt32} {found : Pinned}

theorem fits_attach {request : LinkRequest} {linkType : LinkType}
    (h : (Pinned.link <$> Link.ofRequest (kernel settings {}) request linkType).run.run m
      = (.ok found, m')) :
  Fits m'.state found
  := by
  obtain ⟨link, hrun, rfl⟩ := run_map_eq_ok h
  obtain ⟨known, fd, -, -, -, -, rfl, -, -, hobject, -⟩ := Machine.run_ofRequest_eq_ok hrun
  exact ⟨m.state.nextLinkId, fd, rfl, hobject, .inr rfl⟩

theorem fits_openProgram
    (h : (Pinned.program <$> Program.ofDescriptor (kernel settings {}) fd).run.run m
      = (.ok found, m')) :
  Fits m'.state found
  := by
  obtain ⟨program, hrun, rfl⟩ := run_map_eq_ok h
  obtain ⟨id, programType, attachType, hobject, rfl, rfl⟩ :=
    Machine.run_program_ofDescriptor_eq_ok hrun
  exact ⟨id, fd, programType, attachType, rfl, hobject⟩

theorem fits_openLink
    (h : (Pinned.link <$> Link.ofDescriptor (kernel settings {}) fd none).run.run m
      = (.ok found, m')) :
  Fits m'.state found
  := by
  obtain ⟨link, hrun, rfl⟩ := run_map_eq_ok h
  obtain ⟨id, linkType, hobject, rfl, rfl⟩ := Machine.run_ofDescriptor_eq_ok hrun
  exact ⟨id, fd, rfl, hobject, .inr rfl⟩

theorem fits_loadPinned
    (h : (Pinned.link <$> Link.loadPinned (kernel settings {}) path flags).run.run m
      = (.ok found, m')) :
  Fits m'.state found
  := by
  obtain ⟨link, hrun, rfl⟩ := run_map_eq_ok h
  obtain ⟨id, linkType, fd, -, rfl, hobject⟩ := Machine.run_loadPinned_eq_ok hrun
  exact ⟨id, fd, rfl, hobject, .inr rfl⟩

theorem fits_load
    (h : (Pinned.load (kernel settings {}) path).run.run m = (.ok found, m')) :
  Fits m'.state found
  := by
  obtain ⟨object, fd, -, hobject, hfound⟩ := Machine.run_load_eq_ok h
  cases object with
  | map =>
      cases hfound
      trivial
  | program id programType attachType =>
      cases hfound
      exact ⟨id, fd, programType, attachType, rfl, hobject⟩
  | link id =>
      obtain ⟨linkType, rfl⟩ := hfound
      exact ⟨id, fd, rfl, hobject, .inr rfl⟩

end Fits

theorem Sound.opening (h : s.Sound) {action : Action (Machine η) Pinned}
    (hvalid : (opening action s).2.state.Valid)
    (hextends : Extends s.state (Session.opening action s).2.state)
    (hfits : ∀ found m', action.run.run s.machine = (.ok found, m') → Fits m'.state found) :
  (Session.opening action s).2.Sound
  := by
  have hstate : (Session.opening action s).2.state = (action.run.run s.machine).2.state :=
    congrArg Machine.state (machine_opening action s)
  rw [hstate] at hvalid hextends
  unfold Session.opening
  split
  next found machine hrun =>
    rw [hrun] at hvalid hextends
    apply (h.withMachine hvalid hextends).keep (hfits found machine hrun)
  next e machine hrun =>
    rw [hrun] at hvalid hextends
    apply h.withMachine hvalid hextends

theorem Sound.asking (h : s.Sound) {action : Action (Machine η) Unit}
    (hvalid : (asking action s).2.state.Valid)
    (hextends : Extends s.state (Session.asking action s).2.state) :
  (Session.asking action s).2.Sound
  := by
  rw [asking_snd] at hvalid hextends ⊢
  apply h.withMachine hvalid hextends

theorem Sound.through (h : s.Sound) {i : Nat} {action : Link → Action (Machine η) Unit}
    (hvalid : (through i action s).2.state.Valid)
    (hextends : Extends s.state (Session.through i action s).2.state) :
  (Session.through i action s).2.Sound
  := by
  unfold Session.through at hvalid hextends ⊢
  split
  next => apply h
  next handle hhandle =>
    rw [hhandle] at hvalid hextends
    apply h.asking hvalid hextends

theorem Sound.changing (h : s.Sound) {i : Nat} {action : Action (Link × Machine η) Unit}
    (hvalid : (changing i action s).2.state.Valid)
    (hextends : Extends s.state (Session.changing i action s).2.state)
    (hfd : ∀ link m, (action.run.run (link, m)).2.1.fd = none
      ∨ (action.run.run (link, m)).2.1.fd = link.fd) :
  (Session.changing i action s).2.Sound
  := by
  cases hhandle : s.links[i]? with
  | none =>
      rw [Session.changing, hhandle]
      apply h
  | some handle =>
      rw [changing_snd hhandle] at hvalid hextends ⊢
      apply (h.set hhandle (hfd handle.link s.machine)).withMachine hvalid hextends

/-- Whatever is done, every handle stays on an object of its kind. -/
theorem Sound.perform (h : s.Sound) (op : Operation) :
  (s.perform settings op).2.Sound
  := by
  have hvalid : (s.perform settings op).2.state.Valid := valid_perform h.valid op
  have hextends : Extends s.state (s.perform settings op).2.state := extends_perform h.valid op
  cases op with
  | event event => apply h.withMachine hvalid hextends
  | attach request linkType =>
      apply h.opening hvalid hextends
      intro found m' hrun
      apply fits_attach hrun
  | openProgram fd =>
      apply h.opening hvalid hextends
      intro found m' hrun
      apply fits_openProgram hrun
  | openLink fd =>
      apply h.opening hvalid hextends
      intro found m' hrun
      apply fits_openLink hrun
  | load path =>
      apply h.opening hvalid hextends
      intro found m' hrun
      apply fits_load hrun
  | loadPinned path flags =>
      apply h.opening hvalid hextends
      intro found m' hrun
      apply fits_loadPinned hrun
  | pinProgram i path =>
      rw [Session.perform] at hvalid hextends ⊢
      split
      next => apply h
      next program hprogram =>
        rw [hprogram] at hvalid hextends
        apply h.asking hvalid hextends
  | pinLink i path =>
      apply h.changing hvalid hextends
      intro link m
      right
      apply Link.fd_run_pin
  | unpinLink i =>
      apply h.changing hvalid hextends
      intro link m
      right
      apply Link.fd_run_unpin
  | unpin path => apply h.asking hvalid hextends
  | update i j => apply h.through hvalid hextends
  | replace i j k => apply h.through hvalid hextends
  | detach i => apply h.through hvalid hextends
  | closeProgram i => apply h.closeProgram
  | closeLink i =>
      apply h.changing hvalid hextends
      intro link m
      left
      rfl

theorem Sound.run (h : s.Sound) (ops : List Operation) :
  (s.run settings ops).Sound
  := by
  induction ops generalizing s with
  | nil => apply h
  | cons op ops ih => apply ih (h.perform op)

theorem sound_start {m : Machine η} (h : m.Reachable settings) :
  (start m).Sound
  where
  valid := h.valid
  programs := by
    intro program hprogram
    cases hprogram
  links := by
    intro handle hhandle
    cases hhandle

end Sound

end Session

end Bpf
