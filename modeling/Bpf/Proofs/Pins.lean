import Bpf.Proofs.Session

/-!
# Pins in a session

A pin stays until it is removed: by the removal of its path, or through a handle that has recorded the
path (`Session.Removes`).  What is loaded from a path is what is pinned there, and a handle that is on a
link stays at its number for good.
-/

namespace Bpf

open Memory

variable {η : Type}

namespace Memory.Machine

variable {settings : Settings} {m m' : Machine η} {fd : Descriptor} {path : Path} {flags : UInt32}
  {names : List String} {object : Object}

/-! ### What requests do to a pin -/

/-- To pin changes the pins only where there was none, and only if it succeeds. -/
theorem run_add_cases (settings : Settings) (fd : Descriptor) (path : Path) (m : Machine η) :
  (∃ e, ((Pin.add (kernel settings {}) fd path).run.run m).1 = .error e
      ∧ ((Pin.add (kernel settings {}) fd path).run.run m).2.state.pins = m.state.pins)
    ∨ ∃ object, m.state.object? fd = some object
      ∧ m.state.pins.get? path.components = none
      ∧ (Pin.add (kernel settings {}) fd path).run.run m
        = (.ok (), { m with state := (m.state.counted Command.objPin).pinned path.components object })
  := by
  cases hpath : path.isEmpty with
  | true =>
      left
      rw [run_add_of_isEmpty settings fd hpath]
      exact ⟨_, rfl, rfl⟩
  | false =>
      cases hobject : m.state.object? fd with
      | none =>
          left
          rw [run_add_of_unknown settings hpath hobject]
          exact ⟨_, rfl, rfl⟩
      | some object =>
          cases hpin : m.state.pins.get? path.components with
          | none =>
              right
              exact ⟨object, rfl, rfl, run_add_of_free settings hpath hobject hpin⟩
          | some other =>
              left
              rw [run_add_of_taken settings hpath hobject hpin]
              exact ⟨_, rfl, rfl⟩

theorem get?_pins_add (settings : Settings) (fd : Descriptor) (path : Path)
    (hpin : m.state.pins.get? names = some object) :
  ((Pin.add (kernel settings {}) fd path).run.run m).2.state.pins.get? names = some object
  := by
  obtain ⟨e, -, hpins⟩ | ⟨other, -, hfree, hrun⟩ := run_add_cases settings fd path m
  · rw [hpins]
    exact hpin
  · rw [hrun]
    show ((m.state.counted Command.objPin).pinned path.components other).pins.get? names = _
    rw [State.get?_pins_pinned, if_neg]
    · exact hpin
    · rintro rfl
      rw [hpin] at hfree
      cases hfree

theorem get?_pins_remove (settings : Settings) (path : Path)
    (hpin : m.state.pins.get? names = some object) (hpath : path.components ≠ names) :
  ((Pin.remove (kernel settings {}) path).run.run m).2.state.pins.get? names = some object
  := by
  cases hempty : path.isEmpty with
  | true =>
      rw [run_remove_of_isEmpty settings hempty]
      exact hpin
  | false =>
      rw [run_remove settings hempty]
      show (State.unpinned _ _).pins.get? names = _
      rw [State.get?_pins_unpinned, if_neg hpath.symm]
      exact hpin

/-- A request leaves a pin where it is unless it is the removal of that pin. -/
theorem get?_pins_after (settings : Settings) (hpin : m.state.pins.get? names = some object)
    {request : Request} (hrequest : ∀ path, request = .removePin path → path.components ≠ names) :
  ((kernel settings {}).after m request).state.pins.get? names = some object
  := by
  cases effect_after settings m request with
  | none hlinks hpins =>
      rw [hpins]
      exact hpin
  | addLink hadds hpins =>
      rw [hpins]
      exact hpin
  | changeLink id old new hold hdetached hlinks hpins =>
      rw [hpins]
      exact hpin
  | pin other pinned hfree hlinks hpins =>
      rw [hpins, Assoc.get?_insert, if_neg]
      · exact hpin
      · rintro rfl
        rw [hpin] at hfree
        cases hfree
  | unpin path hremove hlinks hpins =>
      rw [hpins, Assoc.get?_erase, if_neg (hrequest path hremove).symm]
      exact hpin

/-! ### What is loaded from a pin -/

section Loads

variable {id : UInt32} {record : LinkRecord}

/-- The handle on a link that is loaded from its pin. -/
def loadedLink (m : Machine η) (record : LinkRecord) (path : Path) : Link :=
  ⟨Code.ofRaw (Code.raw record.linkType), some m.state.nextDescriptor, some path⟩

theorem object?_openedPin (m : Machine η) (object : Object) :
  (m.openedPin object).state.object? m.state.nextDescriptor = some object
  := by
  apply State.object?_opened (m.state.counted Command.objGet)

theorem run_ofDescriptor_openedPin (hlength : ∀ n, settings.infoLength = some n → 8 ≤ n)
    (hrecord : m.state.links.get? id = some record) (path : Path) :
  (Link.ofDescriptor (kernel settings {}) m.state.nextDescriptor (some path)).run.run
      (m.openedPin (.link id))
    = (.ok (m.loadedLink record path), (m.openedPin (.link id)).counted Command.infoByFd)
  := by
  have hrecord : (m.openedPin (.link id)).state.links.get? id = some record := hrecord
  apply run_ofDescriptor_of_le settings hlength (m.object?_openedPin (.link id)) hrecord

theorem run_loadPinned_of_link (hlength : ∀ n, settings.infoLength = some n → 8 ≤ n)
    (hpath : path.isEmpty = false) (hflags : ForOpening flags) (hfd : m.state.HasDescriptors)
    (hpin : m.state.pins.get? path.components = some (.link id))
    (hrecord : m.state.links.get? id = some record) :
  (Link.loadPinned (kernel settings {}) path flags).run.run m
    = (.ok (m.loadedLink record path), (m.openedPin (.link id)).counted Command.infoByFd)
  := by
  rw [run_loadPinned_of_ok settings hpath (run_openPin_of_pinned settings hflags hpin hfd)]
  apply run_ofDescriptor_openedPin hlength hrecord

theorem run_loadPinned_of_lt (hshort : settings.infoLength.getD LinkInfo.size < 8)
    (hpath : path.isEmpty = false) (hflags : ForOpening flags) (hfd : m.state.HasDescriptors)
    (hpin : m.state.pins.get? path.components = some (.link id))
    (hrecord : m.state.links.get? id = some record) :
  (Link.loadPinned (kernel settings {}) path flags).run.run m
    = (.error (.fatal
          s!"link info truncated to {settings.infoLength.getD LinkInfo.size} bytes"),
        (m.openedPin (.link id)).counted Command.infoByFd)
  := by
  have hrecord : (m.openedPin (.link id)).state.links.get? id = some record := hrecord
  rw [run_loadPinned_of_ok settings hpath (run_openPin_of_pinned settings hflags hpin hfd)]
  apply run_ofDescriptor_of_lt settings hshort (m.object?_openedPin (.link id)) hrecord

/-- Only a link can be loaded as a link. -/
theorem run_loadPinned_of_not_link (hpath : path.isEmpty = false) (hflags : ForOpening flags)
    (hfd : m.state.HasDescriptors) (hpin : m.state.pins.get? path.components = some object)
    (hlink : object.objectType ≠ .link) :
  (Link.loadPinned (kernel settings {}) path flags).run.run m
    = (.error (.ofErrno Command.infoByFd Errno.einval),
        (m.openedPin object).counted Command.infoByFd)
  := by
  rw [run_loadPinned_of_ok settings hpath (run_openPin_of_pinned settings hflags hpin hfd)]
  apply run_ofDescriptor_of_not_link settings (m.object?_openedPin object) hlink

theorem forOpening_zero :
  ForOpening 0
  := by
  unfold ForOpening
  decide

theorem run_load_of_pinned (settings : Settings) (hpath : path.isEmpty = false)
    (hfd : m.state.HasDescriptors)
    (hpin : m.state.pins.get? path.components = some object) :
  (Pinned.load (kernel settings {}) path).run.run m
    = (found (kernel settings {}) path m.state.nextDescriptor object.objectType).run.run
        (m.openedPin object)
  := by
  apply run_load_of_ok settings hpath
  · apply run_openPin_of_pinned settings forOpening_zero hpin hfd
  · apply object?_openedPin

theorem run_load_of_map (settings : Settings) (hpath : path.isEmpty = false)
    (hfd : m.state.HasDescriptors)
    (hpin : m.state.pins.get? path.components = some .map) :
  (Pinned.load (kernel settings {}) path).run.run m
    = (.ok (.map m.state.nextDescriptor), m.openedPin .map)
  := by
  rw [run_load_of_pinned settings hpath hfd hpin]
  rfl

theorem run_load_of_program (settings : Settings) {programType : ProgramType}
    {attachType : Option AttachType}
    (hpath : path.isEmpty = false) (hfd : m.state.HasDescriptors)
    (hpin : m.state.pins.get? path.components = some (.program id programType attachType)) :
  (Pinned.load (kernel settings {}) path).run.run m
    = (.ok (.program ⟨some m.state.nextDescriptor, programType⟩),
        m.openedPin (.program id programType attachType))
  := by
  have hinfo := run_programInfo settings (m.object?_openedPin (.program id programType attachType))
  have hprogram : (Program.ofDescriptor (kernel settings {}) m.state.nextDescriptor).run.run
        (m.openedPin (.program id programType attachType))
      = (.ok ⟨some m.state.nextDescriptor, programType⟩,
          m.openedPin (.program id programType attachType)) := by
    rw [Program.ofDescriptor, Action.run_bind_of_ok hinfo]
    rfl
  rw [run_load_of_pinned settings hpath hfd hpin]
  exact (Action.run_bind_of_ok hprogram).trans rfl

theorem run_load_of_link (hlength : ∀ n, settings.infoLength = some n → 8 ≤ n)
    (hpath : path.isEmpty = false) (hfd : m.state.HasDescriptors)
    (hpin : m.state.pins.get? path.components = some (.link id))
    (hrecord : m.state.links.get? id = some record) :
  (Pinned.load (kernel settings {}) path).run.run m
    = (.ok (.link (m.loadedLink record path)),
        (m.openedPin (.link id)).counted Command.infoByFd)
  := by
  have hlink := run_ofDescriptor_openedPin hlength hrecord path
  rw [run_load_of_pinned settings hpath hfd hpin]
  exact (Action.run_bind_of_ok hlink).trans rfl

theorem run_load_of_lt (hshort : settings.infoLength.getD LinkInfo.size < 8)
    (hpath : path.isEmpty = false) (hfd : m.state.HasDescriptors)
    (hpin : m.state.pins.get? path.components = some (.link id))
    (hrecord : m.state.links.get? id = some record) :
  (Pinned.load (kernel settings {}) path).run.run m
    = (.error (.fatal
          s!"link info truncated to {settings.infoLength.getD LinkInfo.size} bytes"),
        (m.openedPin (.link id)).counted Command.infoByFd)
  := by
  have hrecord : (m.openedPin (.link id)).state.links.get? id = some record := hrecord
  have hlink := run_ofDescriptor_of_lt settings hshort (m.object?_openedPin (.link id)) hrecord
    (some path)
  rw [run_load_of_pinned settings hpath hfd hpin]
  exact Action.run_bind_of_error hlink

/-- An open handle tells the id of its program. -/
theorem run_program_id (settings : Settings) (loaded : ProgramType) {id : UInt32}
    {programType : ProgramType} {attachType : Option AttachType}
    (hobject : m.state.object? fd = some (.program id programType attachType)) :
  ((Program.mk (some fd) loaded).id (kernel settings {})).run.run m = (.ok id, m)
  := by
  have hinfo : ((Program.mk (some fd) loaded).info (kernel settings {})).run.run m
      = (.ok ⟨programType, id, ""⟩, m) := run_programInfo settings hobject
  rw [Program.id, Action.run_bind_of_ok hinfo]
  rfl

/-- A handle that has been loaded from a pin tells the id of the link that is pinned there. -/
theorem run_id_loadedLink (hlength : ∀ n, settings.infoLength = some n → 8 ≤ n)
    (hvalid : m.state.Valid) (hrecord : m.state.links.get? id = some record) (path : Path) :
  ((m.loadedLink record path).id (kernel settings {})).run.run
      ((m.openedPin (.link id)).counted Command.infoByFd)
    = (.ok id, ((m.openedPin (.link id)).counted Command.infoByFd).counted Command.infoByFd)
  := by
  let m' : Machine η := (m.openedPin (.link id)).counted Command.infoByFd
  have hopen : (m.loadedLink record path).fd = some m.state.nextDescriptor := rfl
  have hobject : m'.state.object? m.state.nextDescriptor
      = some (.link id) := m.object?_openedPin (.link id)
  have hrecord' : m'.state.links.get? id = some record := hrecord
  rw [run_id_of_le settings hlength hopen hobject hrecord', hvalid.records id record hrecord]

end Loads

end Memory.Machine

namespace Session

variable {settings : Settings} {s : Session η} {op : Operation} {i : Nat} {path : Path}
  {names : List String} {object : Object}

/-! ### Runs of operations -/

/-- The handle with a number has recorded a path with these names. -/
def Records (s : Session η) (i : Nat) (names : List String) : Prop :=
  ∃ handle path, s.links[i]? = some handle ∧ handle.link.pinned = some path
    ∧ path.components = names

/-- The operation removes the pin with these names. -/
def Removes (s : Session η) : Operation → List String → Prop
  | .event (.request (.removePin path)), names => path.components = names
  | .unpin path, names => path.components = names
  | .unpinLink i, names => s.Records i names
  | _, _ => False

section Opening

variable {action : Action (Machine η) Pinned} {m' : Machine η}

theorem opening_of_ok {found : Pinned} (h : action.run.run s.machine = (.ok found, m')) :
  opening action s = (.ok (some found), keep { s with machine := m' } found)
  := by
  rw [opening, h]

theorem opening_of_error {e : Error} (h : action.run.run s.machine = (.error e, m')) :
  opening action s = (.error e, { s with machine := m' })
  := by
  rw [opening, h]

variable {action : Action (Machine η) Link} {link : Link}

theorem opening_link_of_ok (h : action.run.run s.machine = (.ok link, m')) :
  opening (Pinned.link <$> action) s
    = (.ok (some (.link link)), keep { s with machine := m' } (.link link))
  := by
  apply opening_of_ok
  rw [← bind_pure_comp, Action.run_bind_of_ok h]
  rfl

theorem opening_link_of_error {e : Error} (h : action.run.run s.machine = (.error e, m')) :
  opening (Pinned.link <$> action) s = (.error e, { s with machine := m' })
  := by
  apply opening_of_error
  rw [← bind_pure_comp, Action.run_bind_of_error h]

end Opening

/-- A link that is pinned can be loaded as a link, and tells its id. -/
theorem perform_loadPinned_of_link (hvalid : s.state.Valid)
    (hlength : ∀ n, settings.infoLength = some n → 8 ≤ n) (hpath : path.isEmpty = false)
    {flags : UInt32} (hflags : Machine.ForOpening flags) (hfd : s.state.HasDescriptors)
    {id : UInt32} {record : LinkRecord}
    (hpin : s.state.pins.get? path.components = some (.link id))
    (hrecord : s.state.links.get? id = some record) :
  ∃ link u, s.perform settings (.loadPinned path flags) = (.ok (some (.link link)), u)
    ∧ link.pinned = some path ∧ ((link.id (kernel settings {})).run.run u.machine).1 = .ok id
  := by
  have hrun := Machine.run_loadPinned_of_link hlength hpath hflags hfd hpin hrecord
  refine ⟨_, _, opening_link_of_ok hrun, rfl, ?_⟩
  rw [machine_keep]
  exact congrArg Prod.fst (Machine.run_id_loadedLink hlength hvalid hrecord path)

theorem machine_pinProgram (settings : Settings) (s : Session η) (i : Nat) (path : Path) :
  (s.perform settings (.pinProgram i path)).2.machine = s.machine
    ∨ ∃ fd, (s.perform settings (.pinProgram i path)).2.machine
      = ((Pin.add (kernel settings {}) fd path).run.run s.machine).2
  := by
  rw [perform]
  split
  next => exact .inl rfl
  next program hprogram =>
    rw [asking_snd]
    obtain ⟨fd, programType⟩ := program
    cases fd with
    | none => exact .inl rfl
    | some fd => exact .inr ⟨fd, rfl⟩

theorem set_handle {handle : Handle} (h : s.links[i]? = some handle) :
  s.links.set i ⟨handle.link, handle.opened⟩ = s.links
  := by
  obtain ⟨hlt, rfl⟩ := List.getElem?_eq_some_iff.1 h
  apply List.set_getElem_self

/-- A handle pins its link at a path that it has not recorded, and then records it. -/
theorem perform_pinLink (settings : Settings) {handle : Handle} (h : s.links[i]? = some handle)
    (path : Path) :
  s.perform settings (.pinLink i path)
    = if path.isEmpty then (.error Pin.emptyPath, s)
      else if handle.link.isPinnedAt path then (.ok none, s)
      else
        match handle.link.fd with
        | none => (.error Link.closed, s)
        | some fd =>
          match (Pin.add (kernel settings {}) fd path).run.run s.machine with
          | (.ok _, machine) =>
            let link : Link := { handle.link with pinned := some path }
            (.ok none, { s with links := s.links.set i { handle with link }, machine })
          | (.error e, machine) => (.error e, { s with machine })
  := by
  rw [perform, changing, h]
  dsimp only
  rw [Link.run_pin]
  by_cases hpath : path.isEmpty
  · rw [if_pos hpath, if_pos hpath]
    dsimp only
    rw [set_handle h]
  · rw [if_neg hpath, if_neg hpath]
    by_cases hpinned : handle.link.isPinnedAt path
    · rw [if_pos hpinned, if_pos hpinned]
      dsimp only
      rw [set_handle h]
    · rw [if_neg hpinned, if_neg hpinned]
      cases hfd : handle.link.fd with
      | none =>
          dsimp only
          rw [set_handle h]
      | some fd =>
          dsimp only
          rcases (Pin.add (kernel settings {}) fd path).run.run s.machine with ⟨e | u, machine⟩
          · dsimp only
            rw [set_handle h]
          · rfl

/-- A handle removes the pin that it has recorded. -/
theorem perform_unpinLink (settings : Settings) {handle : Handle} (h : s.links[i]? = some handle) :
  s.perform settings (.unpinLink i)
    = match handle.link.pinned with
      | none => (.ok none, s)
      | some path =>
        match (Pin.remove (kernel settings {}) path).run.run s.machine with
        | (.ok _, machine) =>
          let link : Link := { handle.link with pinned := none }
          (.ok none, { s with links := s.links.set i { handle with link }, machine })
        | (.error e, machine) => (.error e, { s with machine })
  := by
  rw [perform, changing, h]
  dsimp only
  rw [Link.run_unpin]
  cases hpinned : handle.link.pinned with
  | none =>
      dsimp only
      rw [set_handle h]
  | some path =>
      dsimp only
      rcases (Pin.remove (kernel settings {}) path).run.run s.machine with ⟨e | u, machine⟩
      · dsimp only
        rw [set_handle h]
      · rfl

theorem perform_changing_of_none (h : s.links[i]? = none)
    (action : Action (Link × Machine η) Unit) :
  changing i action s = (.ok none, s)
  := by
  rw [changing, h]

theorem machine_pinLink (settings : Settings) (s : Session η) (i : Nat) (path : Path) :
  (s.perform settings (.pinLink i path)).2.machine = s.machine
    ∨ ∃ fd, (s.perform settings (.pinLink i path)).2.machine
      = ((Pin.add (kernel settings {}) fd path).run.run s.machine).2
  := by
  cases hhandle : s.links[i]? with
  | none =>
      left
      rw [perform, perform_changing_of_none hhandle]
  | some handle =>
      rw [perform_pinLink settings hhandle]
      split
      next => exact .inl rfl
      next =>
        split
        next => exact .inl rfl
        next =>
          split
          next => exact .inl rfl
          next fd hfd =>
            right
            refine ⟨fd, ?_⟩
            split
            next hrun => rw [hrun]
            next hrun => rw [hrun]

theorem machine_unpinLink (settings : Settings) (s : Session η) (i : Nat) :
  (s.perform settings (.unpinLink i)).2.machine = s.machine
    ∨ ∃ path, s.Records i path.components
      ∧ (s.perform settings (.unpinLink i)).2.machine
        = ((Pin.remove (kernel settings {}) path).run.run s.machine).2
  := by
  cases hhandle : s.links[i]? with
  | none =>
      left
      rw [perform, perform_changing_of_none hhandle]
  | some handle =>
      rw [perform_unpinLink settings hhandle]
      split
      next => exact .inl rfl
      next path hpath =>
        right
        refine ⟨path, ⟨handle, path, hhandle, hpath, rfl⟩, ?_⟩
        split
        next hrun => rw [hrun]
        next hrun => rw [hrun]

/-- Operations that neither pin nor unpin leave all pins as they are. -/
theorem pins_perform (settings : Settings) (s : Session η) (hown : op.Own)
    (hkind : op.kind = Request.Opens ∨ op.kind = Request.Swaps ∨ op.kind = Request.Detaches) :
  (s.perform settings op).2.state.pins = s.state.pins
  := by
  have hleads := leads_perform settings s hown
  obtain hkind | hkind | hkind := hkind
  · rw [hkind] at hleads
    exact (Prod.mk.inj (Machine.keeps_of_opens hleads)).2
  · rw [hkind] at hleads
    exact (Prod.mk.inj (Machine.keeps_of_swaps hleads)).1
  · rw [hkind] at hleads
    exact (Prod.mk.inj (Machine.keeps_of_detaches hleads)).1

theorem get?_pins_event (settings : Settings) {m : Machine η} {event : Event}
    (hpin : m.state.pins.get? names = some object)
    (hevent : ∀ path, event = .request (.removePin path) → path.components ≠ names) :
  (event.apply settings m).state.pins.get? names = some object
  := by
  cases event with
  | request request =>
      apply Machine.get?_pins_after settings hpin
      rintro path rfl
      apply hevent path rfl
  | createMap =>
      apply State.holds_of_refuses (P := fun s : State => s.pins.get? names = some object)
        (State.refuses_openObject .map) hpin
      intro fd s' hopen
      obtain ⟨-, -, rfl⟩ := State.openObject_eq_ok hopen
      exact hpin
  | loseDevice failure => exact hpin
  | insertLink link => exact hpin
  | removeLink id => exact hpin
  | releaseLink id => exact hpin

/-- A pin stays where it is until it is removed. -/
theorem get?_pins_perform (settings : Settings) (hpin : s.state.pins.get? names = some object)
    (hop : ¬ s.Removes op names) :
  (s.perform settings op).2.state.pins.get? names = some object
  := by
  have hsame (hown : op.Own) (hkind : op.kind = Request.Opens ∨ op.kind = Request.Swaps
      ∨ op.kind = Request.Detaches) :
      (s.perform settings op).2.state.pins.get? names = some object := by
    rw [pins_perform settings s hown hkind]
    exact hpin
  cases op with
  | event event =>
      apply get?_pins_event settings hpin
      rintro path rfl heq
      exact hop heq
  | attach request linkType =>
      apply (leads_attach settings s request linkType).holds (P := fun m : Machine η =>
        m.state.pins.get? names = some object) _ hpin
      intro m asked hkind hpin
      apply Machine.get?_pins_after settings hpin
      rintro path rfl
      obtain hadds | hlooks := hkind
      · cases hadds
      · cases hlooks
  | pinProgram i path =>
      obtain hmachine | ⟨fd, hadd⟩ := machine_pinProgram settings s i path
      · rw [state, hmachine]
        exact hpin
      · rw [state, hadd]
        apply Machine.get?_pins_add settings fd path hpin
  | pinLink i path =>
      obtain hmachine | ⟨fd, hadd⟩ := machine_pinLink settings s i path
      · rw [state, hmachine]
        exact hpin
      · rw [state, hadd]
        apply Machine.get?_pins_add settings fd path hpin
  | unpinLink i =>
      obtain hmachine | ⟨path, hrecords, hremove⟩ := machine_unpinLink settings s i
      · rw [state, hmachine]
        exact hpin
      · rw [state, hremove]
        apply Machine.get?_pins_remove settings path hpin
        rintro rfl
        exact hop hrecords
  | unpin path =>
      rw [perform, state, asking_snd]
      apply Machine.get?_pins_remove settings path hpin hop
  | update i j => exact hsame trivial (.inr (.inl rfl))
  | replace i j k => exact hsame trivial (.inr (.inl rfl))
  | detach i => exact hsame trivial (.inr (.inr rfl))
  | _ => exact hsame trivial (.inl rfl)

/-! ### Handles and what they have recorded -/

theorem links_opening (action : Action (Machine η) Pinned) (s : Session η) :
  (opening action s).2.links = s.links
    ∨ ∃ link m', action.run.run s.machine = (.ok (.link link), m')
      ∧ (opening action s).2 = { s with links := s.links ++ [⟨link, link.fd⟩], machine := m' }
  := by
  unfold opening
  split
  next found m' hrun =>
    cases found with
    | map fd => exact .inl rfl
    | program program => exact .inl rfl
    | link link => exact .inr ⟨link, m', hrun, rfl⟩
  next => exact .inl rfl

/-- A handle stays at its number, and has been opened with the same descriptor. -/
def Keeps (s s' : Session η) : Prop :=
  ∀ (i : Nat) (handle : Handle), s.links[i]? = some handle →
    ∃ handle' : Handle, s'.links[i]? = some handle' ∧ handle'.opened = handle.opened

/-- A handle later on: it may have been closed, but its link has the same type and it was opened with
the same descriptor. -/
structure Handle.Later (handle handle' : Handle) : Prop where
  opened : handle'.opened = handle.opened
  linkType : handle'.link.linkType = handle.link.linkType
  fd : handle'.link.fd = none ∨ handle'.link.fd = handle.link.fd

theorem Handle.Later.refl (handle : Handle) :
  handle.Later handle
  := ⟨rfl, rfl, .inr rfl⟩

theorem Handle.Later.trans {handle handle' handle'' : Handle} (h : handle.Later handle')
    (h' : handle'.Later handle'') :
  handle.Later handle''
  where
  opened := h'.opened.trans h.opened
  linkType := h'.linkType.trans h.linkType
  fd := by
    rcases h'.fd with hfd | hfd
    · exact .inl hfd
    · rw [hfd]
      exact h.fd

/-- Every handle stays at its number, where it is found later on. -/
def Carries (s s' : Session η) : Prop :=
  ∀ (i : Nat) (handle : Handle), s.links[i]? = some handle →
    ∃ handle' : Handle, s'.links[i]? = some handle' ∧ handle.Later handle'

theorem carries_of_links_eq {s s' : Session η} (h : s'.links = s.links) :
  s.Carries s'
  := by
  intro i handle hhandle
  exact ⟨handle, by rw [h, hhandle], .refl handle⟩

theorem Carries.trans {s s' s'' : Session η} (h : s.Carries s') (h' : s'.Carries s'') :
  s.Carries s''
  := by
  intro i handle hhandle
  obtain ⟨handle', hhandle', hlater⟩ := h i handle hhandle
  obtain ⟨handle'', hhandle'', hlater'⟩ := h' i handle' hhandle'
  exact ⟨handle'', hhandle'', hlater.trans hlater'⟩

theorem carries_opening (action : Action (Machine η) Pinned) (s : Session η) :
  s.Carries (opening action s).2
  := by
  obtain hlinks | ⟨link, m', -, hafter⟩ := links_opening action s
  · apply carries_of_links_eq hlinks
  · intro i handle hhandle
    refine ⟨handle, ?_, .refl handle⟩
    rw [hafter]
    obtain ⟨hlt, -⟩ := List.getElem?_eq_some_iff.1 hhandle
    show (s.links ++ [_])[i]? = some handle
    rw [List.getElem?_append_left hlt, hhandle]

theorem carries_changing (j : Nat) {action : Action (Link × Machine η) Unit} (s : Session η)
    (hlater : ∀ link m, ∃ fd pinned, (fd = none ∨ fd = link.fd)
      ∧ (action.run.run (link, m)).2.1 = { link with fd, pinned }) :
  s.Carries (changing j action s).2
  := by
  cases hfound : s.links[j]? with
  | none =>
      apply carries_of_links_eq
      rw [changing, hfound]
  | some found =>
      rw [changing_snd hfound]
      intro i handle hhandle
      by_cases hij : j = i
      · cases hij
        rw [hhandle] at hfound
        cases hfound
        obtain ⟨hlt, -⟩ := List.getElem?_eq_some_iff.1 hhandle
        obtain ⟨fd, pinned, hfd, hlink⟩ := hlater found.link s.machine
        rw [hlink]
        exact ⟨_, List.getElem?_set_self hlt, rfl, rfl, hfd⟩
      · refine ⟨handle, ?_, .refl handle⟩
        show (s.links.set j _)[i]? = some handle
        rw [List.getElem?_set_ne hij, hhandle]

theorem links_through (j : Nat) (action : Link → Action (Machine η) Unit) (s : Session η) :
  (through j action s).2.links = s.links
  := by
  unfold through
  split
  next => rfl
  next => rw [asking_snd]

theorem links_pinProgram (settings : Settings) (s : Session η) (i : Nat) (path : Path) :
  (s.perform settings (.pinProgram i path)).2.links = s.links
  := by
  rw [perform]
  split
  next => rfl
  next => rw [asking_snd]

theorem links_unpin (settings : Settings) (s : Session η) (path : Path) :
  (s.perform settings (.unpin path)).2.links = s.links
  := by
  rw [perform, asking_snd]

/-- Whatever is done, every handle is found later on, on a link of the same type. -/
theorem carries_perform (settings : Settings) (s : Session η) (op : Operation) :
  s.Carries (s.perform settings op).2
  := by
  cases op with
  | event event => apply carries_of_links_eq rfl
  | attach request linkType => apply carries_opening
  | openProgram fd => apply carries_opening
  | openLink fd => apply carries_opening
  | load path => apply carries_opening
  | loadPinned path flags => apply carries_opening
  | pinProgram j path => apply carries_of_links_eq (links_pinProgram settings s j path)
  | pinLink j path =>
      apply carries_changing
      intro link m
      obtain ⟨pinned, hlink⟩ := Link.handle_run_pin (kernel settings {}) path link m
      exact ⟨link.fd, pinned, .inr rfl, hlink⟩
  | unpinLink j =>
      apply carries_changing
      intro link m
      obtain ⟨pinned, hlink⟩ := Link.handle_run_unpin (kernel settings {}) link m
      exact ⟨link.fd, pinned, .inr rfl, hlink⟩
  | unpin path => apply carries_of_links_eq (links_unpin settings s path)
  | update j k => apply carries_of_links_eq (links_through j _ s)
  | replace j k l => apply carries_of_links_eq (links_through j _ s)
  | detach j => apply carries_of_links_eq (links_through j _ s)
  | closeProgram j => apply carries_of_links_eq rfl
  | closeLink j =>
      apply carries_changing
      intro link m
      exact ⟨none, link.pinned, .inl rfl, rfl⟩

theorem carries_run (settings : Settings) (s : Session η) (ops : List Operation) :
  s.Carries (s.run settings ops)
  := by
  induction ops generalizing s with
  | nil => apply carries_of_links_eq rfl
  | cons op ops ih => apply (carries_perform settings s op).trans (ih _)

theorem keeps_perform (settings : Settings) (s : Session η) (op : Operation) :
  s.Keeps (s.perform settings op).2
  := by
  intro i handle hhandle
  obtain ⟨handle', hhandle', hlater⟩ := carries_perform settings s op i handle hhandle
  exact ⟨handle', hhandle', hlater.opened⟩

end Session

end Bpf
