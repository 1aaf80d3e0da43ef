import Bpf.Proofs.Pins

/-!
# Recorded pins

A handle records the path at which it has pinned its link, or found it, and trusts the record from then
on: it does not pin there again, and it removes whatever is pinned there.  The record is right as long
as nothing else has removed the pin since (`Session.Disturbed`).
-/

namespace Bpf

open Memory

variable {η : Type}

namespace Session

/-- The link that a handle is on is pinned with these names. -/
def Held (s : Session η) (i : Nat) (names : List String) : Prop :=
  ∃ handle id, s.links[i]? = some handle ∧ handle.On id s.state
    ∧ s.state.pins.get? names = some (.link id)

/-- Since the handle with a number has recorded these names, something else has removed their pin. -/
def Disturbed (settings : Settings) (s : Session η) (ops : List Operation) (i : Nat)
    (names : List String) : Prop :=
  ∃ before op after, ops = before ++ op :: after
    ∧ (s.run settings before).Removes op names ∧ op ≠ .unpinLink i
    ∧ ∀ first, first <+: after → (s.run settings (before ++ op :: first)).Records i names

section Records

variable {settings : Settings} {s : Session η} {op : Operation} {ops : List Operation} {i : Nat}
  {names : List String} {path : Path}

/-- A handle stays on its link. -/
theorem Sound.on_perform (h : s.Sound) (settings : Settings) (op : Operation) {handle : Handle}
    {id : UInt32} (hhandle : s.links[i]? = some handle) (hon : handle.On id s.state) :
  ∃ handle' : Handle, (s.perform settings op).2.links[i]? = some handle'
    ∧ handle'.On id (s.perform settings op).2.state
  := by
  obtain ⟨handle', hhandle', hopened⟩ := keeps_perform settings s op i handle hhandle
  have hsound : (s.perform settings op).2.Sound := h.perform op
  obtain ⟨id', hon'⟩ := hsound.links handle' (List.mem_of_getElem? hhandle')
  have hextends : Extends s.state (s.perform settings op).2.state := extends_perform h.valid op
  cases (hon.mono hextends).id_eq hon' hopened
  exact ⟨handle', hhandle', hon'⟩

theorem Held.perform (hheld : s.Held i names) (h : s.Sound) (settings : Settings)
    (hop : ¬ s.Removes op names) :
  (s.perform settings op).2.Held i names
  := by
  obtain ⟨handle, id, hhandle, hon, hpin⟩ := hheld
  obtain ⟨handle', hhandle', hon'⟩ := h.on_perform settings op hhandle hon
  exact ⟨handle', id, hhandle', hon', get?_pins_perform settings hpin hop⟩

/-- What is pinned where a handle holds a pin is the link that the handle is on. -/
theorem Held.get?_pins {handle : Handle} {id : UInt32} (hheld : s.Held i names)
    (hhandle : s.links[i]? = some handle) (hon : handle.On id s.state) :
  s.state.pins.get? names = some (.link id)
  := by
  obtain ⟨found, id', hfound, hon', hpin⟩ := hheld
  rw [hhandle] at hfound
  cases hfound
  cases hon.id_eq hon' rfl
  exact hpin

/-! ### How paths get recorded -/

theorem Records.of_links_eq {s' : Session η} (hlinks : s'.links = s.links)
    (h : s'.Records i names) :
  s.Records i names
  := by
  rw [Records, hlinks] at h
  exact h

/-- A handle that has just been opened holds the pin that it was found at. -/
theorem records_opening {action : Action (Machine η) Pinned}
    (hfound : ∀ link path m', action.run.run s.machine = (.ok (.link link), m') →
      link.pinned = some path →
      ∃ fd id, link.fd = some fd ∧ m'.state.object? fd = some (.link id)
        ∧ m'.state.pins.get? path.components = some (.link id))
    (h : (opening action s).2.Records i names) :
  s.Records i names ∨ (opening action s).2.Held i names
  := by
  obtain hlinks | ⟨link, m', hrun, hafter⟩ := links_opening action s
  · left
    apply h.of_links_eq hlinks
  · rw [hafter] at h ⊢
    obtain ⟨handle, path, hhandle, hpinned, hnames⟩ := h
    have hhandle : (s.links ++ [⟨link, link.fd⟩])[i]? = some handle := hhandle
    by_cases hlt : i < s.links.length
    · left
      rw [List.getElem?_append_left hlt] at hhandle
      exact ⟨handle, path, hhandle, hpinned, hnames⟩
    · right
      have hnew : handle = ⟨link, link.fd⟩ := by
        rw [List.getElem?_append_right (Nat.le_of_not_lt hlt)] at hhandle
        have hmem := List.mem_of_getElem? hhandle
        exact List.mem_singleton.1 hmem
      cases hnew
      obtain ⟨fd, id, hfd, hobject, hpin⟩ := hfound link path m' hrun hpinned
      rw [hnames] at hpin
      exact ⟨_, id, hhandle, ⟨fd, hfd, hobject, .inr hfd⟩, hpin⟩

theorem pins_of_opens {α : Type} {action : Action (Machine η) α} {m m' : Machine η}
    {answer : Except Error α} (h : action.Asks (kernel settings {}) Request.Opens)
    (hrun : action.run.run m = (answer, m')) :
  m'.state.pins = m.state.pins
  := by
  have hleads := h m
  rw [hrun] at hleads
  exact (Prod.mk.inj (Machine.keeps_of_opens hleads)).2

theorem found_load {m m' : Machine η} {link : Link}
    (hrun : (Pinned.load (kernel settings {}) path).run.run m = (.ok (.link link), m')) :
  link.pinned = some path ∧ ∃ fd id, link.fd = some fd
    ∧ m'.state.object? fd = some (.link id)
    ∧ m'.state.pins.get? path.components = some (.link id)
  := by
  obtain ⟨object, fd, hpin, hobject, hfound⟩ := Machine.run_load_eq_ok hrun
  cases object with
  | map => cases hfound
  | program id programType attachType => cases hfound
  | link id =>
      obtain ⟨linkType, heq⟩ := hfound
      cases heq
      refine ⟨rfl, fd, id, rfl, hobject, ?_⟩
      rw [pins_of_opens (Pinned.asks_load _ path) hrun]
      exact hpin

theorem found_loadPinned {flags : UInt32} {m m' : Machine η} {link : Link}
    (hrun : (Link.loadPinned (kernel settings {}) path flags).run.run m = (.ok link, m')) :
  link.pinned = some path ∧ ∃ fd id, link.fd = some fd
    ∧ m'.state.object? fd = some (.link id)
    ∧ m'.state.pins.get? path.components = some (.link id)
  := by
  obtain ⟨id, linkType, fd, hpin, rfl, hobject⟩ := Machine.run_loadPinned_eq_ok hrun
  refine ⟨rfl, fd, id, rfl, hobject, ?_⟩
  rw [pins_of_opens (Link.asks_loadPinned _ path flags) hrun]
  exact hpin

theorem records_of_set {s' : Session η} {handle : Handle} {link : Link} {j : Nat}
    (hhandle : s.links[j]? = some handle) (hlinks : s'.links = s.links.set j { handle with link })
    (h : s'.Records i names) :
  (i ≠ j ∧ s.Records i names)
    ∨ i = j ∧ ∃ path, link.pinned = some path ∧ path.components = names
  := by
  obtain ⟨found, path, hfound, hpinned, hnames⟩ := h
  rw [hlinks] at hfound
  by_cases hij : j = i
  · cases hij
    obtain ⟨hlt, -⟩ := List.getElem?_eq_some_iff.1 hhandle
    rw [List.getElem?_set_self hlt] at hfound
    cases hfound
    exact .inr ⟨rfl, path, hpinned, hnames⟩
  · rw [List.getElem?_set_ne hij] at hfound
    exact .inl ⟨Ne.symm hij, found, path, hfound, hpinned, hnames⟩

/-- To pin a link fails, has nothing to do, or makes a pin of what the handle is on. -/
theorem pinLink_cases (settings : Settings) {handle : Handle} (hhandle : s.links[i]? = some handle)
    (path : Path) :
  (∃ e, (s.perform settings (.pinLink i path)).1 = .error e
      ∧ (s.perform settings (.pinLink i path)).2.links = s.links)
    ∨ (handle.link.isPinnedAt path = true ∧ s.perform settings (.pinLink i path) = (.ok none, s))
    ∨ ∃ fd object, handle.link.fd = some fd ∧ s.state.object? fd = some object
      ∧ (s.perform settings (.pinLink i path)).2.links
        = s.links.set i { handle with link := { handle.link with pinned := some path } }
      ∧ (s.perform settings (.pinLink i path)).2.state.pins.get? path.components = some object
  := by
  rw [perform_pinLink settings hhandle]
  by_cases hpath : path.isEmpty
  · rw [if_pos hpath]
    exact .inl ⟨_, rfl, rfl⟩
  · rw [if_neg hpath]
    by_cases hpinned : handle.link.isPinnedAt path
    · rw [if_pos hpinned]
      exact .inr (.inl ⟨hpinned, rfl⟩)
    · rw [if_neg hpinned]
      cases hfd : handle.link.fd with
      | none => exact .inl ⟨_, rfl, rfl⟩
      | some fd =>
          dsimp only
          obtain ⟨e, herror, -⟩ | ⟨object, hobject, -, hrun⟩ :=
            Machine.run_add_cases settings fd path s.machine
          · rcases hrun : (Pin.add (kernel settings {}) fd path).run.run s.machine with ⟨e' | u, m'⟩
            · exact .inl ⟨_, rfl, rfl⟩
            · rw [hrun] at herror
              cases herror
          · rw [hrun]
            refine .inr (.inr ⟨fd, object, rfl, hobject, by rw [hfd], ?_⟩)
            show (State.pinned _ _ _).pins.get? path.components = _
            rw [State.get?_pins_pinned, if_pos rfl]

/-- A handle that has just pinned its link holds the pin. -/
theorem held_of_pinned (h : s.Sound) {handle : Handle} (hhandle : s.links[i]? = some handle)
    {fd : Descriptor} {object : Object} (hfd : handle.link.fd = some fd)
    (hobject : s.state.object? fd = some object)
    (hpin : (s.perform settings op).2.state.pins.get? names = some object) :
  (s.perform settings op).2.Held i names
  := by
  obtain ⟨id, hon⟩ := h.links handle (List.mem_of_getElem? hhandle)
  obtain ⟨handle', hhandle', hon'⟩ := h.on_perform settings op hhandle hon
  obtain ⟨fd', -, hlink, hnone | hfd'⟩ := hon
  · rw [hnone] at hfd
    cases hfd
  · rw [hfd] at hfd'
    cases hfd'
    rw [hobject] at hlink
    cases hlink
    exact ⟨handle', id, hhandle', hon', hpin⟩

theorem isPinnedAt_iff {link : Link} :
  link.isPinnedAt path = true ↔ ∃ recorded, link.pinned = some recorded
    ∧ recorded.components = path.components
  := by
  simp [Link.isPinnedAt, Path.same, Option.any_eq_true]

theorem records_pinLink (h : s.Sound) {j : Nat}
    (hrecords : (s.perform settings (.pinLink j path)).2.Records i names) :
  s.Records i names ∨ (s.perform settings (.pinLink j path)).2.Held i names
  := by
  cases hhandle : s.links[j]? with
  | none =>
      rw [perform, perform_changing_of_none hhandle] at hrecords
      exact .inl hrecords
  | some handle =>
      obtain ⟨e, -, hlinks⟩ | ⟨-, hsame⟩ | ⟨fd, object, hfd, hobject, hlinks, hpin⟩ :=
        pinLink_cases settings hhandle path
      · exact .inl (hrecords.of_links_eq hlinks)
      · rw [hsame] at hrecords
        exact .inl hrecords
      · obtain ⟨-, hold⟩ | ⟨rfl, recorded, hrecorded, rfl⟩ := records_of_set hhandle hlinks hrecords
        · exact .inl hold
        · cases hrecorded
          exact .inr (held_of_pinned h hhandle hfd hobject hpin)

/-- To remove the pin that a handle has recorded changes nothing, or the handle has recorded none
afterwards. -/
theorem unpinLink_cases (settings : Settings) {handle : Handle}
    (hhandle : s.links[i]? = some handle) :
  (s.perform settings (.unpinLink i)).2 = s
    ∨ ∃ path, handle.link.pinned = some path
      ∧ (s.perform settings (.unpinLink i)).2
        = { s with
            links := s.links.set i { handle with link := { handle.link with pinned := none } }
            machine := { s.machine with
              state := (s.state.counted Command.unlink).unpinned path.components } }
  := by
  rw [perform_unpinLink settings hhandle]
  cases hpinned : handle.link.pinned with
  | none => exact .inl rfl
  | some path =>
      dsimp only
      cases hpath : path.isEmpty with
      | true =>
          rw [Machine.run_remove_of_isEmpty settings hpath]
          exact .inl rfl
      | false =>
          rw [Machine.run_remove settings hpath]
          exact .inr ⟨path, rfl, rfl⟩

theorem records_unpinLink {j : Nat}
    (hrecords : (s.perform settings (.unpinLink j)).2.Records i names) :
  s.Records i names
  := by
  cases hhandle : s.links[j]? with
  | none =>
      rw [perform, perform_changing_of_none hhandle] at hrecords
      exact hrecords
  | some handle =>
      obtain hsame | ⟨path, hpinned, hafter⟩ := unpinLink_cases settings hhandle
      · rw [hsame] at hrecords
        exact hrecords
      · rw [hafter] at hrecords
        obtain ⟨-, hold⟩ | ⟨-, recorded, hrecorded, -⟩ := records_of_set hhandle rfl hrecords
        · exact hold
        · cases hrecorded

theorem records_closeLink {j : Nat}
    (hrecords : (s.perform settings (.closeLink j)).2.Records i names) :
  s.Records i names
  := by
  cases hhandle : s.links[j]? with
  | none =>
      rw [perform, perform_changing_of_none hhandle] at hrecords
      exact hrecords
  | some handle =>
      rw [perform, changing_snd hhandle] at hrecords
      obtain ⟨-, hold⟩ | ⟨rfl, path, hpinned, hnames⟩ := records_of_set hhandle rfl hrecords
      · exact hold
      · exact ⟨handle, path, hhandle, hpinned, hnames⟩

/-- Whatever is done, a handle has recorded a path before or holds the pin now. -/
theorem Sound.records_perform (h : s.Sound)
    (hrecords : (s.perform settings op).2.Records i names) :
  s.Records i names ∨ (s.perform settings op).2.Held i names
  := by
  cases op with
  | event event => exact .inl (hrecords.of_links_eq rfl)
  | attach request linkType =>
      apply records_opening _ hrecords
      intro link path m' hrun hpinned
      obtain ⟨found, hfound, heq⟩ := run_map_eq_ok hrun
      cases heq
      obtain ⟨known, fd, -, -, -, -, rfl, -⟩ := Machine.run_ofRequest_eq_ok hfound
      cases hpinned
  | openProgram fd =>
      apply records_opening _ hrecords
      intro link path m' hrun
      obtain ⟨program, -, heq⟩ := run_map_eq_ok hrun
      cases heq
  | openLink fd =>
      apply records_opening _ hrecords
      intro link path m' hrun hpinned
      obtain ⟨found, hfound, heq⟩ := run_map_eq_ok hrun
      cases heq
      obtain ⟨id, linkType, -, rfl, -⟩ := Machine.run_ofDescriptor_eq_ok hfound
      cases hpinned
  | load path =>
      apply records_opening _ hrecords
      intro link recorded m' hrun hpinned
      obtain ⟨hpath, hfound⟩ := found_load hrun
      rw [hpath] at hpinned
      cases hpinned
      exact hfound
  | loadPinned path flags =>
      apply records_opening _ hrecords
      intro link recorded m' hrun hpinned
      obtain ⟨found, hloaded, heq⟩ := run_map_eq_ok hrun
      cases heq
      obtain ⟨hpath, hfound⟩ := found_loadPinned hloaded
      rw [hpath] at hpinned
      cases hpinned
      exact hfound
  | pinProgram j path => exact .inl (hrecords.of_links_eq (links_pinProgram settings s j path))
  | pinLink j path => exact records_pinLink h hrecords
  | unpinLink j => exact .inl (records_unpinLink hrecords)
  | unpin path => exact .inl (hrecords.of_links_eq (links_unpin settings s path))
  | update j k => exact .inl (hrecords.of_links_eq (links_through j _ s))
  | replace j k l => exact .inl (hrecords.of_links_eq (links_through j _ s))
  | detach j => exact .inl (hrecords.of_links_eq (links_through j _ s))
  | closeProgram j => exact .inl (hrecords.of_links_eq rfl)
  | closeLink j => exact .inl (records_closeLink hrecords)

/-! ### Records of a whole run -/

theorem Disturbed.concat (h : Disturbed settings s ops i names)
    (hrecords : (s.run settings (ops ++ [op])).Records i names) :
  Disturbed settings s (ops ++ [op]) i names
  := by
  obtain ⟨before, other, after, rfl, hremoves, hother, hkept⟩ := h
  refine ⟨before, other, after ++ [op], by simp, hremoves, hother, ?_⟩
  intro first hfirst
  rcases List.prefix_concat_iff.1 hfirst with rfl | hfirst
  · rw [← List.cons_append, ← List.append_assoc]
    exact hrecords
  · apply hkept first hfirst

theorem held_of_records_unpinLink (hheld : s.Held i names)
    (hrecords : (s.perform settings (.unpinLink i)).2.Records i names) :
  (s.perform settings (.unpinLink i)).2.Held i names
  := by
  obtain ⟨handle, id, hhandle, hon, hpin⟩ := hheld
  obtain hsame | ⟨path, -, hafter⟩ := unpinLink_cases settings hhandle
  · rw [hsame]
    exact ⟨handle, id, hhandle, hon, hpin⟩
  · rw [hafter] at hrecords
    obtain ⟨hne, -⟩ | ⟨-, recorded, hrecorded, -⟩ := records_of_set hhandle rfl hrecords
    · exact absurd rfl hne
    · cases hrecorded

/-- A handle holds the pin that it has recorded unless something else has removed it since. -/
theorem held_of_records (settings : Settings) (h : s.Sound) (hempty : s.links = [])
    (ops : List Operation) (hrecords : (s.run settings ops).Records i names)
    (hdisturbed : ¬ Disturbed settings s ops i names) :
  (s.run settings ops).Held i names
  := by
  -- The induction is on the end of the run: the operation made last has kept the pin, has made it, or
  -- has disturbed the handle.
  induction ops using List.reverseRecOn with
  | nil =>
      obtain ⟨handle, path, hhandle, -⟩ := hrecords
      have hhandle : s.links[i]? = some handle := hhandle
      rw [hempty] at hhandle
      cases hhandle
  | append_singleton ops op ih =>
      have hsound : (s.run settings ops).Sound := h.run ops
      have hlast : ((s.run settings ops).perform settings op).2.Records i names := by
        rw [← run_concat]
        exact hrecords
      rw [run_concat]
      obtain hbefore | hheld := hsound.records_perform hlast
      · have hheld : (s.run settings ops).Held i names :=
          ih hbefore fun hd => hdisturbed (hd.concat hrecords)
        by_cases hop : op = .unpinLink i
        · rw [hop] at hlast ⊢
          apply held_of_records_unpinLink hheld hlast
        · apply hheld.perform hsound settings
          intro hremoves
          refine hdisturbed ⟨ops, op, [], rfl, hremoves, hop, ?_⟩
          intro first hfirst
          rw [List.prefix_nil.1 hfirst]
          exact hrecords
      · exact hheld

/-- A handle that has pinned its link holds the pin, if it has held the one that it had recorded. -/
theorem held_of_pinLink (h : s.Sound) {handle : Handle} (hhandle : s.links[i]? = some handle)
    (hrecorded : s.Records i path.components → s.Held i path.components) {answer : Option Pinned}
    (hok : (s.perform settings (.pinLink i path)).1 = .ok answer) :
  (s.perform settings (.pinLink i path)).2.Held i path.components
  := by
  obtain ⟨e, herror, -⟩ | ⟨hpinned, hsame⟩ | ⟨fd, object, hfd, hobject, -, hpin⟩ :=
    pinLink_cases settings hhandle path
  · rw [herror] at hok
    cases hok
  · rw [hsame]
    obtain ⟨recorded, hrecord, hnames⟩ := isPinnedAt_iff.1 hpinned
    apply hrecorded ⟨handle, recorded, hhandle, hrecord, hnames⟩
  · exact held_of_pinned h hhandle hfd hobject hpin

theorem isEmpty_of_pinLink_eq_ok {handle : Handle} (hhandle : s.links[i]? = some handle)
    {answer : Option Pinned} (hok : (s.perform settings (.pinLink i path)).1 = .ok answer) :
  path.isEmpty = false
  := by
  rw [perform_pinLink settings hhandle] at hok
  split at hok
  next => cases hok
  next hpath => exact Bool.eq_false_iff.2 hpath

end Records

end Session

/-- As long as nothing else has removed the pin that a handle has recorded, it is there, and it is a pin
of the link that the handle is on.  To pin the link then makes it load from the path, and to remove the
pin removes no pin of anything else. -/
theorem recorded_pin_held {settings : Settings} {m : Machine η} (h : m.Reachable settings)
    (ops : List Session.Operation) {i : Nat} {handle : Session.Handle}
    (hhandle : ((Session.start m).run settings ops).links[i]? = some handle) :
  let s := (Session.start m).run settings ops
  let Undisturbed (path : Path) :=
    ¬ Session.Disturbed settings (Session.start m) ops i path.components
  ∃ id, handle.On id s.state
    ∧ (∀ path, handle.link.pinned = some path → Undisturbed path →
      s.state.pins.get? path.components = some (.link id))
    ∧ (∀ path answer, (s.perform settings (.pinLink i path)).1 = .ok answer → Undisturbed path →
      let t := (s.perform settings (.pinLink i path)).2
      ∀ flags record, (∀ n, settings.infoLength = some n → 8 ≤ n) → Machine.ForOpening flags →
        t.state.HasDescriptors → t.state.links.get? id = some record →
          ∃ link u, t.perform settings (.loadPinned path flags) = (.ok (some (.link link)), u)
            ∧ ((link.id (kernel settings {})).run.run u.machine).1 = .ok id
            ∧ (handle.link.fd.isSome →
              ((handle.link.id (kernel settings {})).run.run t.machine).1 = .ok id))
    ∧ ((∀ path, handle.link.pinned = some path → Undisturbed path) →
      ∀ names, (s.perform settings (.unpinLink i)).2.state.pins.get? names
          ≠ s.state.pins.get? names →
        s.state.pins.get? names = some (.link id))
  := by
  intro s Undisturbed
  have hsound : s.Sound := (Session.sound_start h).run ops
  have hheld (path : Path) (hrecords : s.Records i path.components) (hpath : Undisturbed path) :
      s.Held i path.components :=
    Session.held_of_records settings (Session.sound_start h) rfl ops hrecords hpath
  obtain ⟨id, hon⟩ := hsound.links handle (List.mem_of_getElem? hhandle)
  have hpinned (path : Path) (hrecorded : handle.link.pinned = some path)
      (hpath : Undisturbed path) : s.state.pins.get? path.components = some (.link id) := by
    have hrecords : s.Records i path.components := ⟨handle, path, hhandle, hrecorded, rfl⟩
    exact (hheld path hrecords hpath).get?_pins hhandle hon
  refine ⟨id, hon, hpinned, ?_, ?_⟩
  · intro path answer hok hpath t flags record hlength hflags hfd hrecord
    have hsound' : t.Sound := hsound.perform (.pinLink i path)
    obtain ⟨handle', hhandle', hon'⟩ := hsound.on_perform settings (.pinLink i path) hhandle hon
    have hpin : t.state.pins.get? path.components = some (.link id) := by
      have hheld' : t.Held i path.components :=
        Session.held_of_pinLink hsound hhandle (fun hrecords => hheld path hrecords hpath) hok
      exact hheld'.get?_pins hhandle' hon'
    obtain ⟨link, u, hload, -, hid⟩ := Session.perform_loadPinned_of_link hsound'.valid hlength
      (Session.isEmpty_of_pinLink_eq_ok hhandle hok) hflags hfd hpin hrecord
    refine ⟨link, u, hload, hid, ?_⟩
    intro hopen
    have hextends : Session.Extends s.state t.state :=
      Session.extends_perform hsound.valid (.pinLink i path)
    obtain ⟨fd, hfd, hobject⟩ := (hon.mono hextends).of_isSome hopen
    rw [Machine.run_id_of_le settings hlength hfd hobject hrecord,
      hsound'.valid.records id record hrecord]
  · intro hrecorded names hchanged
    obtain hsame | ⟨path, hpath, hafter⟩ := Session.unpinLink_cases settings hhandle
    · rw [hsame] at hchanged
      exact absurd rfl hchanged
    · rw [hafter] at hchanged
      have hunpinned : (s.state.unpinned path.components).pins.get? names
          ≠ s.state.pins.get? names := hchanged
      rw [State.get?_pins_unpinned] at hunpinned
      by_cases hnames : names = path.components
      · rw [hnames]
        apply hpinned path hpath (hrecorded path hpath)
      · rw [if_neg hnames] at hunpinned
        exact absurd rfl hunpinned

/-- A machine with a program that two links attach. -/
def twoLinks : Machine Unit :=
  let load : ProgramLoad := ⟨.xdp, none, none, [.exit], ⟨"MIT", nul_not_mem_mit⟩, "", 0, 0, 0⟩
  (Machine.fresh ()).afterEvents {}
    [.request (.loadProgram load), .request (.createLink ⟨nthDescriptor 0, 1, .xdp, 0, .none⟩),
      .request (.createLink ⟨nthDescriptor 0, 2, .xdp, 0, .none⟩)]

/-- A link that has been pinned is pinned again, which does nothing, and is loaded from its path. -/
theorem recorded_pin_held_once :
  let path : Path := ⟨"/sys/fs/bpf/a"⟩
  let s := (Session.start twoLinks).run {} [.openLink (nthDescriptor 1), .pinLink 0 path]
  let t := (s.perform {} (.pinLink 0 path)).2
  s.state.pins.get? path.components = some (.link 1)
    ∧ ∃ link u, t.perform {} (.loadPinned path 0) = (.ok (some (.link link)), u)
      ∧ ((link.id (kernel {} {})).run.run u.machine).1 = .ok 1
  := by
  intro path s t
  have hhandle : s.links[0]? = some ⟨⟨.xdp, some (nthDescriptor 1), some path⟩, some (nthDescriptor 1)⟩ := by
    decide +kernel
  have hrecord : t.state.links.get? 1
      = some { LinkRecord.ofAttachType 1 .xdp 1 with target := 1 } := by
    decide +kernel
  have hundisturbed : ¬ Session.Disturbed {} (Session.start twoLinks)
      [.openLink (nthDescriptor 1), .pinLink 0 path] 0 path.components := by
    rintro ⟨before, op, after, hops, hremoves, -⟩
    have hmem : op ∈ [Session.Operation.openLink (nthDescriptor 1), .pinLink 0 path] := by
      rw [hops]
      exact List.mem_append_right _ List.mem_cons_self
    rcases List.mem_cons.1 hmem with rfl | hmem
    · exact hremoves
    · rw [List.mem_singleton.1 hmem] at hremoves
      exact hremoves
  have hreachable : twoLinks.Reachable {} := ⟨(), _, rfl⟩
  obtain ⟨id, -, hpinned, hload, -⟩ := recorded_pin_held hreachable _ hhandle
  have hpin : s.state.pins.get? path.components = some (.link id) :=
    hpinned path rfl hundisturbed
  have hone : s.state.pins.get? path.components = some (.link 1) := by
    decide +kernel
  rw [hone] at hpin
  cases hpin
  have hok : (s.perform {} (.pinLink 0 path)).1 = .ok none := by
    decide +kernel
  have hfd : t.state.HasDescriptors := by
    unfold State.HasDescriptors
    decide +kernel
  obtain ⟨link, u, hrun, hid, -⟩ :=
    hload path none hok hundisturbed 0 _ (by simp) Machine.forOpening_zero hfd hrecord
  exact ⟨hone, link, u, hrun, hid⟩

/-- Once its path has been freed elsewhere, a handle goes on to report the path: it does not pin the
link there again, and it removes the pin of another link.  A pin of a link that has been taken out
cannot be loaded. -/
theorem recorded_pin_lost :
  let path : Path := ⟨"/sys/fs/bpf/a"⟩
  let freed := (Session.start twoLinks).run {}
    [.openLink (nthDescriptor 1), .openLink (nthDescriptor 2), .pinLink 0 path, .unpin path]
  let again := freed.perform {} (.pinLink 0 path)
  let other := (freed.perform {} (.pinLink 1 path)).2
  let gone := (Session.start twoLinks).run {}
    [.openLink (nthDescriptor 1), .pinLink 0 path, .event (.removeLink 1)]
  let still := gone.perform {} (.pinLink 0 path)
  twoLinks.Reachable {}
    ∧ freed.links[0]? = some ⟨⟨.xdp, some (nthDescriptor 1), some path⟩, some (nthDescriptor 1)⟩
    ∧ freed.state.pins.get? path.components = none
    ∧ again.1 = .ok none
    ∧ (again.2.perform {} (.loadPinned path 0)).1 = .error (.ofErrno Command.objGet Errno.enoent)
    ∧ other.state.pins.get? path.components = some (.link 2)
    ∧ (other.perform {} (.unpinLink 0)).2.state.pins.get? path.components = none
    ∧ still.1 = .ok none
    ∧ (still.2.perform {} (.loadPinned path 0)).1
      = .error (.ofErrno Command.infoByFd Errno.enoent)
  := by
  refine ⟨⟨(), _, rfl⟩, ?_, ?_, ?_, ?_, ?_, ?_, ?_, ?_⟩
  · decide +kernel
  · decide +kernel
  · decide +kernel
  · decide +kernel
  · decide +kernel
  · decide +kernel
  · decide +kernel
  · decide +kernel

end Bpf
