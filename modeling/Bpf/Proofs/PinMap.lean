import Bpf.Proofs.Pins
import Mathlib.Data.Set.Finite.Basic

/-!
# The pins as a map

Seen from outside, the pins of a kernel are a finite map from the names on paths to what is pinned there
(`PinMap`).  Each operation on a pin is answered from this map, and changes it at its own path or not at
all (`PinAction.answer`, `PinAction.next`); a run of operations changes it as one after the other does.
-/

namespace Bpf

open Memory

variable {η : Type}

/-- What a pin is of: the kind of the object, and its id if it has one. -/
abbrev PinEntry := ObjectType × Option UInt32

/-- What is pinned, by the names on the path. -/
abbrev PinMap := List String → Option PinEntry

/-- Something that is done about a pin. -/
inductive PinAction where
  | pin (path : Path) (entry : PinEntry)
  | unpin (path : Path)
  | load (path : Path)
  | loadPinned (path : Path) (flags : UInt32)

instance (flags : UInt32) : Decidable (Machine.ForOpening flags) :=
  inferInstanceAs (Decidable (_ = _))

namespace PinAction

/-- The path of the pin. -/
def path : PinAction → Path
  | .pin path _ => path
  | .unpin path => path
  | .load path => path
  | .loadPinned path _ => path

/-- What an answer depends on besides the map. -/
structure Surroundings where
  /-- What fails when an object is opened, if it cannot be opened. -/
  device : Option IoError
  /-- How many bytes of a reply on a link the kernel fills in, unless all of them. -/
  infoLength : Option Nat

/-- What is found at a path, and opened. -/
def found (around : Surroundings) : Option PinEntry → Except Error PinEntry
  | none => .error (.ofErrno Command.objGet Errno.enoent)
  | some entry =>
    match around.device with
    | none => .ok entry
    | some failure => .error (.io failure)

/-- What has been opened, with a handle on it.  There is none on a link unless a reply on it reaches the
id. -/
def held (around : Surroundings) (entry : PinEntry) : Except Error (Option PinEntry) :=
  let filled := around.infoLength.getD LinkInfo.size
  if entry.1 = .link ∧ filled < 8 then .error (.fatal s!"link info truncated to {filled} bytes")
  else .ok (some entry)

/-- The answer to an action: what has been found, if anything was looked for. -/
def answer (around : Surroundings) (pins : PinMap) (action : PinAction) :
    Except Error (Option PinEntry) :=
  if action.path.isEmpty then .error Pin.emptyPath
  else
    match action with
    | .pin path _ =>
      if (pins path.components).isSome then .error (.ofErrno Command.objPin Errno.eexist)
      else .ok none
    | .unpin _ => .ok none
    | .load path => do held around (← found around (pins path.components))
    | .loadPinned path flags =>
      if Machine.ForOpening flags then do
        let entry ← found around (pins path.components)
        if entry.1 = .link then held around entry
        else throw (.ofErrno Command.infoByFd Errno.einval)
      else .error (.ofErrno Command.objGet Errno.einval)

/-- The map after an action. -/
def next (pins : PinMap) (action : PinAction) : PinMap :=
  if action.path.isEmpty then pins
  else
    match action with
    | .pin path entry =>
      if (pins path.components).isSome then pins
      else Function.update pins path.components (some entry)
    | .unpin path => Function.update pins path.components none
    | .load _ => pins
    | .loadPinned _ _ => pins

/-- What is pinned at another path stays there. -/
theorem next_of_ne (pins : PinMap) {action : PinAction} {names : List String}
    (h : names ≠ action.path.components) :
  action.next pins names = pins names
  := by
  unfold next
  split
  next => rfl
  next =>
    cases action with
    | pin path entry =>
        dsimp only
        split
        next => rfl
        next => exact Function.update_of_ne h _ _
    | unpin path => exact Function.update_of_ne h _ _
    | load path => rfl
    | loadPinned path flags => rfl

/-- To remove a pin once more changes nothing. -/
theorem next_unpin_unpin (pins : PinMap) (path : Path) :
  (unpin path).next ((unpin path).next pins) = (unpin path).next pins
  := by
  unfold next
  split
  next => rfl
  next => exact Function.update_idem _ _ _

section Finding

variable {around : Surroundings} {entry : PinEntry}

theorem found_of_device {failure : IoError} (h : around.device = some failure) :
  found around (some entry) = .error (.io failure)
  := by
  rw [found, h]

theorem found_of_none (h : around.device = none) :
  found around (some entry) = .ok entry
  := by
  rw [found, h]

theorem held_of_ne (h : entry.1 ≠ .link) :
  held around entry = .ok (some entry)
  := by
  apply if_neg
  rintro ⟨hlink, -⟩
  exact h hlink

theorem held_of_not_lt (h : ¬ around.infoLength.getD LinkInfo.size < 8) :
  held around entry = .ok (some entry)
  := by
  apply if_neg
  rintro ⟨-, hlt⟩
  exact h hlt

theorem held_of_lt (hlink : entry.1 = .link) (h : around.infoLength.getD LinkInfo.size < 8) :
  held around entry
    = .error (.fatal s!"link info truncated to {around.infoLength.getD LinkInfo.size} bytes")
  := if_pos ⟨hlink, h⟩

end Finding

end PinAction

/-! ### The map of a state -/

namespace Memory

/-- The kind of an object, and its id if it has one. -/
def Object.entry : Object → PinEntry
  | .program id _ _ => (.program, some id)
  | .link id => (.link, some id)
  | .map => (.map, none)

namespace State

/-- What is pinned in a state. -/
def pinMap (s : State) : PinMap := fun names => (s.pins.get? names).map Object.entry

theorem pinMap_pinned (s : State) (names : List String) (object : Object) :
  (s.pinned names object).pinMap = Function.update s.pinMap names (some object.entry)
  := by
  funext other
  rw [pinMap, get?_pins_pinned]
  by_cases h : other = names
  · rw [if_pos h, h, Function.update_self, Option.map_some]
  · rw [if_neg h, Function.update_of_ne h, pinMap]

theorem pinMap_unpinned (s : State) (names : List String) :
  (s.unpinned names).pinMap = Function.update s.pinMap names none
  := by
  funext other
  rw [pinMap, get?_pins_unpinned]
  by_cases h : other = names
  · rw [if_pos h, h, Function.update_self, Option.map_none]
  · rw [if_neg h, Function.update_of_ne h, pinMap]

/-- An entry of a link is that of a pin of the link. -/
theorem get?_pins_of_pinMap_link {s : State} {names : List String} {id : UInt32}
    (h : s.pinMap names = some (.link, some id)) :
  s.pins.get? names = some (.link id)
  := by
  obtain ⟨object, hpin, hentry⟩ := Option.map_eq_some_iff.1 h
  cases object with
  | map => cases hentry
  | program other programType attachType => cases hentry
  | link other =>
      cases hentry
      exact hpin

/-- There are no more than finitely many pins. -/
theorem finite_pinMap (s : State) :
  {names | s.pinMap names ≠ none}.Finite
  := by
  apply (s.pins.entries.map Prod.fst).toFinset.finite_toSet.subset
  intro names hnames
  rw [Finset.mem_coe, List.mem_toFinset]
  cases hget : s.pins.get? names with
  | some object => exact Assoc.mem_keys_of_get? hget
  | none =>
      rw [Set.mem_ofPred_eq, pinMap, hget] at hnames
      exact absurd rfl hnames

end State

end Memory

/-- The kind of an object that has been found, and its id as the kernel tells it. -/
def Pinned.entry {σ : Type} (K : Kernel σ) : Pinned → Action σ PinEntry
  | .map _ => pure (.map, none)
  | .program p => do return (.program, some (← p.id K))
  | .link l => do return (.link, some (← l.id K))

namespace Session

/-- What answers depend on besides the map. -/
def around (settings : Settings) (s : Session η) : PinAction.Surroundings :=
  ⟨s.state.device, settings.infoLength⟩

/-- The operation does something about a pin; a handle that pins is open, and has not recorded the path
if it is on a link. -/
def Operation.Does (op : Operation) (s : Session η) : PinAction → Prop
  | .pin path entry =>
    ∃ i fd object, s.state.object? fd = some object ∧ object.entry = entry
      ∧ (op = .pinProgram i path ∧ s.program i = some fd
        ∨ op = .pinLink i path ∧ ∃ handle, s.links[i]? = some handle ∧ handle.link.fd = some fd
          ∧ handle.link.isPinnedAt path = false)
  | .unpin path => op = .unpin path
  | .load path => op = .load path
  | .loadPinned path flags => op = .loadPinned path flags

/-- The operation is answered in this way.  What it has found is of the kind and has the id that are
expected, and a link has recorded the path. -/
def Shows (settings : Settings) (answered : Except Error (Option Pinned) × Session η)
    (path : Path) : Except Error (Option PinEntry) → Prop
  | .error e => answered.1 = .error e
  | .ok none => answered.1 = .ok none
  | .ok (some entry) =>
    ∃ found, answered.1 = .ok (some found)
      ∧ ((found.entry (kernel settings {})).run.run answered.2.machine).1 = .ok entry
      ∧ ∀ link, found = .link link → link.pinned = some path

/-- The operation is answered from the map as the action is, and changes the map as the action does. -/
def Serves (settings : Settings) (s : Session η) (op : Operation) (action : PinAction) : Prop :=
  Shows settings (s.perform settings op) action.path
      (action.answer (s.around settings) s.state.pinMap)
    ∧ (s.perform settings op).2.state.pinMap = action.next s.state.pinMap

section Answers

variable {settings : Settings} {s : Session η} {op : Operation} {path : Path} {entry : PinEntry}

theorem pinMap_congr {t t' : State} (h : t'.pins = t.pins) :
  t'.pinMap = t.pinMap
  := by
  unfold State.pinMap
  rw [h]

theorem isSome_pinMap (t : State) (names : List String) :
  (t.pinMap names).isSome = (t.pins.get? names).isSome
  := by
  rw [State.pinMap, Option.isSome_map]

theorem adds_pinProgram (settings : Settings) {i : Nat} {fd : Descriptor}
    (h : s.program i = some fd) (path : Path) :
  (s.perform settings (.pinProgram i path)).1
      = ((Pin.add (kernel settings {}) fd path).run.run s.machine).1.map (fun _ => none)
    ∧ (s.perform settings (.pinProgram i path)).2.machine
      = ((Pin.add (kernel settings {}) fd path).run.run s.machine).2
  := by
  obtain ⟨⟨handle, programType⟩, hfound, hfd⟩ := Option.bind_eq_some_iff.1 h
  cases hfd
  have hpin : ((Program.mk (some fd) programType).pin (kernel settings {}) path).run.run s.machine
      = (Pin.add (kernel settings {}) fd path).run.run s.machine := rfl
  rw [perform, hfound]
  dsimp only
  rw [asking, hpin]
  rcases (Pin.add (kernel settings {}) fd path).run.run s.machine with ⟨e | u, m'⟩
  · exact ⟨rfl, rfl⟩
  · exact ⟨rfl, rfl⟩

theorem adds_pinLink (settings : Settings) {i : Nat} {handle : Handle} {fd : Descriptor}
    (hhandle : s.links[i]? = some handle) (hfd : handle.link.fd = some fd)
    (hpinned : handle.link.isPinnedAt path = false) :
  (s.perform settings (.pinLink i path)).1
      = ((Pin.add (kernel settings {}) fd path).run.run s.machine).1.map (fun _ => none)
    ∧ (s.perform settings (.pinLink i path)).2.machine
      = ((Pin.add (kernel settings {}) fd path).run.run s.machine).2
  := by
  rw [perform_pinLink settings hhandle, hpinned]
  cases hpath : path.isEmpty with
  | true =>
      rw [Machine.run_add_of_isEmpty settings fd hpath]
      exact ⟨rfl, rfl⟩
  | false =>
      simp only [Bool.false_eq_true, if_false, hfd]
      rcases (Pin.add (kernel settings {}) fd path).run.run s.machine with ⟨e | u, m'⟩
      · exact ⟨rfl, rfl⟩
      · exact ⟨rfl, rfl⟩

/-- To pin is answered from the map and adds at most one entry. -/
theorem serves_pin (settings : Settings) (hdoes : op.Does s (.pin path entry)) :
  s.Serves settings op (.pin path entry)
  := by
  obtain ⟨i, fd, object, hobject, rfl, hop⟩ := hdoes
  have hadds : (s.perform settings op).1
        = ((Pin.add (kernel settings {}) fd path).run.run s.machine).1.map (fun _ => none)
      ∧ (s.perform settings op).2.machine
        = ((Pin.add (kernel settings {}) fd path).run.run s.machine).2 := by
    obtain ⟨rfl, hprogram⟩ | ⟨rfl, handle, hhandle, hfd, hpinned⟩ := hop
    · apply adds_pinProgram settings hprogram
    · apply adds_pinLink settings hhandle hfd hpinned
  obtain ⟨hanswer, hmachine⟩ := hadds
  have hstate : (s.perform settings op).2.state
      = ((Pin.add (kernel settings {}) fd path).run.run s.machine).2.state :=
    congrArg Machine.state hmachine
  rw [Serves, hstate, PinAction.answer, PinAction.next, PinAction.path]
  cases hpath : path.isEmpty with
  | true =>
      rw [Machine.run_add_of_isEmpty settings fd hpath] at hanswer ⊢
      exact ⟨hanswer, rfl⟩
  | false =>
      simp only [Bool.false_eq_true, if_false, isSome_pinMap]
      cases hpin : s.state.pins.get? path.components with
      | none =>
          rw [Machine.run_add_of_free settings hpath hobject hpin] at hanswer ⊢
          refine ⟨hanswer, ?_⟩
          apply State.pinMap_pinned (s.state.counted Command.objPin)
      | some other =>
          rw [Machine.run_add_of_taken settings hpath hobject hpin] at hanswer ⊢
          exact ⟨hanswer, rfl⟩

/-- To remove a pin always succeeds and frees its path. -/
theorem serves_unpin (settings : Settings) (s : Session η) (path : Path) :
  s.Serves settings (.unpin path) (.unpin path)
  := by
  rw [Serves, perform, asking, PinAction.answer, PinAction.next, PinAction.path]
  cases hpath : path.isEmpty with
  | true =>
      rw [Machine.run_remove_of_isEmpty settings hpath]
      exact ⟨rfl, rfl⟩
  | false =>
      rw [Machine.run_remove settings hpath]
      refine ⟨rfl, ?_⟩
      apply State.pinMap_unpinned (s.state.counted Command.unlink)

theorem pinMap_of_get? {names : List String} {object : Object}
    (h : s.state.pins.get? names = some object) :
  s.state.pinMap names = some object.entry
  := congrArg (Option.map Object.entry) h

theorem pinMap_of_free {names : List String} (h : s.state.pins.get? names = none) :
  s.state.pinMap names = none
  := congrArg (Option.map Object.entry) h

/-- A reply reaches the id of a link, unless it is cut off before. -/
theorem le_infoLength (h : ¬ settings.infoLength.getD LinkInfo.size < 8) :
  ∀ n, settings.infoLength = some n → 8 ≤ n
  := by
  intro n hn
  rw [hn, Option.getD_some] at h
  omega

/-- A link that has been loaded is shown as what it is. -/
theorem shows_loadedLink (hvalid : s.state.Valid)
    (hlength : ∀ n, settings.infoLength = some n → 8 ≤ n) {id : UInt32} {record : LinkRecord}
    (hrecord : s.state.links.get? id = some record) (path : Path) :
  let link := s.machine.loadedLink record path
  let machine := (s.machine.openedPin (.link id)).counted Command.infoByFd
  Shows settings (.ok (some (.link link)), keep { s with machine } (.link link)) path
    (.ok (some (Object.link id).entry))
  := by
  intro link machine
  refine ⟨.link link, rfl, ?_, ?_⟩
  · have hid := Machine.run_id_loadedLink hlength hvalid hrecord path
    rw [machine_keep, Pinned.entry, Action.run_bind_of_ok hid]
    rfl
  · intro found hfound
    cases hfound
    rfl

/-- What is loaded from a path is of the kind and has the id that the map has there. -/
theorem shows_load_of_pinned (hvalid : s.state.Valid) (hcomplete : s.state.Complete)
    (hpath : path.isEmpty = false) (hfd : s.state.HasDescriptors) {object : Object}
    (hpin : s.state.pins.get? path.components = some object) :
  Shows settings (s.perform settings (.load path)) path
    (PinAction.held (s.around settings) object.entry)
  := by
  cases object with
  | map =>
      rw [PinAction.held_of_ne ObjectType.noConfusion, perform,
        opening_of_ok (Machine.run_load_of_map settings hpath hfd hpin)]
      refine ⟨_, rfl, rfl, ?_⟩
      intro link hlink
      cases hlink
  | program id programType attachType =>
      rw [PinAction.held_of_ne ObjectType.noConfusion, perform,
        opening_of_ok (Machine.run_load_of_program settings hpath hfd hpin)]
      refine ⟨_, rfl, ?_, ?_⟩
      · have hid := Machine.run_program_id settings programType
          (s.machine.object?_openedPin (.program id programType attachType))
        rw [machine_keep, Pinned.entry, Action.run_bind_of_ok hid]
        rfl
      · intro link hlink
        cases hlink
  | link id =>
      obtain ⟨record, hrecord⟩ := hcomplete id (.inr ⟨path.components, hpin⟩)
      by_cases hshort : settings.infoLength.getD LinkInfo.size < 8
      · rw [PinAction.held_of_lt rfl hshort, perform,
          opening_of_error (Machine.run_load_of_lt hshort hpath hfd hpin hrecord)]
        exact rfl
      · have hlength := le_infoLength hshort
        rw [PinAction.held_of_not_lt hshort, perform,
          opening_of_ok (Machine.run_load_of_link hlength hpath hfd hpin hrecord)]
        apply shows_loadedLink hvalid hlength hrecord

/-- Only what the map has as a link can be loaded as a link. -/
theorem shows_loadPinned_of_pinned (hvalid : s.state.Valid) (hcomplete : s.state.Complete)
    (hpath : path.isEmpty = false) {flags : UInt32} (hflags : Machine.ForOpening flags)
    (hfd : s.state.HasDescriptors) {object : Object}
    (hpin : s.state.pins.get? path.components = some object) :
  Shows settings (s.perform settings (.loadPinned path flags)) path
    (if object.entry.1 = .link then PinAction.held (s.around settings) object.entry
      else .error (.ofErrno Command.infoByFd Errno.einval))
  := by
  have hrefused (hlink : object.objectType ≠ .link) :
      (s.perform settings (.loadPinned path flags)).1
        = .error (.ofErrno Command.infoByFd Errno.einval) := by
    rw [perform, opening_link_of_error
      (Machine.run_loadPinned_of_not_link hpath hflags hfd hpin hlink)]
  cases object with
  | map => exact hrefused ObjectType.noConfusion
  | program id programType attachType => exact hrefused ObjectType.noConfusion
  | link id =>
      obtain ⟨record, hrecord⟩ := hcomplete id (.inr ⟨path.components, hpin⟩)
      have hkind : (Object.link id).entry.1 = .link := rfl
      rw [if_pos hkind]
      by_cases hshort : settings.infoLength.getD LinkInfo.size < 8
      · rw [PinAction.held_of_lt rfl hshort, perform, opening_link_of_error
          (Machine.run_loadPinned_of_lt hshort hpath hflags hfd hpin hrecord)]
        exact rfl
      · have hlength := le_infoLength hshort
        rw [PinAction.held_of_not_lt hshort, perform, opening_link_of_ok
          (Machine.run_loadPinned_of_link hlength hpath hflags hfd hpin hrecord)]
        apply shows_loadedLink hvalid hlength hrecord

/-- To load is answered from the map and leaves it as it is. -/
theorem serves_load (hvalid : s.state.Valid) (hcomplete : s.state.Complete) (path : Path) :
  s.Serves settings (.load path) (.load path)
  := by
  have hsame : (s.perform settings (.load path)).2.state.pinMap = s.state.pinMap :=
    pinMap_congr (pins_perform settings s trivial (.inl rfl))
  rw [Serves, hsame, PinAction.answer, PinAction.next, PinAction.path]
  cases hpath : path.isEmpty with
  | true =>
      rw [perform, opening_of_error (Machine.run_load_of_isEmpty settings hpath s.machine)]
      exact ⟨rfl, rfl⟩
  | false =>
      refine ⟨?_, rfl⟩
      simp only [Bool.false_eq_true, if_false]
      cases hpin : s.state.pins.get? path.components with
      | none =>
          have hopen := Machine.run_openPin_of_free settings Machine.forOpening_zero hpin
          rw [pinMap_of_free hpin, perform,
            opening_of_error (Machine.run_load_of_error settings hpath hopen)]
          exact rfl
      | some object =>
          rw [pinMap_of_get? hpin]
          cases hdevice : s.state.device with
          | none =>
              rw [PinAction.found_of_none hdevice]
              apply shows_load_of_pinned hvalid hcomplete hpath hdevice hpin
          | some failure =>
              have hopen := Machine.run_openPin_of_device settings Machine.forOpening_zero hpin
                hdevice
              rw [PinAction.found_of_device hdevice, perform,
                opening_of_error (Machine.run_load_of_error settings hpath hopen)]
              exact rfl

/-- To load a link is answered from the map and leaves it as it is. -/
theorem serves_loadPinned (hvalid : s.state.Valid) (hcomplete : s.state.Complete) (path : Path)
    (flags : UInt32) :
  s.Serves settings (.loadPinned path flags) (.loadPinned path flags)
  := by
  have hsame : (s.perform settings (.loadPinned path flags)).2.state.pinMap = s.state.pinMap :=
    pinMap_congr (pins_perform settings s trivial (.inl rfl))
  rw [Serves, hsame, PinAction.answer, PinAction.next, PinAction.path]
  have hrefused {e : Error} {m' : Machine η} (hpath : path.isEmpty = false)
      (hopen : ((kernel settings {}).openPin path flags).run.run s.machine = (.error e, m')) :
      (s.perform settings (.loadPinned path flags)).1 = .error e := by
    rw [perform, opening_link_of_error (Machine.run_loadPinned_of_error settings hpath hopen)]
  cases hpath : path.isEmpty with
  | true =>
      rw [perform,
        opening_link_of_error (Machine.run_loadPinned_of_isEmpty settings hpath flags s.machine)]
      exact ⟨rfl, rfl⟩
  | false =>
      refine ⟨?_, rfl⟩
      simp only [Bool.false_eq_true, if_false]
      by_cases hflags : Machine.ForOpening flags
      · rw [if_pos hflags]
        cases hpin : s.state.pins.get? path.components with
        | none =>
            rw [pinMap_of_free hpin]
            exact hrefused hpath (Machine.run_openPin_of_free settings hflags hpin)
        | some object =>
            rw [pinMap_of_get? hpin]
            cases hdevice : s.state.device with
            | none =>
                rw [PinAction.found_of_none hdevice]
                apply shows_loadPinned_of_pinned hvalid hcomplete hpath hflags hdevice hpin
            | some failure =>
                rw [PinAction.found_of_device hdevice]
                apply hrefused hpath
                apply Machine.run_openPin_of_device settings hflags hpin hdevice
      · rw [if_neg hflags]
        exact hrefused hpath (Machine.run_openPin_of_flags settings path hflags s.machine)

theorem Operation.Does.serves {action : PinAction} (hdoes : op.Does s action)
    (hvalid : s.state.Valid) (hcomplete : s.state.Complete) :
  s.Serves settings op action
  := by
  cases action with
  | pin path entry => apply serves_pin settings hdoes
  | unpin path =>
      cases hdoes
      apply serves_unpin
  | load path =>
      cases hdoes
      apply serves_load hvalid hcomplete
  | loadPinned path flags =>
      cases hdoes
      apply serves_loadPinned hvalid hcomplete

/-- Both ways to load a link from a path come to the same. -/
theorem load_eq_loadPinned (hcomplete : s.state.Complete) {id : UInt32} {flags : UInt32}
    (hflags : Machine.ForOpening flags)
    (hpin : s.state.pins.get? path.components = some (.link id)) :
  (s.perform settings (.load path)).1 = (s.perform settings (.loadPinned path flags)).1
  := by
  rw [perform, perform]
  cases hpath : path.isEmpty with
  | true =>
      rw [opening_of_error (Machine.run_load_of_isEmpty settings hpath s.machine),
        opening_link_of_error (Machine.run_loadPinned_of_isEmpty settings hpath flags s.machine)]
  | false =>
      cases hdevice : s.state.device with
      | some failure =>
          rw [opening_of_error (Machine.run_load_of_error settings hpath
              (Machine.run_openPin_of_device settings Machine.forOpening_zero hpin hdevice)),
            opening_link_of_error (Machine.run_loadPinned_of_error settings hpath
              (Machine.run_openPin_of_device settings hflags hpin hdevice))]
      | none =>
          obtain ⟨record, hrecord⟩ := hcomplete id (.inr ⟨path.components, hpin⟩)
          by_cases hshort : settings.infoLength.getD LinkInfo.size < 8
          · rw [opening_of_error (Machine.run_load_of_lt hshort hpath hdevice hpin hrecord),
              opening_link_of_error
                (Machine.run_loadPinned_of_lt hshort hpath hflags hdevice hpin hrecord)]
          · have hlength := le_infoLength hshort
            rw [opening_of_ok (Machine.run_load_of_link hlength hpath hdevice hpin hrecord),
              opening_link_of_ok
                (Machine.run_loadPinned_of_link hlength hpath hflags hdevice hpin hrecord)]

/-! ### Operations that are refused -/

/-- The operation is about the pin at a path, and goes through a handle that is there if it needs
one. -/
def Operation.IsAt (op : Operation) (s : Session η) (path : Path) : Prop :=
  (∃ i, op = .pinProgram i path ∧ s.programs[i]?.isSome)
    ∨ (∃ i, op = .pinLink i path ∧ s.links[i]?.isSome)
    ∨ op = .unpin path ∨ op = .load path ∨ ∃ flags, op = .loadPinned path flags

/-- An empty path is refused before the kernel is asked for anything. -/
theorem perform_of_isEmpty (settings : Settings) (hop : op.IsAt s path)
    (hpath : path.isEmpty = true) :
  ∃ what, s.perform settings op = (.error (.invalidInput what), s)
  := by
  obtain ⟨i, rfl, hsome⟩ | ⟨i, rfl, hsome⟩ | rfl | rfl | ⟨flags, rfl⟩ := hop
  · obtain ⟨⟨fd, programType⟩, hprogram⟩ := Option.isSome_iff_exists.1 hsome
    rw [perform, hprogram]
    dsimp only
    cases fd with
    | none => exact ⟨_, rfl⟩
    | some fd =>
        have hrun : ((Program.mk (some fd) programType).pin (kernel settings {}) path).run.run
              s.machine = (.error Pin.emptyPath, s.machine) :=
          Machine.run_add_of_isEmpty settings fd hpath s.machine
        rw [asking, hrun]
        exact ⟨_, rfl⟩
  · obtain ⟨handle, hhandle⟩ := Option.isSome_iff_exists.1 hsome
    rw [perform_pinLink settings hhandle, if_pos hpath]
    exact ⟨_, rfl⟩
  · rw [perform, asking, Machine.run_remove_of_isEmpty settings hpath]
    exact ⟨_, rfl⟩
  · rw [perform, opening_of_error (Machine.run_load_of_isEmpty settings hpath s.machine)]
    exact ⟨_, rfl⟩
  · rw [perform,
      opening_link_of_error (Machine.run_loadPinned_of_isEmpty settings hpath flags s.machine)]
    exact ⟨_, rfl⟩

/-- The operation would pin what a closed handle is on, at a path that the handle has not recorded. -/
def Operation.IsClosed (op : Operation) (s : Session η) : Prop :=
  (∃ i path program, op = .pinProgram i path ∧ s.programs[i]? = some program ∧ program.fd = none)
    ∨ ∃ i path handle, op = .pinLink i path ∧ s.links[i]? = some handle ∧ handle.link.fd = none
      ∧ handle.link.isPinnedAt path = false

/-- A closed handle is refused before the kernel is asked for anything. -/
theorem perform_of_isClosed (settings : Settings) (hop : op.IsClosed s) :
  ∃ what, s.perform settings op = (.error (.invalidInput what), s)
  := by
  obtain ⟨i, path, program, rfl, hprogram, hfd⟩ | ⟨i, path, handle, rfl, hhandle, hfd, hpinned⟩ := hop
  · obtain ⟨fd, programType⟩ := program
    cases hfd
    rw [perform, hprogram]
    exact ⟨_, rfl⟩
  · rw [perform_pinLink settings hhandle, hpinned, hfd]
    cases path.isEmpty with
    | true => exact ⟨_, rfl⟩
    | false => exact ⟨_, rfl⟩

/-! ### Runs -/

/-- No link is taken out. -/
def Operation.KeepsLinks : Operation → Prop
  | .event e => e.KeepsLinks
  | _ => True

theorem complete_perform (h : s.state.Complete) (settings : Settings) (hop : op.KeepsLinks) :
  (s.perform settings op).2.state.Complete
  := by
  obtain hsteps | ⟨id, rfl⟩ := steps_perform settings s op
  · apply h.steps hsteps
  · cases hop

theorem complete_run (h : s.state.Complete) (settings : Settings) {ops : List Operation}
    (hops : ∀ op ∈ ops, op.KeepsLinks) :
  (s.run settings ops).state.Complete
  := by
  induction ops generalizing s with
  | nil => exact h
  | cons op ops ih =>
      apply ih (complete_perform h settings (hops op List.mem_cons_self))
      intro other hother
      apply hops other (List.mem_cons_of_mem op hother)

theorem Operation.Does.keepsLinks {action : PinAction} (h : op.Does s action) :
  op.KeepsLinks
  := by
  cases action with
  | pin path entry =>
      obtain ⟨i, fd, object, -, -, ⟨rfl, -⟩ | ⟨rfl, -⟩⟩ := h
      · trivial
      · trivial
  | _ =>
      cases h
      trivial

/-- The operations do these things about pins, one after the other. -/
def Follows (settings : Settings) (s : Session η) : List (Operation × PinAction) → Prop
  | [] => True
  | call :: calls => call.1.Does s call.2 ∧ Follows settings (s.perform settings call.1).2 calls

/-- A run of actions changes the map as one after the other does. -/
theorem pinMap_run (hvalid : s.state.Valid) (hcomplete : s.state.Complete)
    {calls : List (Operation × PinAction)} (hcalls : s.Follows settings calls) :
  (s.run settings (calls.map Prod.fst)).state.Complete
    ∧ (s.run settings (calls.map Prod.fst)).state.pinMap
      = (calls.map Prod.snd).foldl PinAction.next s.state.pinMap
  := by
  induction calls generalizing s with
  | nil => exact ⟨hcomplete, rfl⟩
  | cons call calls ih =>
      obtain ⟨hdoes, hrest⟩ := hcalls
      have hserves : s.Serves settings call.1 call.2 := hdoes.serves hvalid hcomplete
      obtain ⟨-, hnext⟩ := hserves
      rw [List.map_cons, List.map_cons, List.foldl_cons, ← hnext]
      apply ih (valid_perform hvalid call.1) _ hrest
      apply complete_perform hcomplete settings hdoes.keepsLinks

end Answers

end Session

/-- As long as no link is taken out, the pins are a finite map from the names on paths to what is pinned
there.  Each operation is answered from the map, and changes it at its own path or not at all; both
ways to load a link from a path come to the same, which is a failure if replies on links do not reach
their ids; and neither for an empty path nor for a closed handle is the kernel asked for anything. -/
theorem pins_follow_map {settings : Settings} {m : Machine η} (h : m.ReachableKeeping settings)
    {before : List Session.Operation}
    (hbefore : ∀ op ∈ before, op.KeepsLinks) {calls : List (Session.Operation × PinAction)}
    (hcalls : ((Session.start m).run settings before).Follows settings calls) :
  let s := (Session.start m).run settings before
  let t := s.run settings (calls.map Prod.fst)
  {names | t.state.pinMap names ≠ none}.Finite
    ∧ t.state.pinMap = (calls.map Prod.snd).foldl PinAction.next s.state.pinMap
    ∧ (∀ op action, op.Does t action →
      t.Serves settings op action
        ∧ ∀ names, names ≠ action.path.components →
          (t.perform settings op).2.state.pinMap names = t.state.pinMap names)
    ∧ (∀ path,
      let once := (t.perform settings (.unpin path)).2
      (once.perform settings (.unpin path)).2.state.pinMap = once.state.pinMap)
    ∧ (∀ path flags id, t.state.pinMap path.components = some (.link, some id) →
      Machine.ForOpening flags →
        (t.perform settings (.load path)).1 = (t.perform settings (.loadPinned path flags)).1)
    ∧ (∀ op path, op.IsAt t path → path.isEmpty = true →
      ∃ what, t.perform settings op = (.error (.invalidInput what), t))
    ∧ ∀ op, op.IsClosed t → ∃ what, t.perform settings op = (.error (.invalidInput what), t)
  := by
  intro s t
  have hvalid : s.state.Valid := Session.valid_run (Session.sound_start h.reachable).valid before
  have hstart : (Session.start m).state.Complete := h.complete
  have hcomplete : s.state.Complete := Session.complete_run hstart settings hbefore
  obtain ⟨hcomplete', hmap⟩ := Session.pinMap_run hvalid hcomplete hcalls
  have hvalid' : t.state.Valid := Session.valid_run hvalid _
  refine ⟨t.state.finite_pinMap, hmap, ?_, ?_, ?_, ?_, ?_⟩
  · intro op action hdoes
    have hserves : t.Serves settings op action := hdoes.serves hvalid' hcomplete'
    refine ⟨hserves, ?_⟩
    intro names hnames
    rw [hserves.2, PinAction.next_of_ne _ hnames]
  · intro path once
    obtain ⟨-, honce⟩ := Session.serves_unpin settings t path
    obtain ⟨-, htwice⟩ := Session.serves_unpin settings once path
    rw [htwice]
    show (PinAction.unpin path).next (t.perform settings (.unpin path)).2.state.pinMap
      = (t.perform settings (.unpin path)).2.state.pinMap
    rw [honce, PinAction.next_unpin_unpin]
  · intro path flags id hpin hflags
    have hlink : t.state.pins.get? path.components = some (.link id) :=
      State.get?_pins_of_pinMap_link hpin
    exact Session.load_eq_loadPinned hcomplete' hflags hlink
  · intro op path hop hpath
    exact Session.perform_of_isEmpty settings hop hpath
  · intro op hop
    exact Session.perform_of_isClosed settings hop

/-- A machine on which a program has been loaded. -/
def loadedOnce (settings : Settings) : Machine Unit :=
  let load : ProgramLoad := ⟨.xdp, none, none, [.exit], ⟨"MIT", nul_not_mem_mit⟩, "", 0, 0, 0⟩
  (Machine.fresh ()).afterEvents settings [.request (.loadProgram load)]

theorem reachableKeeping_loadedOnce (settings : Settings) :
  (loadedOnce settings).ReachableKeeping settings
  := ⟨(), _, rfl, by simp [Event.KeepsLinks]⟩

/-- The program is attached to an interface. -/
def attachOnce : List Session.Operation :=
  [.attach (.create ⟨nthDescriptor 0, 1, .xdp, 0, .none⟩) .xdp]

theorem keepsLinks_attachOnce :
  ∀ op ∈ attachOnce, op.KeepsLinks
  := by
  intro op hop
  rw [List.mem_singleton.1 hop]
  trivial

/-- To pin the link of a handle is to add an entry. -/
theorem follows_pinOnce (settings : Settings) (path : Path)
    (hobject : ((Session.start (loadedOnce settings)).run settings attachOnce).state.object?
      (nthDescriptor 1) = some (.link 1))
    (hhandle : ((Session.start (loadedOnce settings)).run settings attachOnce).links[0]?
      = some ⟨⟨.xdp, some (nthDescriptor 1), none⟩, some (nthDescriptor 1)⟩) :
  ((Session.start (loadedOnce settings)).run settings attachOnce).Follows settings
    [(.pinLink 0 path, .pin path (.link, some 1))]
  := ⟨⟨0, nthDescriptor 1, .link 1, hobject, rfl, .inr ⟨rfl, _, hhandle, rfl, rfl⟩⟩, trivial⟩

/-- A link that has been pinned is loaded by another spelling of its path. -/
theorem pins_follow_map_spelling :
  let path : Path := ⟨"/sys/fs/bpf/a"⟩
  let spelling : Path := ⟨"/sys//fs/./bpf/a/"⟩
  let t := ((Session.start (loadedOnce {})).run {} attachOnce).run {} [.pinLink 0 path]
  Session.Shows {} (t.perform {} (.load spelling)) spelling (.ok (some (.link, some 1)))
    ∧ (t.perform {} (.load spelling)).1 = (t.perform {} (.loadPinned spelling 0)).1
  := by
  intro path spelling t
  have hcalls := follows_pinOnce {} path (by decide +kernel) (by decide +kernel)
  obtain ⟨-, -, hlaw, -, hsame, -⟩ :=
    pins_follow_map (reachableKeeping_loadedOnce {}) keepsLinks_attachOnce hcalls
  obtain ⟨⟨hshows, -⟩, -⟩ := hlaw (.load spelling) (.load spelling) rfl
  have hanswer : (PinAction.load spelling).answer (t.around {}) t.state.pinMap
      = .ok (some (.link, some 1)) := by
    decide +kernel
  have hpin : t.state.pinMap spelling.components = some (.link, some 1) := by
    decide +kernel
  refine ⟨?_, hsame spelling 0 1 hpin Machine.forOpening_zero⟩
  rw [← hanswer]
  exact hshows

/-- On a kernel that does not fill in the ids of links there is a pin of a link, but the link is not
loaded from it. -/
theorem pinned_link_not_loaded :
  let settings : Settings := { infoLength := some 4 }
  let path : Path := ⟨"/sys/fs/bpf/a"⟩
  let s := (Session.start (loadedOnce settings)).run settings attachOnce
  let t := s.run settings [.pinLink 0 path]
  (loadedOnce settings).ReachableKeeping settings
    ∧ s.Follows settings [(.pinLink 0 path, .pin path (.link, some 1))]
    ∧ t.state.pinMap path.components = some (.link, some 1) ∧ t.state.HasDescriptors
    ∧ (t.perform settings (.load path)).1 = .error (.fatal "link info truncated to 4 bytes")
    ∧ (t.perform settings (.loadPinned path 0)).1 = .error (.fatal "link info truncated to 4 bytes")
    ∧ ¬ Session.Shows settings (t.perform settings (.load path)) path (.ok (some (.link, some 1)))
  := by
  intro settings path s t
  have hload : (t.perform settings (.load path)).1
      = .error (.fatal "link info truncated to 4 bytes") := by decide +kernel
  refine ⟨reachableKeeping_loadedOnce settings, ?_, by decide +kernel, by decide +kernel, hload,
    by decide +kernel, ?_⟩
  · exact follows_pinOnce settings path (by decide +kernel) (by decide +kernel)
  · rintro ⟨found, hfound, -⟩
    rw [hload] at hfound
    cases hfound

end Bpf
