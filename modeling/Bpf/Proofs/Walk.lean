import Bpf.Link.Iterator
import Bpf.Proofs.Operations
import Mathlib

/-!
# Walks over a table that changes

A `Walk` is a `LinkIterator` on a kernel in memory, together with the moves it has made; between two
moves anybody may make links, take them out or let them go.  Each move finds the first link above the
last one that can be opened just then, so the ids ascend, and a link that can be opened whenever the
walk moves is met exactly once.
-/

namespace Bpf

open Memory

variable {η α : Type}

namespace Memory

/-! ### Opening a link -/

namespace State

/-- There is a link with the id, and it is not gone. -/
def Openable (s : State) (id : UInt32) : Prop :=
  ∃ link, s.links.get? id = some link ∧ link.released = false

instance (s : State) (id : UInt32) : Decidable (s.Openable id) :=
  match h : s.links.get? id with
  | none => isFalse fun ⟨_, hlink, _⟩ => nomatch h.symm.trans hlink
  | some link =>
    if hreleased : link.released = false then isTrue ⟨link, h, hreleased⟩
    else isFalse fun ⟨_, hlink, h'⟩ => hreleased (Option.some.inj (h.symm.trans hlink) ▸ h')

/-- No link has the smallest or the largest number as its id. -/
def IdsInRange (s : State) : Prop := ∀ id ∈ s.links.keys, 1 ≤ id ∧ id < 0xffffffff

theorem Openable.mem_keys {s : State} {id : UInt32} (h : s.Openable id) :
  id ∈ s.links.keys
  := by
  obtain ⟨link, hlink, -⟩ := h
  by_contra hmem
  rw [(s.links.get?_eq_none_iff id).2 hmem] at hlink
  cases hlink

theorem run_openLink {s : State} {id : UInt32} (h : s.Openable id) :
  (openLink id).run.run s = (openObject (.link id)).run.run s
  := by
  obtain ⟨link, hlink, hreleased⟩ := h
  show (Action.ofExcept (s.record Command.linkFdById Errno.enoent id) >>= _).run.run s = _
  rw [Action.run_ofExcept_bind, record, hlink]
  dsimp only
  rw [hreleased]
  rfl

theorem run_openLink_of_openable {s : State} {id : UInt32} (h : s.Openable id)
    (hfd : s.HasDescriptors) :
  (openLink id).run.run s = (.ok s.nextDescriptor, s.opened (.link id))
  := by
  rw [run_openLink h, run_openObject _ hfd]

theorem run_openLink_of_not_openable {s : State} {id : UInt32} (h : ¬ s.Openable id) :
  (openLink id).run.run s = (.error (.ofErrno Command.linkFdById Errno.enoent), s)
  := by
  show (Action.ofExcept (s.record Command.linkFdById Errno.enoent id) >>= _).run.run s = _
  rw [Action.run_ofExcept_bind, record]
  cases hlink : s.links.get? id with
  | none => rfl
  | some link =>
      have hreleased : link.released = true := by
        cases hr : link.released with
        | false => exact absurd ⟨link, hlink, hr⟩ h
        | true => rfl
      dsimp only
      rw [hreleased]
      rfl

theorem linkInfo_of_object {s : State} {fd : Descriptor} {id : UInt32} {record : LinkRecord}
    (length : Option Nat) (hobject : s.object? fd = some (.link id))
    (hrecord : s.links.get? id = some record) :
  s.linkInfo length fd = .ok (record.report length)
  := by
  simp only [linkInfo, linkId, hobject, State.record, hrecord, bind, Except.bind]
  rfl

/-- The search for the next id starts right above the last one. -/
theorem searchStart_le {cursor id : UInt32} (hid : cursor < id) :
  (if cursor = 0xffffffff then cursor else cursor + 1) ≤ id
  := by
  have hlt := UInt32.lt_iff_toNat_lt.1 hid
  have hid_lt := id.toNat_lt
  apply UInt32.le_iff_toNat_le.2
  split
  · omega
  · rw [UInt32.toNat_add]
    have : (1 : UInt32).toNat = 1 := rfl
    omega

theorem lt_of_searchStart_le {cursor id : UInt32} (hid : id < 0xffffffff)
    (h : (if cursor = 0xffffffff then cursor else cursor + 1) ≤ id) :
  cursor < id
  := by
  have hlt : id.toNat < 4294967295 := UInt32.lt_iff_toNat_lt.1 hid
  have hle := UInt32.le_iff_toNat_le.1 h
  apply UInt32.lt_iff_toNat_lt.2
  split at hle
  next hcursor =>
    have : cursor.toNat = 4294967295 := congrArg UInt32.toNat hcursor
    omega
  next hcursor =>
    have hne : cursor.toNat ≠ 4294967295 := fun h => hcursor (UInt32.toNat_inj.1 h)
    have hcursor_lt := cursor.toNat_lt
    rw [UInt32.toNat_add] at hle
    have : (1 : UInt32).toNat = 1 := rfl
    omega

theorem not_openable_of_nextLinkIdFrom_eq_none {s : State} {cursor id : UInt32}
    (h : s.nextLinkIdFrom cursor = none) (hid : cursor < id) :
  ¬ s.Openable id
  := by
  rintro ⟨link, hlink, -⟩
  have := Table.get?_eq_none_of_firstFrom_eq_none h (searchStart_le hid)
  rw [hlink] at this
  cases this

theorem nextLinkIdFrom_eq_some {s : State} {cursor next : UInt32} (hids : s.IdsInRange)
    (h : s.nextLinkIdFrom cursor = some next) :
  cursor < next ∧ ∀ id, cursor < id → id < next → ¬ s.Openable id
  := by
  obtain ⟨hstart, hnext, hbefore⟩ := Table.firstFrom_eq_some h
  refine ⟨lt_of_searchStart_le (hids next hnext).2 hstart, ?_⟩
  rintro id hid hlt ⟨link, hlink, -⟩
  rw [hbefore id (searchStart_le hid) hlt] at hlink
  cases hlink

end State

/-- The report on a link can be read if it goes as far as the id. -/
theorem LinkRecord.exists_readInfo_report {length : Option Nat}
    (hlength : ∀ n, length = some n → 8 ≤ n) (record : LinkRecord) :
  ∃ info, Link.readInfo (record.report length) = .ok info
  := by
  have hlong : ¬ (record.report length).length < LinkInfo.idOffset + 4 := by
    cases length with
    | none => simp [report, LinkInfo.size, LinkInfo.idOffset]
    | some n =>
        have := hlength n rfl
        simp only [report, LinkInfo.size, LinkInfo.idOffset, Option.getD_some]
        omega
  simp only [Link.readInfo, LinkInfo.decode, hlong, if_false]
  exact ⟨_, rfl⟩

/-! ### The answers of the kernel -/

namespace Machine

/-- The machine once a command has been counted. -/
def counted (m : Machine η) (call : String) : Machine η := { m with state := m.state.counted call }

/-- A request that counts as a command is answered by its operation. -/
theorem run_request {call : String} {operation : Action State α} {m : Machine η}
    {answer : Except Error α} {state : State}
    (h : operation.run.run (m.state.counted call) = (answer, state)) :
  ((do count call; change operation : Action (Machine η) α)).run.run m
    = (answer, { m with state })
  := by
  have hrun : ((do count call; change operation : Action (Machine η) α)).run.run m
      = ((operation.run.run (m.state.counted call)).1,
          { m with state := (operation.run.run (m.state.counted call)).2 }) := rfl
  rw [hrun, h]

theorem run_request_eq {call : String} {operation : Action State α} {m m' : Machine η}
    {answer : Except Error α}
    (h : ((do count call; change operation : Action (Machine η) α)).run.run m = (answer, m')) :
  operation.run.run (m.state.counted call) = (answer, m'.state)
  := by
  have hrun : ((do count call; change operation : Action (Machine η) α)).run.run m = _ :=
    run_request rfl
  rw [h] at hrun
  cases hrun
  rfl

theorem run_nextLinkId (settings : Settings) (cursor : UInt32) (m : Machine η) :
  ((kernel settings {}).nextLinkId cursor).run.run m
    = (.ok (m.state.nextLinkIdFrom cursor), m.counted Command.linkNextId)
  := rfl

theorem run_openLink_of_openable (settings : Settings) {id : UInt32} {m : Machine η}
    (h : m.state.Openable id) (hfd : m.state.HasDescriptors) :
  ∃ fd m', ((kernel settings {}).openLink id).run.run m = (.ok fd, m')
    ∧ m'.state.object? fd = some (.link id) ∧ m'.state.links = m.state.links
  := by
  have hopen := State.run_openLink_of_openable (s := m.state.counted Command.linkFdById) h hfd
  refine ⟨_, _, run_request hopen, ?_, rfl⟩
  apply State.object?_opened

theorem run_openLink_of_not_openable (settings : Settings) {id : UInt32} {m : Machine η}
    (h : ¬ m.state.Openable id) :
  ((kernel settings {}).openLink id).run.run m
    = (.error (.ofErrno Command.linkFdById Errno.enoent), m.counted Command.linkFdById)
  := by
  apply run_request
  apply State.run_openLink_of_not_openable (s := m.state.counted Command.linkFdById) h

theorem run_linkInfo (settings : Settings) {fd : Descriptor} {id : UInt32} {record : LinkRecord}
    {m : Machine η} (hobject : m.state.object? fd = some (.link id))
    (hrecord : m.state.links.get? id = some record) :
  ((kernel settings {}).linkInfo fd).run.run m
    = (.ok (record.report settings.infoLength), m.counted Command.infoByFd)
  := by
  have hinfo := State.linkInfo_of_object (s := m.state.counted Command.infoByFd)
    settings.infoLength hobject hrecord
  show (State.linkInfo settings.infoLength fd (m.state.counted Command.infoByFd), _) = _
  rw [hinfo]
  rfl

/-- Whoever asks about a link gets what is read from the reply on its record. -/
theorem run_queryInfo_report (settings : Settings) {fd : Descriptor} {id : UInt32}
    {record : LinkRecord} {m : Machine η} (hobject : m.state.object? fd = some (.link id))
    (hrecord : m.state.links.get? id = some record) :
  (Link.queryInfo (kernel settings {}) fd).run.run m
    = (Link.readInfo (record.report settings.infoLength), m.counted Command.infoByFd)
  := by
  rw [Link.queryInfo, Action.run_bind_of_ok (run_linkInfo settings hobject hrecord)]
  rfl

/-- A handle is made for a link that has just been opened, since the report on it goes as far as its
id. -/
theorem run_ofDescriptor {settings : Settings}
    (hlength : ∀ n, settings.infoLength = some n → 8 ≤ n) {fd : Descriptor} {id : UInt32}
    {m : Machine η} (hobject : m.state.object? fd = some (.link id))
    (h : m.state.Openable id) :
  ∃ link m', (Link.ofDescriptor (kernel settings {}) fd none).run.run m = (.ok link, m')
  := by
  obtain ⟨record, hrecord, -⟩ := h
  obtain ⟨info, hread⟩ := record.exists_readInfo_report hlength
  refine ⟨⟨info.linkType, some fd, none⟩, m.counted Command.infoByFd, ?_⟩
  have hquery := run_queryInfo_report settings hobject hrecord
  rw [hread] at hquery
  rw [Link.ofDescriptor, Action.run_bind_of_ok hquery]
  rfl

end Machine

end Memory

/-! ### The next link -/

namespace LinkIterator

/-- A search finds the first link above the cursor that can be opened, or that there is none. -/
theorem run_nextLink {settings : Settings}
    (hlength : ∀ n, settings.infoLength = some n → 8 ≤ n) (cursor : UInt32) :
    ∀ m : Machine η, m.state.IdsInRange → m.state.HasDescriptors →
      (∃ m', (nextLink (kernel settings {}) cursor).run.run m = (.ok none, m')
        ∧ ∀ id, cursor < id → ¬ m.state.Openable id)
      ∨ (∃ next link m',
          (nextLink (kernel settings {}) cursor).run.run m = (.ok (some (next, link)), m')
          ∧ m.state.Openable next.1 ∧ ∀ id, cursor < id → id < next.1 → ¬ m.state.Openable id)
  := by
  -- Only commands are counted on the way, so the table is the same at every step of the search.
  induction cursor using nextLink.induct with
  | case1 cursor ih =>
      intro m hids hfd
      rw [nextLink, Action.run_bind_of_ok (Machine.run_nextLinkId settings cursor m)]
      cases hnext : m.state.nextLinkIdFrom cursor with
      | none =>
          left
          refine ⟨_, rfl, ?_⟩
          intro id hid
          apply State.not_openable_of_nextLinkIdFrom_eq_none hnext hid
      | some next =>
          obtain ⟨hlt, hbefore⟩ := State.nextLinkIdFrom_eq_some hids hnext
          simp only [hlt, dite_true, Action.run_attempt_bind]
          by_cases hopenable : m.state.Openable next
          · right
            obtain ⟨fd, m₁, hopen, hobject, hlinks⟩ := Machine.run_openLink_of_openable settings
              (m := m.counted Command.linkNextId) hopenable hfd
            have hopenable₁ : m₁.state.Openable next := by
              rw [State.Openable, hlinks]
              apply hopenable
            obtain ⟨link, m₂, hlink⟩ := Machine.run_ofDescriptor hlength hobject hopenable₁
            refine ⟨⟨next, hlt⟩, link, m₂, ?_, hopenable, hbefore⟩
            rw [hopen, Action.run_bind_of_ok hlink]
            rfl
          · have hopen := Machine.run_openLink_of_not_openable settings
              (m := m.counted Command.linkNextId) hopenable
            rw [hopen]
            have hnot : ∀ id, cursor < id → id ≤ next → ¬ m.state.Openable id := by
              intro id hid hle
              rcases UInt32.lt_or_eq_of_le hle with hlt | rfl
              · apply hbefore id hid hlt
              · apply hopenable
            have hgone : (Error.ofErrno Command.linkFdById Errno.enoent).isErrno Errno.enoent :=
              rfl
            simp only [hgone, if_true]
            obtain ⟨m', hrun, hnone⟩ | ⟨found, link, m', hrun, hfound, hfirst⟩ :=
              ih next hlt ((m.counted Command.linkNextId).counted Command.linkFdById) hids hfd
            · left
              refine ⟨m', ?_, ?_⟩
              · rw [Action.run_bind_of_ok hrun]
                rfl
              · intro id hid
                by_cases hle : id ≤ next
                · apply hnot id hid hle
                · apply hnone id (UInt32.not_le.1 hle)
            · right
              refine ⟨⟨found.1, UInt32.lt_trans hlt found.2⟩, link, m', ?_, hfound, ?_⟩
              · rw [Action.run_bind_of_ok hrun]
                rfl
              · intro id hid hbelow
                by_cases hle : id ≤ next
                · apply hnot id hid hle
                · apply hfirst id (UInt32.not_le.1 hle) hbelow

/-- What a move makes of the answer of a search. -/
theorem run_advance {σ : Type} (K : Kernel σ) {it : LinkIterator} (hdone : it.done = false)
    (s : σ) :
  (advance K).run (it, s)
    = match (nextLink K it.id).run.run s with
      | (.ok (some (id, link)), s') => (true, ({ it with id := id.1, link := some link }, s'))
      | (.ok none, s') => (false, ({ it with link := none, done := true }, s'))
      | (.error e, s') =>
        (false, ({ it with link := none, error := some e, done := true }, s'))
  := by
  obtain ⟨id, link, error, done⟩ := it
  cases hdone
  have hsearch : (onPart (Part.second LinkIterator σ) (nextLink K id).run).run
        (⟨id, link, error, false⟩, s)
      = (((nextLink K id).run.run s).1,
          (⟨id, link, error, false⟩, ((nextLink K id).run.run s).2)) := rfl
  simp only [advance, StateT.run_bind, StateT.run_get, pure_bind]
  simp only [Bool.false_eq_true, if_false, StateT.run_bind]
  rw [hsearch]
  rcases (nextLink K id).run.run s with ⟨e | _ | ⟨next, found⟩, s'⟩
  · rfl
  · rfl
  · rfl

end LinkIterator

/-! ### Walks -/

namespace Memory

/-- Something that changes the links of a kernel. -/
inductive Change where
  | createLink (request : LinkCreate)
  | openRawTracepoint (name : Option NulFree) (program : Descriptor)
  | insertLink (link : LinkRecord)
  | removeLink (id : UInt32)
  | releaseLink (id : UInt32)

/-- The machine after a change. -/
def Change.apply (settings : Settings) (m : Machine η) : Change → Machine η
  | .createLink request => (((kernel settings {}).createLink request).run.run m).2
  | .openRawTracepoint name program =>
    (((kernel settings {}).openRawTracepoint name program).run.run m).2
  | .insertLink link => { m with state := m.state.insertLink link }
  | .removeLink id => { m with state := m.state.removeLink id }
  | .releaseLink id => { m with state := m.state.releaseLink id }

end Memory

/-- What happens in the course of a walk. -/
inductive WalkEvent where
  | change (change : Change)
  | advance

/-- A move of a walk. -/
structure Move where
  /-- The state of the kernel in which the move was made. -/
  state : State
  /-- The id of the link to which it led, if there was one. -/
  exposed : Option UInt32

/-- A walk under way. -/
structure Walk (η : Type) where
  iterator : LinkIterator
  machine : Machine η
  /-- The moves up to the first one that led nowhere. -/
  moves : List Move

namespace Walk

/-- A walk that has not begun. -/
def start (m : Machine η) : Walk η := ⟨.new, m, []⟩

/-- The ids of the links to which the moves have led. -/
def exposed (w : Walk η) : List UInt32 := w.moves.filterMap Move.exposed

/-- The walk after a move. -/
def advance (settings : Settings) (w : Walk η) : Walk η :=
  if w.iterator.done then w
  else
    let (more, iterator, machine) :=
      (LinkIterator.advance (kernel settings {})).run (w.iterator, w.machine)
    let move := ⟨w.machine.state, if more then some iterator.id else none⟩
    ⟨iterator, machine, w.moves ++ [move]⟩

/-- The walk after an event. -/
def step (settings : Settings) (w : Walk η) : WalkEvent → Walk η
  | .change change => { w with machine := change.apply settings w.machine }
  | .advance => w.advance settings

/-- The walk after a list of events. -/
def run (settings : Settings) (w : Walk η) (events : List WalkEvent) : Walk η :=
  events.foldl (step settings) w

/-- The link with an id could be opened whenever the walk has moved. -/
def Stable (w : Walk η) (id : UInt32) : Prop := ∀ move ∈ w.moves, move.state.Openable id

/-! ### Moves -/

/-- A move leads to the first link above the last one that can be opened, or ends the walk because
there is none. -/
theorem advance_cases {settings : Settings}
    (hlength : ∀ n, settings.infoLength = some n → 8 ≤ n) {w : Walk η}
    (hdone : w.iterator.done = false) (hids : w.machine.state.IdsInRange)
    (hfd : w.machine.state.HasDescriptors) :
  (∃ m',
      w.advance settings
        = ⟨{ w.iterator with link := none, done := true }, m',
            w.moves ++ [⟨w.machine.state, none⟩]⟩
      ∧ ∀ id, w.iterator.id < id → ¬ w.machine.state.Openable id)
  ∨ (∃ next link m',
      w.advance settings
        = ⟨{ w.iterator with id := next, link := some link }, m',
            w.moves ++ [⟨w.machine.state, some next⟩]⟩
      ∧ w.iterator.id < next ∧ w.machine.state.Openable next
      ∧ ∀ id, w.iterator.id < id → id < next → ¬ w.machine.state.Openable id)
  := by
  have hadvance := LinkIterator.run_advance (kernel settings {}) hdone w.machine
  obtain ⟨m', hrun, hnone⟩ | ⟨next, link, m', hrun, hopenable, hfirst⟩ :=
    LinkIterator.run_nextLink hlength w.iterator.id w.machine hids hfd
  · left
    rw [hrun] at hadvance
    refine ⟨m', ?_, hnone⟩
    simp only [advance, hdone, Bool.false_eq_true, if_false, hadvance]
  · right
    rw [hrun] at hadvance
    refine ⟨next.1, link, m', ?_, next.2, hopenable, hfirst⟩
    simp only [advance, hdone, Bool.false_eq_true, if_false, hadvance, if_true]

/-! ### What a walk keeps -/

/-- What holds of a walk however far it has come. -/
structure Sound (w : Walk η) : Prop where
  noError : w.iterator.error = none
  ascending : w.exposed.Pairwise (· < ·)
  behind : ∀ id ∈ w.exposed, id ≤ w.iterator.id
  opened : ∀ move ∈ w.moves, ∀ id, move.exposed = some id → move.state.Openable id
  /-- No link that could always be opened has been passed by. -/
  met : ∀ id, w.Stable id → (1 ≤ id ∧ id ≤ w.iterator.id) ∨ w.iterator.done = true →
    id ∈ w.exposed

theorem sound_start (m : Machine η) :
  (start m).Sound
  where
  noError := rfl
  ascending := .nil
  behind := by
    intro id hid
    cases hid
  opened := by
    intro move hmove
    cases hmove
  met := by
    rintro id - (⟨hone, hzero⟩ | hdone)
    · have : (1 : UInt32) ≤ 0 := UInt32.le_trans hone hzero
      cases this
    · cases hdone

theorem stable_append {w w' : Walk η} {move : Move} {id : UInt32}
    (hmoves : w'.moves = w.moves ++ [move]) :
  w'.Stable id ↔ w.Stable id ∧ move.state.Openable id
  := by
  simp only [Stable, hmoves, List.mem_append, List.mem_singleton]
  constructor
  · intro h
    exact ⟨fun m hm => h m (.inl hm), h move (.inr rfl)⟩
  · rintro ⟨hold, hnew⟩ m (hm | rfl)
    · apply hold m hm
    · apply hnew

theorem exposed_append {w w' : Walk η} {move : Move} (hmoves : w'.moves = w.moves ++ [move]) :
  w'.exposed = w.exposed ++ move.exposed.toList
  := by
  rw [exposed, hmoves, List.filterMap_append, exposed]
  cases h : move.exposed with
  | none => simp [h]
  | some id => simp [h]

theorem opened_append {w w' : Walk η} {move : Move} (hmoves : w'.moves = w.moves ++ [move])
    (h : w.Sound) (hmove : ∀ id, move.exposed = some id → move.state.Openable id) :
  ∀ m ∈ w'.moves, ∀ id, m.exposed = some id → m.state.Openable id
  := by
  intro m hm id hid
  rw [hmoves] at hm
  rcases List.mem_append.1 hm with hm | hm
  · apply h.opened m hm id hid
  · cases List.mem_singleton.1 hm
    apply hmove id hid

/-- A walk that ends has met all that could be opened to the last. -/
theorem Sound.of_none {w w' : Walk η} (h : w.Sound) (hids : w.machine.state.IdsInRange)
    (hiterator : w'.iterator = { w.iterator with link := none, done := true })
    (hmoves : w'.moves = w.moves ++ [⟨w.machine.state, none⟩])
    (hnone : ∀ id, w.iterator.id < id → ¬ w.machine.state.Openable id) :
  w'.Sound
  := by
  have hexposed : w'.exposed = w.exposed := by simp [exposed_append hmoves]
  constructor
  · rw [hiterator]
    apply h.noError
  · rw [hexposed]
    apply h.ascending
  · rw [hexposed, hiterator]
    apply h.behind
  · apply opened_append hmoves h
    intro id hid
    cases hid
  · intro id hstable _
    obtain ⟨hold, hopenable⟩ := (stable_append hmoves).1 hstable
    rw [hexposed]
    apply h.met id hold
    left
    refine ⟨(hids id hopenable.mem_keys).1, UInt32.not_lt.1 ?_⟩
    intro hlt
    apply hnone id hlt hopenable

/-- A walk that moves on passes by nothing that can be opened. -/
theorem Sound.of_some {w w' : Walk η} {next : UInt32} {link : Link} (h : w.Sound)
    (hdone : w.iterator.done = false)
    (hiterator : w'.iterator = { w.iterator with id := next, link := some link })
    (hmoves : w'.moves = w.moves ++ [⟨w.machine.state, some next⟩])
    (hlt : w.iterator.id < next) (hopenable : w.machine.state.Openable next)
    (hfirst : ∀ id, w.iterator.id < id → id < next → ¬ w.machine.state.Openable id) :
  w'.Sound
  := by
  have hexposed : w'.exposed = w.exposed ++ [next] := exposed_append hmoves
  constructor
  · rw [hiterator]
    apply h.noError
  · rw [hexposed]
    apply List.pairwise_append.2
    refine ⟨h.ascending, List.pairwise_singleton _ _, ?_⟩
    intro id hid last hlast
    cases List.mem_singleton.1 hlast
    apply UInt32.lt_of_le_of_lt (h.behind id hid) hlt
  · intro id hid
    rw [hexposed] at hid
    rw [hiterator]
    rcases List.mem_append.1 hid with hid | hid
    · apply UInt32.le_of_lt
      apply UInt32.lt_of_le_of_lt (h.behind id hid) hlt
    · cases List.mem_singleton.1 hid
      apply UInt32.le_refl
  · apply opened_append hmoves h
    intro id hid
    cases hid
    apply hopenable
  · intro id hstable hpassed
    obtain ⟨hold, hnow⟩ := (stable_append hmoves).1 hstable
    rw [hiterator] at hpassed
    rw [hexposed]
    apply List.mem_append.2
    rcases hpassed with ⟨hone, hle⟩ | hover
    · by_cases hbehind : id ≤ w.iterator.id
      · left
        apply h.met id hold
        left
        exact ⟨hone, hbehind⟩
      · right
        apply List.mem_singleton.2
        rcases UInt32.lt_or_eq_of_le hle with hbelow | heq
        · exact absurd hnow (hfirst id (UInt32.not_le.1 hbehind) hbelow)
        · exact heq
    · rw [hdone] at hover
      cases hover

/-! ### Runs -/

theorem moves_advance (settings : Settings) {w : Walk η} (hdone : w.iterator.done = false) :
  ∃ exposed, (w.advance settings).moves = w.moves ++ [⟨w.machine.state, exposed⟩]
  := by
  simp only [advance, hdone, Bool.false_eq_true, if_false]
  exact ⟨_, rfl⟩

theorem moves_subset_step (settings : Settings) (w : Walk η) (event : WalkEvent) :
  w.moves ⊆ (w.step settings event).moves
  := by
  cases event with
  | change => apply List.Subset.refl
  | advance =>
      rw [step]
      cases hdone : w.iterator.done with
      | true =>
          rw [advance, if_pos hdone]
          apply List.Subset.refl
      | false =>
          obtain ⟨exposed, hmoves⟩ := moves_advance settings hdone
          rw [hmoves]
          apply List.subset_append_left

theorem moves_subset_run (settings : Settings) (w : Walk η) (events : List WalkEvent) :
  w.moves ⊆ (w.run settings events).moves
  := by
  induction events generalizing w with
  | nil => apply List.Subset.refl
  | cons event rest ih =>
      apply List.Subset.trans (moves_subset_step settings w event)
      apply ih

theorem Sound.step {settings : Settings}
    (hlength : ∀ n, settings.infoLength = some n → 8 ≤ n) {w : Walk η} (h : w.Sound)
    {event : WalkEvent}
    (hids : ∀ move ∈ (w.step settings event).moves, move.state.IdsInRange)
    (hfds : ∀ move ∈ (w.step settings event).moves, move.state.HasDescriptors) :
  (w.step settings event).Sound
  := by
  cases event with
  | change => exact ⟨h.noError, h.ascending, h.behind, h.opened, h.met⟩
  | advance =>
      rw [Walk.step] at hids hfds ⊢
      cases hdone : w.iterator.done with
      | true =>
          rw [advance, if_pos hdone]
          apply h
      | false =>
          obtain ⟨exposed, hmoves⟩ := moves_advance settings hdone
          have hlast : ⟨w.machine.state, exposed⟩ ∈ (w.advance settings).moves := by
            simp [hmoves]
          have hids : w.machine.state.IdsInRange := hids _ hlast
          have hfd : w.machine.state.HasDescriptors := hfds _ hlast
          obtain ⟨m', heq, hnone⟩ | ⟨next, link, m', heq, hlt, hopenable, hfirst⟩ :=
            advance_cases hlength hdone hids hfd
          · rw [heq]
            apply h.of_none hids rfl rfl hnone
          · rw [heq]
            apply h.of_some hdone rfl rfl hlt hopenable hfirst

theorem Sound.run {settings : Settings}
    (hlength : ∀ n, settings.infoLength = some n → 8 ≤ n) {w : Walk η} (h : w.Sound)
    {events : List WalkEvent}
    (hids : ∀ move ∈ (w.run settings events).moves, move.state.IdsInRange)
    (hfds : ∀ move ∈ (w.run settings events).moves, move.state.HasDescriptors) :
  (w.run settings events).Sound
  := by
  induction events generalizing w with
  | nil => apply h
  | cons event rest ih =>
      have hsubset := moves_subset_run settings (w.step settings event) rest
      apply ih _ hids hfds
      apply h.step hlength
      · intro move hmove
        apply hids move (hsubset hmove)
      · intro move hmove
        apply hfds move (hsubset hmove)

/-- A walk fails at no time, whatever happens to the links between its moves.  The ids to which it
leads ascend, and each could be opened when the walk moved there.  When the walk is over it has met
every link that could always be opened, and met it once. -/
theorem walk_complete (settings : Settings)
    (hlength : ∀ n, settings.infoLength = some n → 8 ≤ n) (m : Machine η)
    (events : List WalkEvent)
    (hids : ∀ move ∈ ((start m).run settings events).moves, move.state.IdsInRange)
    (hfds : ∀ move ∈ ((start m).run settings events).moves, move.state.HasDescriptors) :
  let w := (start m).run settings events
  w.iterator.error = none
    ∧ w.exposed.Pairwise (· < ·)
    ∧ (∀ move ∈ w.moves, ∀ id, move.exposed = some id → move.state.Openable id)
    ∧ (w.iterator.done = true → ∀ id, w.Stable id → w.exposed.count id = 1)
  := by
  have h := (sound_start m).run hlength hids hfds
  refine ⟨h.noError, h.ascending, h.opened, ?_⟩
  intro hdone id hstable
  have hmet := h.met id hstable (.inr hdone)
  have hnodup : ((start m).run settings events).exposed.Nodup :=
    h.ascending.imp UInt32.ne_of_lt
  apply List.count_eq_one_of_mem hnodup hmet

/-- A machine with a program that has been opened and four links. -/
def busyMachine : Machine Unit :=
  let link (id : UInt32) : LinkRecord := .ofAttachType id .tcxIngress 1
  let state : State := State.opened {} (.program 1 .schedCls none)
  ⟨[3, 5, 9, 20].foldl (fun s id => s.insertLink (link id)) state, ()⟩

/-- Links are let go, taken out, put in and made while a walk is under way. -/
def busyEvents : List WalkEvent :=
  [ .change (.releaseLink 5), .advance, .change (.removeLink 3),
    .change (.insertLink (.ofAttachType 4 .tcxIngress 1)), .advance, .advance,
    .change (.removeLink 20), .change (.insertLink (.ofAttachType 7 .tcxIngress 1)),
    .change (.createLink ⟨nthDescriptor 0, 1, .tcxIngress, 0, .none⟩), .advance, .advance ]

/-- Of the links of the busy machine, the one with the id 9 can always be opened. -/
theorem walk_complete_busy :
  let w := (start busyMachine).run {} busyEvents
  (∀ move ∈ w.moves, move.state.IdsInRange) ∧ (∀ move ∈ w.moves, move.state.HasDescriptors)
    ∧ w.exposed = [3, 4, 9, 21] ∧ w.iterator.error = none ∧ w.exposed.count 9 = 1
  := by
  have hids : ((start busyMachine).run {} busyEvents).moves.all fun move =>
      move.state.links.keys.all fun id => decide (1 ≤ id) && decide (id < 0xffffffff) := by cbv
  have hfds : ((start busyMachine).run {} busyEvents).moves.all fun move =>
      decide move.state.HasDescriptors := by cbv
  have hstable : ((start busyMachine).run {} busyEvents).moves.all fun move =>
      decide (move.state.Openable 9) := by cbv
  simp only [List.all_eq_true, Bool.and_eq_true, decide_eq_true_eq] at hids hfds hstable
  have hexposed : ((start busyMachine).run {} busyEvents).exposed = [3, 4, 9, 21] := by cbv
  have hdone : ((start busyMachine).run {} busyEvents).iterator.done = true := by cbv
  obtain ⟨herror, -, -, hmet⟩ := walk_complete {} (by simp) busyMachine busyEvents hids hfds
  exact ⟨hids, hfds, hexposed, herror, hmet hdone 9 hstable⟩

end Walk

end Bpf
