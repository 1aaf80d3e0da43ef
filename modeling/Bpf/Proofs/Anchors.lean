import Bpf.Proofs.UnknownAnchors

/-!
# Anchors and places

An anchor `Names` an id, which is given or which the kernel reports for an object now, or it is `Lost`
because its object is closed or the kernel does not report on it.  A lost anchor is an error that says
which anchor it is, and any other one comes to flags and that id.  The flags tell the side and the kind
of the anchor, so anchors that differ in either, or in the id, come to different places; and nothing is
attached next to a lost anchor.
-/

namespace Bpf

variable {σ : Type}

/-- The request is for what the kernel reports about a program or a link. -/
def Request.IsInfo : Request → Prop
  | .programInfo _ => True
  | .linkInfo _ => True
  | _ => False

theorem Link.notes_queryInfo (K : Kernel σ) (fd : Descriptor) :
  Notes [.linkInfo fd] (Link.queryInfo K.watched fd) (Link.queryInfo K fd)
  := by
  apply Notes.bind
  · apply Notes.request
  · intro raw
    apply Notes.ofExcept

/-- What an anchor is next to. -/
inductive AnchorKind where
  | nothing
  | program
  | link
deriving DecidableEq

namespace Anchor

/-- The side on which the new program is to run. -/
def side : Anchor → Side
  | .head => .before
  | .tail => .after
  | .nextToProgram side _ => side
  | .nextToLink side _ => side

/-- What the anchor is next to. -/
def kind : Anchor → AnchorKind
  | .head => .nothing
  | .tail => .nothing
  | .nextToProgram _ _ => .program
  | .nextToLink _ _ => .link

/-! ### Ids -/

/-- The anchor has an id, and the kernel is left in a state after it was asked for it.  At the ends of
a chain that id is zero. -/
inductive Names (K : Kernel σ) (s : σ) : Anchor → UInt32 → σ → Prop
  | head : Names K s .head 0 s
  | tail : Names K s .tail 0 s
  | programId {side : Side} {id : UInt32} : Names K s (.nextToProgram side (.id id)) id s
  | linkId {side : Side} {id : UInt32} : Names K s (.nextToLink side (.id id)) id s
  | program {side : Side} {fd : Descriptor} {info : ProgramInfo} {s' : σ}
    (h : (K.programInfo fd).run.run s = (.ok info, s')) :
    Names K s (.nextToProgram side (.object (some fd))) info.id s'
  | link {side : Side} {link : Link} {fd : Descriptor} {info : LinkInfo} {s' : σ}
    (hfd : link.fd = some fd) (h : (Link.queryInfo K fd).run.run s = (.ok info, s')) :
    Names K s (.nextToLink side (.object link)) info.id s'

/-- The object of the anchor is closed, or the kernel does not report on it. -/
inductive Lost (K : Kernel σ) (s : σ) : Anchor → Error → σ → Prop
  | closedProgram {side : Side} :
    Lost K s (.nextToProgram side (.object none)) (.invalidInput "program is closed") s
  | closedLink {side : Side} {link : Link} (hfd : link.fd = none) :
    Lost K s (.nextToLink side (.object link)) (.invalidInput "link is closed") s
  | program {side : Side} {fd : Descriptor} {e : Error} {s' : σ}
    (h : (K.programInfo fd).run.run s = (.error e, s')) :
    Lost K s (.nextToProgram side (.object (some fd))) e s'
  | link {side : Side} {link : Link} {fd : Descriptor} {e : Error} {s' : σ}
    (hfd : link.fd = some fd) (h : (Link.queryInfo K fd).run.run s = (.error e, s')) :
    Lost K s (.nextToLink side (.object link)) e s'

/-- The error for an anchor that is lost. -/
def unresolved (anchor : Anchor) (cause : Error) : Error :=
  .invalidInput s!"resolve anchor {anchor.text}: {cause.message}"

section Ids

variable {K : Kernel σ} {s s' : σ} {anchor other : Anchor} {id : UInt32} {e : Error}

/-- Every anchor has an id or is lost, and which of the two is what comes of asking for the id. -/
theorem run_relative_cases (K : Kernel σ) (anchor : Anchor) (s : σ) :
  (∃ id s', (anchor.relative K).run.run s = (.ok id, s') ∧ anchor.Names K s id s')
    ∨ ∃ e s', (anchor.relative K).run.run s = (.error e, s') ∧ anchor.Lost K s e s'
  := by
  cases anchor with
  | head => exact .inl ⟨0, s, rfl, .head⟩
  | tail => exact .inl ⟨0, s, rfl, .tail⟩
  | nextToProgram side program =>
      cases program with
      | id id => exact .inl ⟨id, s, rfl, .programId⟩
      | object program =>
          cases program with
          | none => exact .inr ⟨_, s, rfl, .closedProgram⟩
          | some fd =>
              rcases h : (K.programInfo fd).run.run s with ⟨e | info, s'⟩
              · exact .inr ⟨e, s', Action.run_bind_of_error h, .program h⟩
              · exact .inl ⟨info.id, s', Action.run_bind_of_ok h, .program h⟩
  | nextToLink side link =>
      cases link with
      | id id => exact .inl ⟨id, s, rfl, .linkId⟩
      | object link =>
          obtain ⟨linkType, fd, pinned⟩ := link
          cases fd with
          | none => exact .inr ⟨_, s, rfl, .closedLink rfl⟩
          | some fd =>
              have hinfo : (Link.info K ⟨linkType, some fd, pinned⟩).run.run s
                  = (Link.queryInfo K fd).run.run s := rfl
              rcases h : (Link.queryInfo K fd).run.run s with ⟨e | info, s'⟩
              · exact .inr ⟨e, s', Action.run_bind_of_error (hinfo.trans h), .link rfl h⟩
              · exact .inl ⟨info.id, s', Action.run_bind_of_ok (hinfo.trans h), .link rfl h⟩

theorem Names.run_relative (h : anchor.Names K s id s') :
  (anchor.relative K).run.run s = (.ok id, s')
  := by
  cases h with
  | head => rfl
  | tail => rfl
  | programId => rfl
  | linkId => rfl
  | program h => exact Action.run_bind_of_ok h
  | @link side link fd info _ hfd h =>
      obtain ⟨linkType, _, pinned⟩ := link
      cases hfd
      exact Action.run_bind_of_ok h

theorem Lost.run_relative (h : anchor.Lost K s e s') :
  (anchor.relative K).run.run s = (.error e, s')
  := by
  cases h with
  | closedProgram => rfl
  | @closedLink side link hfd =>
      obtain ⟨linkType, _, pinned⟩ := link
      cases hfd
      rfl
  | program h => exact Action.run_bind_of_error h
  | @link side link fd _ _ hfd h =>
      obtain ⟨linkType, _, pinned⟩ := link
      cases hfd
      exact Action.run_bind_of_error h

theorem Names.run_resolve (h : anchor.Names K s id s') :
  (anchor.resolve K).run.run s = (.ok (anchor.flags, id), s')
  := by
  rw [resolve, Action.run_attempt_bind, h.run_relative]
  rfl

theorem Lost.run_resolve (h : anchor.Lost K s e s') :
  (anchor.resolve K).run.run s = (.error (anchor.unresolved e), s')
  := by
  rw [resolve, Action.run_attempt_bind, h.run_relative]
  rfl

/-- Only a lost anchor has no place, and the error says which one it is. -/
theorem run_resolve_eq_error_iff :
  (anchor.resolve K).run.run s = (.error e, s')
    ↔ ∃ cause, anchor.Lost K s cause s' ∧ e = anchor.unresolved cause
  := by
  constructor
  · intro hrun
    obtain ⟨id, s₁, -, hnames⟩ | ⟨cause, s₁, -, hlost⟩ := run_relative_cases K anchor s
    · rw [hnames.run_resolve] at hrun
      cases hrun
    · rw [hlost.run_resolve] at hrun
      cases hrun
      exact ⟨cause, hlost, rfl⟩
  · rintro ⟨cause, hlost, rfl⟩
    exact hlost.run_resolve

/-- The place of an anchor is the flags and the id. -/
theorem run_resolve_eq_ok_iff {flags : UInt32} :
  (anchor.resolve K).run.run s = (.ok (flags, id), s')
    ↔ flags = anchor.flags ∧ anchor.Names K s id s'
  := by
  constructor
  · intro hrun
    obtain ⟨id', s₁, -, hnames⟩ | ⟨cause, s₁, -, hlost⟩ := run_relative_cases K anchor s
    · rw [hnames.run_resolve] at hrun
      cases hrun
      exact ⟨rfl, hnames⟩
    · rw [hlost.run_resolve] at hrun
      cases hrun
  · rintro ⟨rfl, hnames⟩
    exact hnames.run_resolve

end Ids

/-! ### Flags -/

/-- Each flag tells one thing about the anchor. -/
theorem flags_tell (anchor : Anchor) :
  (anchor.flags &&& Flag.before ≠ 0 ↔ anchor.side = .before)
    ∧ (anchor.flags &&& Flag.after ≠ 0 ↔ anchor.side = .after)
    ∧ (anchor.flags &&& Flag.id ≠ 0 ↔ anchor.kind ≠ .nothing)
    ∧ (anchor.flags &&& Flag.link ≠ 0 ↔ anchor.kind = .link)
  := by
  cases anchor with
  | head => decide
  | tail => decide
  | nextToProgram side program =>
      cases side with
      | before => simp only [flags, side, kind]; decide
      | after => simp only [flags, side, kind]; decide
  | nextToLink side link =>
      cases side with
      | before => simp only [flags, side, kind]; decide
      | after => simp only [flags, side, kind]; decide

/-- The flags leave no doubt about the side and the kind. -/
theorem eq_of_flags_eq {anchor other : Anchor} (h : anchor.flags = other.flags) :
  anchor.side = other.side ∧ anchor.kind = other.kind
  := by
  obtain ⟨hbefore, -, hid, hlink⟩ := flags_tell anchor
  rw [h] at hbefore hid hlink
  obtain ⟨hbefore', -, hid', hlink'⟩ := flags_tell other
  have hside := hbefore.symm.trans hbefore'
  have hnothing := hid.symm.trans hid'
  have hlinks := hlink.symm.trans hlink'
  constructor
  · cases hanchor : anchor.side with
    | before => exact (hside.1 hanchor).symm
    | after =>
        cases hother : other.side with
        | before => exact absurd (hside.2 hother) (by simp [hanchor])
        | after => rfl
  · cases hanchor : anchor.kind with
    | nothing => exact (not_not.1 (mt hnothing.2 (not_not.2 hanchor))).symm
    | link => exact (hlinks.1 hanchor).symm
    | program =>
        cases hother : other.kind with
        | nothing => exact absurd hother (hnothing.1 (by simp [hanchor]))
        | program => rfl
        | link => exact absurd (hlinks.2 hother) (by simp [hanchor])

/-! ### What the kernel is asked -/

/-- What the kernel is asked for the id of an anchor. -/
def queries : Anchor → List Request
  | .nextToProgram _ (.object (some fd)) => [.programInfo fd]
  | .nextToLink _ (.object ⟨_, some fd, _⟩) => [.linkInfo fd]
  | _ => []

theorem notes_relative (K : Kernel σ) (anchor : Anchor) :
  Notes anchor.queries (anchor.relative K.watched) (anchor.relative K)
  := by
  cases anchor with
  | head => apply Notes.pure
  | tail => apply Notes.pure
  | nextToProgram side program =>
      rcases program with (_ | fd) | id
      · apply Notes.throw
      · apply Notes.bind
        · apply Notes.request
        · intro info
          apply Notes.pure
      · apply Notes.pure
  | nextToLink side link =>
      rcases link with ⟨linkType, _ | fd, pinned⟩ | id
      · apply Notes.throw
      · apply Notes.bind (Link.notes_queryInfo K fd)
        intro info
        apply Notes.pure
      · apply Notes.pure

theorem notes_resolve (K : Kernel σ) (anchor : Anchor) :
  Notes anchor.queries (anchor.resolve K.watched) (anchor.resolve K)
  := by
  apply Notes.attempt_bind (notes_relative K anchor)
  intro answer
  cases answer with
  | ok id => apply Notes.pure
  | error e => apply Notes.throw

theorem length_queries_le (anchor : Anchor) :
  anchor.queries.length ≤ 1
  := by
  unfold queries
  split
  all_goals simp

theorem isInfo_of_mem_queries {anchor : Anchor} {request : Request} (h : request ∈ anchor.queries) :
  request.IsInfo
  := by
  unfold queries at h
  split at h
  next fd =>
    cases List.mem_singleton.1 h
    trivial
  next fd _ =>
    cases List.mem_singleton.1 h
    trivial
  next => cases h

end Anchor

/-! ### Attachments next to anchors -/

section Attaching

variable {K : Kernel σ} {program : ProgramHandle} {a : Attachment} {place : ChainPlace} {d : Demand}

/-- An attachment next to a lost anchor breaks no contract but that of the anchor, and nothing is asked
of the kernel but the id. -/
theorem attach_of_lost {h : Host (σ × Log)} {cause : Error} {s' : σ} (hdemand : a.demand program = .ok d)
    (horder : d.order = .chain place) (hlost : place.anchor.Lost K h.kernel.1 cause s') :
  (attach K.watched program a).run.run h
    = (.error (place.anchor.unresolved cause),
        { h with kernel := (s', h.kernel.2.afterRequests place.anchor.queries) })
  := by
  have hanchor := Anchor.notes_resolve K place.anchor h.kernel.1 h.kernel.2
  rw [hlost.run_resolve] at hanchor
  have hresolve : (d.resolve K.watched).run.run h.kernel
      = (.error (place.anchor.unresolved cause),
        (s', h.kernel.2.afterRequests place.anchor.queries)) := by
    rw [Demand.resolve, horder]
    exact Action.run_bind_of_error hanchor
  exact attach_of_not_resolved hdemand hresolve

end Attaching

/-- To resolve an anchor fails if and only if its object is closed or the kernel does not report on it,
and then the error says which anchor it is.  Otherwise the place is the flags and the id that is given
or that the kernel reports now.  One of the bits tells that the new program is to run before, another
one that it is to run after, a third one that there is a neighbour, and a fourth one that the neighbour
is a link.  So anchors that differ in side or kind or id never come to the same place, whenever they
are resolved, an anchor that is lost comes to no place at all, and an attachment next to one does not
get as far as a request for a link. -/
theorem anchor_resolved_or_lost (K : Kernel σ) (anchor : Anchor) (s : σ) :
  let resolved := (anchor.resolve K).run.run s
  (∀ e s', resolved = (.error e, s')
      ↔ ∃ cause, anchor.Lost K s cause s'
        ∧ e = .invalidInput s!"resolve anchor {anchor.text}: {cause.message}")
    ∧ (∀ flags id s', resolved = (.ok (flags, id), s')
      ↔ flags = anchor.flags ∧ anchor.Names K s id s')
    ∧ ((anchor.flags &&& Flag.before ≠ 0 ↔ anchor.side = .before)
      ∧ (anchor.flags &&& Flag.after ≠ 0 ↔ anchor.side = .after)
      ∧ (anchor.flags &&& Flag.id ≠ 0 ↔ anchor.kind ≠ .nothing)
      ∧ (anchor.flags &&& Flag.link ≠ 0 ↔ anchor.kind = .link))
    ∧ (∀ (other : Anchor) t id id' s' t', anchor.Names K s id s' → other.Names K t id' t' →
      ((other.resolve K).run.run t).1 = resolved.1 →
      anchor.side = other.side ∧ anchor.kind = other.kind ∧ id = id')
    ∧ ∀ cause s', anchor.Lost K s cause s' →
      (∀ flags id, resolved.1 ≠ .ok (flags, id))
      ∧ ∀ program a place (h : Host (σ × Log)), a.InChain place → place.anchor = anchor →
        h.kernel.1 = s →
        let left := (attach K.watched program a).run.run h
        (∃ e, left.1 = .error e)
          ∧ ∃ requests, left.2.kernel.2 = h.kernel.2.afterRequests requests
            ∧ ∀ create, .createLink create ∉ requests
  := by
  intro resolved
  refine ⟨?_, ?_, anchor.flags_tell, ?_, ?_⟩
  · intro e s'
    exact Anchor.run_resolve_eq_error_iff
  · intro flags id s'
    exact Anchor.run_resolve_eq_ok_iff
  · intro other t id id' s' t' hnames hother hsame
    have hplace : resolved.1 = .ok (anchor.flags, id) := congrArg Prod.fst hnames.run_resolve
    rw [hplace, hother.run_resolve] at hsame
    obtain ⟨hflags, hid⟩ := Prod.mk.inj (Except.ok.inj hsame)
    obtain ⟨hside, hkind⟩ := Anchor.eq_of_flags_eq hflags
    exact ⟨hside.symm, hkind.symm, hid.symm⟩
  · intro cause s' hlost
    constructor
    · intro flags id hplace
      have herror : resolved.1 = .error (anchor.unresolved cause) :=
        congrArg Prod.fst hlost.run_resolve
      rw [herror] at hplace
      cases hplace
    · rintro program a place h hplace rfl rfl left
      cases hdemand : a.demand program with
      | error e =>
          have hleft : left = (.error e, h) := attach_of_broken hdemand
          rw [hleft]
          refine ⟨⟨e, rfl⟩, [], (Log.afterRequests_nil _).symm, ?_⟩
          intro create
          exact List.not_mem_nil
      | ok d =>
          have hleft : left = _ := attach_of_lost hdemand (hplace.of_demand hdemand).2 hlost
          rw [hleft]
          refine ⟨⟨_, rfl⟩, place.anchor.queries, rfl, ?_⟩
          intro create hmem
          exact Anchor.isInfo_of_mem_queries hmem

/-- A closed program is no place, and least of all one at an end of the chain. -/
theorem anchor_resolved_or_lost_closed :
  let K : Kernel (Memory.Machine Unit) := Memory.kernel {} {}
  let s : Memory.Machine Unit := ⟨{}, ()⟩
  let anchor : Anchor := .nextToProgram .before (.object none)
  let left := (attach K.watched (some { number := 3 }) (.tcx ⟨1, .tcxIngress, anchor, 0⟩)).run.run
    (.new (s, {}))
  (anchor.resolve K).run.run s
      = (.error (.invalidInput
          "resolve anchor before program object: invalid input: program is closed"), s)
    ∧ (∃ e, left.1 = .error e)
    ∧ ∀ create, .createLink create ∉ left.2.kernel.2.requests
  := by
  intro K s anchor left
  have hlost : anchor.Lost K s (.invalidInput "program is closed") s := .closedProgram
  obtain ⟨herror, -, -, -, hnowhere⟩ := anchor_resolved_or_lost K anchor s
  obtain ⟨-, hattach⟩ := hnowhere _ _ hlost
  obtain ⟨hfailed, requests, hlog, hnone⟩ :=
    hattach (some { number := 3 }) (.tcx ⟨1, .tcxIngress, anchor, 0⟩) _ (.new (s, {})) .tcx rfl rfl
  have hrequests : left.2.kernel.2.requests = requests := congrArg Log.requests hlog
  rw [hrequests]
  exact ⟨(herror _ _).2 ⟨_, hlost, by decide⟩, hfailed, hnone⟩

end Bpf
