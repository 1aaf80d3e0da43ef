import Bpf.Proofs.Anchors
import Bpf.Proofs.Contracts
import Bpf.Proofs.Failures
import Bpf.Proofs.LinkTypes

/-!
# Closed handles on links

A handle that is closed has no descriptor, and nothing gives it one again.  So whatever is done with it
from then on, the kernel is not asked for anything that takes the descriptor: what needs it is refused,
an attachment next to the link included.  What is left is what the handle itself knows, which is its type
and the path of its pin, and the removal of that pin.
-/

namespace Bpf

variable {σ : Type}

/-! ### Paths with names on them -/

namespace Path

theorem head?_pieces (current rest : List Char) :
  (pieces current rest).head? = some (current.reverse ++ rest.takeWhile (· ≠ '/'))
  := by
  induction rest generalizing current with
  | nil => simp [pieces]
  | cons c rest ih =>
      by_cases hc : c = '/'
      · simp [pieces, hc]
      · simp [pieces, hc, ih]

/-- Only the empty path has no names on it. -/
theorem isEmpty_of_components_eq_nil {p : Path} (h : p.components = []) :
  p.isEmpty = true
  := by
  by_contra hempty
  obtain ⟨c, rest, htext⟩ : ∃ c rest, p.text.toList = c :: rest := by
    apply List.exists_cons_of_ne_nil
    intro hnil
    exact hempty (by rw [isEmpty, hnil]; rfl)
  by_cases hroot : c = '/'
  · simp [components, isAbsolute, htext, hroot] at h
  · have hrelative : p.isAbsolute = false := by simp [isAbsolute, htext, hroot]
    -- The first piece of the text is a name or a point, and either counts.
    obtain ⟨piece, others, hpieces, hpiece⟩ :
        ∃ piece others, pieces [] p.text.toList = piece :: others ∧ piece ≠ [] := by
      have hfirst := head?_pieces [] p.text.toList
      rw [htext, List.takeWhile_cons_of_pos (by simpa using hroot)] at hfirst
      obtain ⟨others, hpieces⟩ := List.head?_eq_some_iff.1 hfirst
      exact ⟨_, others, htext ▸ hpieces, by simp⟩
    by_cases hpoint : piece = ['.']
    · simp [components, hrelative, hpieces, hpoint] at h
    · simp [components, hrelative, hpieces, hpoint, hpiece] at h

/-- A path that has the same names on it as one that is not empty is not empty either. -/
theorem isEmpty_of_same {p q : Path} (h : p.same q = true) (hq : q.isEmpty = true) :
  p.isEmpty = true
  := by
  apply isEmpty_of_components_eq_nil
  have hnames : p.components = q.components := of_decide_eq_true h
  have htext : q.text.toList = [] := List.isEmpty_iff.1 hq
  rw [hnames, components, isAbsolute, htext]
  rfl

end Path

namespace Link

/-! ### Recorded paths -/

/-- The path that the handle has recorded, if there is one, is not empty. -/
def RecordsPath (link : Link) : Prop := ∀ path, link.pinned = some path → path.isEmpty = false

/-- The ways to a handle on a link of any kernel, and what becomes of it as it is used. -/
inductive Made (K : Kernel σ) : Link → Prop
  | attach {host host' : Host σ} {program : ProgramHandle} {a : Attachment} {link : Link}
      (hrun : (attach K program a).run.run host = (.ok link, host')) :
    Made K link
  | loadPinned {s s' : σ} {path : Path} {flags : UInt32} {link : Link}
      (hrun : (Link.loadPinned K path flags).run.run s = (.ok link, s')) :
    Made K link
  | load {s s' : σ} {path : Path} {link : Link}
      (hrun : (Pinned.load K path).run.run s = (.ok (.link link), s')) :
    Made K link
  | ofDescriptor {s s' : σ} {fd : Descriptor} {link : Link}
      (hrun : (Link.ofDescriptor K fd none).run.run s = (.ok link, s')) :
    Made K link
  | advance {s s' : σ} {it it' : LinkIterator} {link : Link}
      (hrun : (LinkIterator.advance K).run (it, s) = (true, (it', s'))) (hlink : it'.link = some link) :
    Made K link
  | next {s s' : σ} {it it' : LinkIterator} {link : Link}
      (hrun : (LinkIterator.next K).run (it, s) = (some (.ok link), (it', s'))) :
    Made K link
  | used {s s' : σ} {use : Use} {answer : Except Error Unit} {link link' : Link}
      (hmade : Made K link) (hrun : (use.run K).run.run (link, s) = (answer, (link', s'))) :
    Made K link'

section Made

variable {K : Kernel σ} {s s' : σ} {link : Link} {path : Path}

theorem RecordsPath.of_none (h : link.pinned = none) :
  link.RecordsPath
  := by
  intro path hpath
  rw [h] at hpath
  cases hpath

theorem pinned_of_ofDescriptor {fd : Descriptor} {pinned : Option Path}
    (h : (Link.ofDescriptor K fd pinned).run.run s = (.ok link, s')) :
  link.pinned = pinned
  := by
  obtain ⟨info, t, -, h⟩ := Action.exists_of_run_bind_ok h
  obtain ⟨rfl, -⟩ := Action.run_pure_eq_ok h
  rfl

theorem pinned_of_attach {host host' : Host σ} {program : ProgramHandle} {a : Attachment}
    (h : (Bpf.attach K program a).run.run host = (.ok link, host')) :
  link.pinned = none
  := by
  obtain ⟨d, request, t, -, -, hnew⟩ := attach_eq_ok h
  obtain ⟨fd, t', -, hnew⟩ := Action.exists_of_run_bind_ok hnew
  unfold Link.ofNew at hnew
  split at hnew
  next => exact pinned_of_ofDescriptor hnew
  next =>
    obtain ⟨rfl, -⟩ := Action.run_pure_eq_ok hnew
    rfl

/-- What begins with a look at the path goes on only if that is not empty. -/
theorem isEmpty_of_check {β : Type} {f : Unit → Action σ β} {b : β}
    (h : (Pin.check path >>= f).run.run s = (.ok b, s')) :
  path.isEmpty = false ∧ (f ()).run.run s = (.ok b, s')
  := by
  unfold Pin.check at h
  split at h
  next => cases h
  next hpath => exact ⟨Bool.eq_false_iff.2 hpath, h⟩

/-- To use a handle keeps what it records in order. -/
theorem Use.recordsPath {use : Use} {answer : Except Error Unit} {link' : Link}
    (hrecords : link.RecordsPath) (h : (use.run K).run.run (link, s) = (answer, (link', s'))) :
  link'.RecordsPath
  := by
  cases use with
  | pin path =>
      have hcases := handle_run_pin_cases K path link s
      rw [show (Link.pin K path).run.run (link, s) = (answer, (link', s')) from h] at hcases
      obtain rfl | ⟨hpath, -, rfl⟩ := hcases
      · exact hrecords
      · intro recorded heq
        cases heq
        exact hpath
  | unpin =>
      have hcases := handle_run_unpin_cases K link s
      rw [show (Link.unpin K).run.run (link, s) = (answer, (link', s')) from h] at hcases
      obtain rfl | ⟨-, rfl⟩ := hcases
      · exact hrecords
      · exact RecordsPath.of_none rfl
  | close =>
      cases h
      exact hrecords
  | _ =>
      rw [Use.run] at h
      rw [Action.eq_of_run_through h]
      exact hrecords

/-- No handle records the empty path. -/
theorem Made.recordsPath (h : link.Made K) :
  link.RecordsPath
  := by
  induction h with
  | attach hrun => exact RecordsPath.of_none (pinned_of_attach hrun)
  | loadPinned hrun =>
      obtain ⟨hpath, hrun⟩ := isEmpty_of_check hrun
      obtain ⟨fd, t, -, hrun⟩ := Action.exists_of_run_bind_ok hrun
      intro recorded heq
      rw [pinned_of_ofDescriptor hrun] at heq
      cases heq
      exact hpath
  | load hrun =>
      obtain ⟨hpath, hrun⟩ := isEmpty_of_check hrun
      obtain ⟨fd, t, -, hrun⟩ := Action.exists_of_run_bind_ok hrun
      obtain ⟨objectType, t', -, hrun⟩ := Action.exists_of_run_bind_ok hrun
      cases objectType with
      | map => cases hrun
      | program =>
          obtain ⟨program, t'', -, hrun⟩ := Action.exists_of_run_bind_ok hrun
          cases hrun
      | link =>
          obtain ⟨link, t'', hopen, hrun⟩ := Action.exists_of_run_bind_ok hrun
          cases hrun
          intro recorded heq
          rw [pinned_of_ofDescriptor hopen] at heq
          cases heq
          exact hpath
  | ofDescriptor hrun => exact RecordsPath.of_none (pinned_of_ofDescriptor hrun)
  | advance hrun hlink =>
      obtain ⟨fd, t, found, hfound, -, hopen⟩ := LinkIterator.advance_eq_true hrun
      rw [hlink] at hfound
      cases hfound
      exact RecordsPath.of_none (pinned_of_ofDescriptor hopen)
  | next hrun =>
      obtain ⟨fd, t, -, hopen⟩ := LinkIterator.next_eq_some_ok hrun
      exact RecordsPath.of_none (pinned_of_ofDescriptor hopen)
  | used hmade hrun ih => exact Use.recordsPath ih hrun

end Made

/-! ### What is done with a handle -/

/-- A chain of programs in which a link can be a neighbour. -/
inductive Chain where
  | tcx
  | netkit
deriving DecidableEq

/-- The attachment to a place in the chain. -/
def Chain.attachment : Chain → ChainPlace → Attachment
  | .tcx => .tcx
  | .netkit => .netkit

theorem Chain.inChain (chain : Chain) (place : ChainPlace) :
  (chain.attachment place).InChain place
  := by
  cases chain with
  | tcx => exact .tcx
  | netkit => exact .netkit

/-- What can be done with a handle on a link: what goes through it, and the attachment of a program next
to its link, whose place is the given one but for the anchor. -/
inductive Act where
  | through (use : Use)
  | beside (program : ProgramHandle) (chain : Chain) (side : Side) (place : ChainPlace)

/-- The place next to the link of a handle. -/
def place (link : Link) (side : Side) (place : ChainPlace) : ChainPlace :=
  { place with anchor := .nextToLink side (.object link) }

/-- The handle together with the kernel of a host. -/
def kernelPart : Part (Link × Host σ) (Link × σ) where
  get s := (s.1, s.2.kernel)
  set s part := (part.1, { s.2 with kernel := part.2 })

namespace Act

/-- Does something with a handle on a link, on the handle together with the host. -/
def run (K : Kernel σ) : Act → Action (Link × Host σ) Unit
  | .through use => Action.onPart kernelPart (use.run K)
  | .beside program chain side place =>
    Action.through fun link => attach K program (chain.attachment (link.place side place))

/-- The handle and the host after one thing after another has been done. -/
def after (K : Kernel σ) (acts : List Act) (s : Link × Host σ) : Link × Host σ :=
  acts.foldl (fun s act => ((act.run K).run.run s).2) s

/-- This takes the descriptor of the link.  To pin a link where it is pinned does not, nor does the
removal of its pin. -/
def NeedsDescriptor (link : Link) : Act → Prop
  | .through .close => False
  | .through .unpin => False
  | .through (.pin path) => link.isPinnedAt path = false
  | _ => True

end Act

/-! ### Answers of a closed handle -/

/-- What a closed handle answers without the kernel; the removal of a pin is answered so if there is
none. -/
def Use.answerOfClosed (link : Link) : Use → Except Error Unit
  | .pin path =>
    if path.isEmpty then .error Pin.emptyPath
    else if link.isPinnedAt path then .ok ()
    else .error closed
  | .unpin => .ok ()
  | .close => .ok ()
  | .update program => do
    let _ ← needProgram "update link: program" program
    .error closed
  | .replace program old => do
    let _ ← needProgram "replace link: program" program
    let _ ← needProgram "replace link: old program" old
    .error closed
  | _ => .error closed

/-- The same, with the attachment of a program next to the link. -/
def Act.answerOfClosed (link : Link) : Act → Except Error Unit
  | .through use => use.answerOfClosed link
  | .beside program chain side place =>
    match (chain.attachment (link.place side place)).demand program with
    | .ok _ => .error ((link.place side place).anchor.unresolved closed)
    | .error e => .error e

/-- The handle after the removal of its pin has been answered. -/
def unpinned (link : Link) : Except Error Unit → Link
  | .ok _ => { link with pinned := none }
  | .error _ => link

section Unpinned

variable (link : Link) (answer : Except Error Unit)

theorem linkType_unpinned :
  (link.unpinned answer).linkType = link.linkType
  := by
  cases answer with
  | ok => rfl
  | error => rfl

theorem fd_unpinned :
  (link.unpinned answer).fd = link.fd
  := by
  cases answer with
  | ok => rfl
  | error => rfl

theorem pinned_unpinned :
  (link.unpinned answer).pinned = link.pinned ∨ (link.unpinned answer).pinned = none
  := by
  cases answer with
  | ok => exact Or.inr rfl
  | error => exact Or.inl rfl

end Unpinned

section Closed

variable {K : Kernel σ} {link : Link} {host : Host (σ × Log)} {act : Act}

/-- What needs the descriptor is refused. -/
theorem Act.answerOfClosed_of_needsDescriptor (h : act.NeedsDescriptor link) :
  ∃ message, act.answerOfClosed link = .error (.invalidInput message)
  := by
  cases act with
  | beside program chain side place =>
      rw [answerOfClosed]
      cases hdemand : (chain.attachment (link.place side place)).demand program with
      | ok d => exact ⟨_, rfl⟩
      | error e =>
          obtain ⟨message, rfl⟩ := Attachment.isCheck_demand _ _ e hdemand
          exact ⟨message, rfl⟩
  | through use =>
      cases use with
      | close => cases h
      | unpin => cases h
      | pin path =>
          have hpinned : ¬ link.isPinnedAt path = true := Bool.eq_false_iff.1 h
          simp only [answerOfClosed, Use.answerOfClosed, if_neg hpinned]
          split
          next => exact ⟨_, rfl⟩
          next => exact ⟨_, rfl⟩
      | update program =>
          cases program with
          | none => exact ⟨_, rfl⟩
          | some fd => exact ⟨_, rfl⟩
      | replace program old =>
          cases program with
          | none => exact ⟨_, rfl⟩
          | some fd =>
              cases old with
              | none => exact ⟨_, rfl⟩
              | some old => exact ⟨_, rfl⟩
      | _ => exact ⟨_, rfl⟩

/-- All the rest succeeds. -/
theorem Act.answerOfClosed_of_not_needsDescriptor (hrecords : link.RecordsPath)
    (h : ¬ act.NeedsDescriptor link) :
  act.answerOfClosed link = .ok ()
  := by
  cases act with
  | beside => exact absurd trivial h
  | through use =>
      cases use with
      | close => rfl
      | unpin => rfl
      | pin path =>
          have hpinned : link.isPinnedAt path = true := eq_true_of_ne_false h
          obtain ⟨recorded, hrecorded, hsame⟩ := (Option.any_eq_true _ _).1 hpinned
          have hpath : ¬ path.isEmpty = true := by
            intro hempty
            have hnone := Path.isEmpty_of_same hsame hempty
            rw [hrecords recorded hrecorded] at hnone
            cases hnone
          simp only [answerOfClosed, Use.answerOfClosed, if_neg hpath, if_pos hpinned]
      | _ => exact absurd trivial h

/-- A closed handle answers on its own, unless it is to remove its pin. -/
theorem Use.run_of_closed (K : Kernel σ) {use : Use} (hclosed : link.fd = none)
    (huse : use = .unpin → link.pinned = none) (s : σ) :
  (use.run K).run.run (link, s) = (use.answerOfClosed link, (link, s))
  := by
  obtain ⟨linkType, fd, pinned⟩ := link
  cases hclosed
  cases use with
  | pin path =>
      show (Link.pin K path).run.run _ = _
      rw [run_pin, Use.answerOfClosed]
      split
      next => rfl
      next =>
        split
        next => rfl
        next => rfl
  | unpin =>
      cases huse rfl
      rfl
  | update program =>
      cases program with
      | none => rfl
      | some fd => rfl
  | replace program old =>
      cases program with
      | none => rfl
      | some fd =>
          cases old with
          | none => rfl
          | some old => rfl
  | _ => rfl

/-- Neither the handle nor the host changes, and nothing is asked of the kernel. -/
theorem Act.run_of_closed (K : Kernel σ) (hclosed : link.fd = none)
    (hact : act = .through .unpin → link.pinned = none) (host : Host (σ × Log)) :
  (act.run K.watched).run.run (link, host) = (act.answerOfClosed link, (link, host))
  := by
  cases act with
  | through use =>
      have huse := Use.run_of_closed K.watched hclosed (fun h => hact (congrArg Act.through h))
        host.kernel
      have hpart : kernelPart.get (link, host) = (link, host.kernel) := rfl
      rw [run, Action.run_onPart, hpart, huse]
      rfl
  | beside program chain side place =>
      have hplace := chain.inChain (link.place side place)
      rw [run, Action.run_through, answerOfClosed]
      cases hdemand : (chain.attachment (link.place side place)).demand program with
      | error e =>
          rw [attach_of_broken hdemand]
          rfl
      | ok d =>
          have hlost : (link.place side place).anchor.Lost K host.kernel.1 closed host.kernel.1 :=
            .closedLink hclosed
          have hqueries : (link.place side place).anchor.queries = [] := by
            obtain ⟨linkType, fd, pinned⟩ := link
            cases hclosed
            rfl
          rw [attach_of_lost hdemand (hplace.of_demand hdemand).2 hlost, hqueries,
            Log.afterRequests_nil]
          rfl

/-- The removal of the pin is left to the kernel. -/
theorem Act.run_unpin {path : Path} (hpinned : link.pinned = some path) (hpath : path.isEmpty = false)
    (host : Host (σ × Log)) :
  let removal := (K.removePin path).run host.kernel.1
  ((Act.through .unpin).run K.watched).run.run (link, host)
    = (Pin.removed removal.1, (link.unpinned (Pin.removed removal.1),
        { host with kernel := (removal.2, host.kernel.2.afterRequests [.removePin path]) }))
  := by
  intro removal
  have hremove : (Pin.remove K.watched path).run.run host.kernel
      = (Pin.removed removal.1, (removal.2, host.kernel.2.afterRequests [.removePin path])) := by
    rw [Pin.remove, Pin.check, hpath]
    rfl
  have hpart : kernelPart.get (link, host) = (link, host.kernel) := rfl
  have hrun : (Use.unpin.run K.watched).run.run (link, host.kernel)
      = (Pin.removed removal.1, (link.unpinned (Pin.removed removal.1),
          (removal.2, host.kernel.2.afterRequests [.removePin path]))) := by
    show (Link.unpin K.watched).run.run _ = _
    rw [Link.run_unpin, hpinned]
    simp only [hremove]
    cases Pin.removed removal.1 with
    | ok u => rfl
    | error e => rfl
  rw [run, Action.run_onPart, hpart, hrun]
  rfl

end Closed

/-! ### After the handle was closed -/

/-- What is left of a handle and a host since the handle was closed.  The type of the link can be read,
the recorded path is the one there was or none, and pins were removed at that path only. -/
structure ClosedSince (link : Link) (host : Host (σ × Log)) (s : Link × Host (σ × Log)) : Prop where
  linkType : s.1.linkType = link.linkType
  fd : s.1.fd = none
  pinned : s.1.pinned = link.pinned ∨ s.1.pinned = none
  features : s.2.features = host.features
  requests : ∃ requests, s.2.kernel.2 = host.kernel.2.afterRequests requests
    ∧ ∀ request ∈ requests, ∃ path, link.pinned = some path ∧ request = .removePin path

variable {K : Kernel σ} {link : Link} {host : Host (σ × Log)} {s : Link × Host (σ × Log)}

theorem ClosedSince.recordsPath (h : link.ClosedSince host s) (hrecords : link.RecordsPath) :
  s.1.RecordsPath
  := by
  obtain hsame | hnone := h.pinned
  · rw [RecordsPath, hsame]
    exact hrecords
  · exact RecordsPath.of_none hnone

/-- A closed handle stays closed. -/
theorem ClosedSince.step (h : link.ClosedSince host s) (hrecords : link.RecordsPath) (act : Act) :
  link.ClosedSince host ((act.run K.watched).run.run s).2
  := by
  by_cases hact : act = .through .unpin → s.1.pinned = none
  · rw [act.run_of_closed K h.fd hact s.2]
    exact h
  · obtain ⟨hunpin, hpinned⟩ := Classical.not_imp.1 hact
    subst hunpin
    obtain ⟨path, hpath⟩ := Option.ne_none_iff_exists'.1 hpinned
    have hrecorded : link.pinned = some path := by
      obtain hsame | hnone := h.pinned
      · rw [← hsame, hpath]
      · exact absurd hnone hpinned
    obtain ⟨requests, hlog, hpins⟩ := h.requests
    rw [Act.run_unpin hpath (hrecords path hrecorded) s.2]
    refine ⟨?_, ?_, ?_, h.features, requests ++ [.removePin path], ?_, ?_⟩
    · exact (linkType_unpinned _ _).trans h.linkType
    · exact (fd_unpinned _ _).trans h.fd
    · obtain hkept | hnone := pinned_unpinned s.1 (Pin.removed ((K.removePin path).run s.2.kernel.1).1)
      · exact h.pinned.imp hkept.trans hkept.trans
      · exact Or.inr hnone
    · rw [hlog, Log.afterRequests_append]
    · intro request hmem
      rcases List.mem_append.1 hmem with hmem | hmem
      · exact hpins request hmem
      · exact ⟨path, hrecorded, List.mem_singleton.1 hmem⟩

theorem ClosedSince.after (h : link.ClosedSince host s) (hrecords : link.RecordsPath)
    (acts : List Act) :
  link.ClosedSince host (Act.after K.watched acts s)
  := by
  induction acts generalizing s with
  | nil => exact h
  | cons act acts ih => exact ih (h.step hrecords act)

/-- Once a handle has been closed, whatever was done with it since, nothing that takes the descriptor of
the link is asked of the kernel any more.  What needs the descriptor is refused, and leaves all as it
is; an attachment next to the link is among that, and makes nothing.  The rest succeeds without the
kernel, but for the removal of the pin while there is one, which is the one request that is made. -/
theorem closed_handle_only_unpins {τ : Type} {origin : Kernel τ} (K : Kernel σ) {link : Link}
    (hmade : link.Made origin) (host : Host (σ × Log)) (acts : List Act) (act : Act) :
  let closing := ((Act.through .close).run K.watched).run.run (link, host)
  let before := Act.after K.watched acts closing.2
  let outcome := (act.run K.watched).run.run before
  closing.1 = .ok ()
    ∧ link.ClosedSince host before
    ∧ (act.NeedsDescriptor before.1 →
      (∃ message, outcome.1 = .error (.invalidInput message)) ∧ outcome.2 = before)
    ∧ (¬ act.NeedsDescriptor before.1 → act ≠ .through .unpin ∨ before.1.pinned = none →
      outcome = (.ok (), before))
    ∧ ∀ path, act = .through .unpin → before.1.pinned = some path →
      let removal := (K.removePin path).run before.2.kernel.1
      outcome = (Pin.removed removal.1, (before.1.unpinned (Pin.removed removal.1),
        { before.2 with
          kernel := (removal.2, before.2.kernel.2.afterRequests [.removePin path]) }))
  := by
  intro closing before outcome
  have hrecords := hmade.recordsPath
  have hclosing : link.ClosedSince host closing.2 :=
    ⟨rfl, rfl, Or.inl rfl, rfl, [], (Log.afterRequests_nil _).symm, by simp⟩
  have hbefore : link.ClosedSince host before := hclosing.after hrecords acts
  have hbeforeRecords := hbefore.recordsPath hrecords
  refine ⟨rfl, hbefore, ?_, ?_, ?_⟩
  · intro hneeds
    have hact : act = .through .unpin → before.1.pinned = none := by
      rintro rfl
      cases hneeds
    have houtcome : outcome = _ := act.run_of_closed K hbefore.fd hact before.2
    rw [houtcome]
    exact ⟨Act.answerOfClosed_of_needsDescriptor hneeds, rfl⟩
  · intro hneeds hact
    have houtcome : outcome = _ :=
      act.run_of_closed K hbefore.fd (fun h => hact.resolve_left (not_not.2 h)) before.2
    rw [houtcome, Act.answerOfClosed_of_not_needsDescriptor hbeforeRecords hneeds]
  · rintro path rfl hpath
    exact Act.run_unpin hpath (hbeforeRecords path hpath) before.2

/-- A handle that was opened at a pin and is closed: it tells no id, knows where it is pinned, and its
pin is removed once. -/
theorem closed_handle_only_unpins_loaded :
  let K : Kernel (Memory.Machine Unit) := Memory.kernel {} {}
  let path : Path := ⟨"/sys/fs/bpf/a"⟩
  let link : Link := ⟨.xdp, some (Memory.nthDescriptor 2), some path⟩
  let host : Host (Memory.Machine Unit × Log) := .new (pinnedOnce, {})
  let closing := ((Act.through .close).run K.watched).run.run (link, host)
  let unpinning := ((Act.through .unpin).run K.watched).run.run closing.2
  link.Made K
    ∧ (∃ message, (((Act.through .id).run K.watched).run.run closing.2).1
        = .error (.invalidInput message))
    ∧ ((Act.through (.pin ⟨"/sys/fs/bpf//a"⟩)).run K.watched).run.run closing.2 = (.ok (), closing.2)
    ∧ unpinning.1 = .ok ()
    ∧ unpinning.2.2.kernel.2.requests = [.removePin path]
    ∧ ((Act.through .unpin).run K.watched).run.run unpinning.2 = (.ok (), unpinning.2)
  := by
  intro K path link host closing unpinning
  have hmade : link.Made K := by
    have hopen : ((Link.loadPinned K path 0).run.run pinnedOnce).1 = .ok link := by decide +kernel
    exact Made.loadPinned (Prod.ext hopen rfl)
  obtain ⟨-, -, hid, -, -⟩ := closed_handle_only_unpins K hmade host [] (.through .id)
  obtain ⟨-, -, -, hpin, -⟩ :=
    closed_handle_only_unpins K hmade host [] (.through (.pin ⟨"/sys/fs/bpf//a"⟩))
  obtain ⟨-, -, -, -, hunpin⟩ := closed_handle_only_unpins K hmade host [] (.through .unpin)
  obtain ⟨-, -, -, hagain, -⟩ :=
    closed_handle_only_unpins K hmade host [.through .unpin] (.through .unpin)
  have hunpinning : unpinning = _ := hunpin path rfl rfl
  have hanswer : unpinning.1 = .ok () := by decide +kernel
  refine ⟨hmade, (hid trivial).1, hpin ?_ (Or.inl (by simp)), hanswer, ?_, hagain not_false (Or.inr ?_)⟩
  · show ¬ link.isPinnedAt ⟨"/sys/fs/bpf//a"⟩ = false
    decide
  · rw [hunpinning]
    rfl
  · decide +kernel

end Link

end Bpf
