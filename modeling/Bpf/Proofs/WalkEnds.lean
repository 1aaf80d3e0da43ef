import Bpf.Proofs.Walk
import Bpf.Request

/-!
# Walks over any kernel

Whatever a kernel answers, a walk over its links ends.  `Kernel.heard` is the kernel with a list of
what it was asked, and of its answers on ids; a `Search` is what can be heard while the next link is
looked for.  The ids that are asked about ascend, so they are asked about fewer times than there are
ids, and an answer that does not ascend is a failure that ends the walk.  Once a walk is over, nothing
is asked any more.
-/

namespace Bpf

variable {σ : Type}

/-! ### What is heard of a kernel -/

/-- Something that a kernel was asked. -/
inductive Exchange where
  /-- The kernel was asked for the id after the given one, and has given an answer. -/
  | nextId (start : UInt32) (answer : Except Error (Option UInt32))
  /-- The kernel was asked for something else. -/
  | other (request : Request)

namespace Exchange

/-- The kernel was asked for an id. -/
def isNextId : Exchange → Bool
  | nextId _ _ => true
  | other _ => false

/-- How often a kernel was asked for an id. -/
def asks (heard : List Exchange) : Nat := heard.countP isNextId

@[simp]
theorem asks_nil :
  asks [] = 0
  := rfl

@[simp]
theorem asks_nextId (start : UInt32) (answer : Except Error (Option UInt32)) (heard : List Exchange) :
  asks (.nextId start answer :: heard) = asks heard + 1
  := List.countP_cons_of_pos rfl

@[simp]
theorem asks_other (request : Request) (heard : List Exchange) :
  asks (.other request :: heard) = asks heard
  := List.countP_cons_of_neg Bool.false_ne_true

theorem asks_append (first second : List Exchange) :
  asks (first ++ second) = asks first + asks second
  := by
  apply List.countP_append

end Exchange

open Exchange

/-- Notes a request, and refuses none. -/
def noteOther (request : Request) : StateM (σ × List Exchange) (Option Error) := do
  modify fun s => (s.1, s.2 ++ [.other request])
  return none

/-- The kernel with a list of what it was asked, and of its answers on ids. -/
def Kernel.heard (K : Kernel σ) : Kernel (σ × List Exchange) :=
  let part := Part.first σ (List Exchange)
  { Kernel.guarded noteOther (K.onPart part) with
    nextLinkId := fun start => do
      let answer ← Action.attempt (Action.onPart part (K.nextLinkId start))
      modify fun s => (s.1, s.2 ++ [.nextId start answer])
      Action.ofExcept answer }

section Heard

variable (K : Kernel σ) (s : σ) (log : List Exchange)

theorem run_heard_nextLinkId (start : UInt32) :
  (K.heard.nextLinkId start).run.run (s, log)
    = (((K.nextLinkId start).run.run s).1, ((K.nextLinkId start).run.run s).2,
        log ++ [.nextId start ((K.nextLinkId start).run.run s).1])
  := rfl

theorem run_heard_openLink (id : UInt32) :
  (K.heard.openLink id).run.run (s, log)
    = (((K.openLink id).run.run s).1, ((K.openLink id).run.run s).2,
        log ++ [.other (.openLink id)])
  := rfl

theorem run_heard_ofDescriptor (fd : Descriptor) (pinned : Option Path) :
  (Link.ofDescriptor K.heard fd pinned).run.run (s, log)
    = (((Link.ofDescriptor K fd pinned).run.run s).1,
        ((Link.ofDescriptor K fd pinned).run.run s).2, log ++ [.other (.linkInfo fd)])
  := by
  have hinfo : (K.heard.linkInfo fd).run.run (s, log)
      = (((K.linkInfo fd).run.run s).1, ((K.linkInfo fd).run.run s).2,
          log ++ [.other (.linkInfo fd)]) := rfl
  unfold Link.ofDescriptor Link.queryInfo
  simp only [bind_assoc]
  rcases hrun : (K.linkInfo fd).run.run s with ⟨e | raw, s'⟩
  · rw [hrun] at hinfo
    rw [Action.run_bind_of_error hrun, Action.run_bind_of_error hinfo]
  · rw [hrun] at hinfo
    rw [Action.run_bind_of_ok hrun, Action.run_bind_of_ok hinfo]
    cases Link.readInfo raw with
    | error e => rfl
    | ok info => rfl

end Heard

namespace LinkIterator

/-! ### Searches -/

/-- What is heard while the first link above an id is looked for, and the id of the link that is
found. -/
inductive Search : UInt32 → List Exchange → Except Error (Option UInt32) → Prop
  | refused (cursor : UInt32) (e : Error) : Search cursor [.nextId cursor (.error e)] (.error e)
  | exhausted (cursor : UInt32) : Search cursor [.nextId cursor (.ok none)] (.ok none)
  | broken {cursor next : UInt32} (h : ¬ cursor < next) :
    Search cursor [.nextId cursor (.ok (some next))] (.error (notAscending next cursor))
  | closed {cursor next : UInt32} (h : cursor < next) (e : Error) :
    Search cursor [.nextId cursor (.ok (some next)), .other (.openLink next)] (.error e)
  | gone {cursor next : UInt32} (h : cursor < next) {heard : List Exchange}
      {answer : Except Error (Option UInt32)} (hrest : Search next heard answer) :
    Search cursor (.nextId cursor (.ok (some next)) :: .other (.openLink next) :: heard) answer
  | unreadable {cursor next : UInt32} (h : cursor < next) (fd : Descriptor) (e : Error) :
    Search cursor
      [.nextId cursor (.ok (some next)), .other (.openLink next), .other (.linkInfo fd)] (.error e)
  | found {cursor next : UInt32} (h : cursor < next) (fd : Descriptor) :
    Search cursor
      [.nextId cursor (.ok (some next)), .other (.openLink next), .other (.linkInfo fd)]
      (.ok (some next))

/-- The id of the link that a search has found. -/
def foundId {cursor : UInt32} (answer : Except Error (Option (Above cursor × Link))) :
    Except Error (Option UInt32) :=
  answer.map (Option.map fun link => link.1.1)

/-- One round of a search. -/
theorem run_nextLink_round (K : Kernel σ) (cursor : UInt32) (s : σ) :
  (nextLink K cursor).run.run s
    = match (K.nextLinkId cursor).run.run s with
      | (.error e, s') => (.error e, s')
      | (.ok none, s') => (.ok none, s')
      | (.ok (some next), s') =>
        if h : cursor < next then
          match (K.openLink next).run.run s' with
          | (.ok fd, s'') =>
            match (Link.ofDescriptor K fd none).run.run s'' with
            | (.ok link, s''') => (.ok (some (⟨next, h⟩, link)), s''')
            | (.error e, s''') => (.error e, s''')
          | (.error e, s'') =>
            if e.isErrno Errno.enoent then
              match (nextLink K next).run.run s'' with
              | (.ok found, s''') => (.ok (found.map fun link => (link.1.weaken h, link.2)), s''')
              | (.error e, s''') => (.error e, s''')
            else (.error e, s'')
        else (.error (notAscending next cursor), s')
  := by
  rw [nextLink]
  rcases hnext : (K.nextLinkId cursor).run.run s with ⟨e | _ | next, s'⟩
  · rw [Action.run_bind_of_error hnext]
  · rw [Action.run_bind_of_ok hnext]
    rfl
  · rw [Action.run_bind_of_ok hnext]
    by_cases h : cursor < next
    · simp only [h, dite_true, Action.run_attempt_bind]
      rcases (K.openLink next).run.run s' with ⟨e | fd, s''⟩
      · dsimp only
        split
        next =>
          rcases hrest : (nextLink K next).run.run s'' with ⟨e | found, s'''⟩
          · rw [Action.run_bind_of_error hrest]
          · rw [Action.run_bind_of_ok hrest]
            rfl
        next => rfl
      · dsimp only
        rcases hlink : (Link.ofDescriptor K fd none).run.run s'' with ⟨e | link, s'''⟩
        · rw [Action.run_bind_of_error hlink]
        · rw [Action.run_bind_of_ok hlink]
          rfl
    · simp only [h, dite_false]
      rfl

/-- Listening leaves a search as it is. -/
theorem search_nextLink (K : Kernel σ) (cursor : UInt32) (s : σ) (log : List Exchange) :
  ∃ heard, (nextLink K.heard cursor).run.run (s, log)
      = (((nextLink K cursor).run.run s).1, ((nextLink K cursor).run.run s).2, log ++ heard)
    ∧ Search cursor heard (foundId ((nextLink K cursor).run.run s).1)
  := by
  induction cursor using nextLink.induct generalizing s log with
  | case1 cursor ih =>
      rw [run_nextLink_round K.heard, run_nextLink_round K, run_heard_nextLinkId]
      rcases (K.nextLinkId cursor).run.run s with ⟨e | _ | next, s'⟩
      · exact ⟨_, rfl, .refused cursor e⟩
      · exact ⟨_, rfl, .exhausted cursor⟩
      · by_cases h : cursor < next
        · simp only [h, dite_true, run_heard_openLink]
          rcases (K.openLink next).run.run s' with ⟨e | fd, s''⟩
          · dsimp only
            by_cases hgone : e.isErrno Errno.enoent = true
            · simp only [hgone, if_true]
              obtain ⟨heard, hrun, hsearch⟩ := ih next h s''
                (log ++ [.nextId cursor (.ok (some next))] ++ [.other (.openLink next)])
              rw [hrun]
              rcases hrest : (nextLink K next).run.run s'' with ⟨e | found, s'''⟩
              · rw [hrest] at hsearch
                refine ⟨_ :: _ :: heard, ?_, .gone h hsearch⟩
                simp
              · rw [hrest] at hsearch
                refine ⟨_ :: _ :: heard, ?_, .gone h ?_⟩
                · simp
                · cases found with
                  | none => exact hsearch
                  | some link => exact hsearch
            · simp only [hgone, Bool.false_eq_true, if_false]
              refine ⟨_, ?_, .closed h e⟩
              simp
          · dsimp only
            rw [run_heard_ofDescriptor]
            rcases (Link.ofDescriptor K fd none).run.run s'' with ⟨e | link, s'''⟩
            · refine ⟨_, ?_, .unreadable h fd e⟩
              simp
            · refine ⟨_, ?_, .found h fd⟩
              simp
        · simp only [h, dite_false]
          exact ⟨_, rfl, .broken h⟩

namespace Search

variable {cursor : UInt32} {heard : List Exchange} {answer : Except Error (Option UInt32)}

/-- Each question but the last raises the id that is asked about, so there are fewer questions than ids
above the cursor, and if a link is found no more than ids up to it. -/
theorem asks_le (h : Search cursor heard answer) :
  asks heard + cursor.toNat ≤ UInt32.size
    ∧ ∀ id, answer = .ok (some id) → asks heard + cursor.toNat ≤ id.toNat
  := by
  -- one question about an id below the limit, and no link
  have hone (cursor : UInt32) : 1 + cursor.toNat ≤ UInt32.size := by
    rw [Nat.add_comm]
    exact cursor.toNat_lt
  induction h with
  | refused cursor e => exact ⟨hone cursor, by rintro id ⟨⟩⟩
  | exhausted cursor => exact ⟨hone cursor, by rintro id ⟨⟩⟩
  | @broken cursor next h => exact ⟨hone cursor, by rintro id ⟨⟩⟩
  | @closed cursor next h e =>
      rw [asks_nextId, asks_other, asks_nil]
      exact ⟨hone cursor, by rintro id ⟨⟩⟩
  | @unreadable cursor next h fd e =>
      rw [asks_nextId, asks_other, asks_other, asks_nil]
      exact ⟨hone cursor, by rintro id ⟨⟩⟩
  | @gone cursor next h heard answer hrest ih =>
      have hlt := UInt32.lt_iff_toNat_lt.1 h
      rw [asks_nextId, asks_other]
      constructor
      · have := ih.1
        omega
      · intro id hid
        have := ih.2 id hid
        omega
  | @found cursor next h fd =>
      have hlt := UInt32.lt_iff_toNat_lt.1 h
      rw [asks_nextId, asks_other, asks_other, asks_nil]
      refine ⟨hone cursor, ?_⟩
      rintro id ⟨⟩
      omega

/-- A question is the first of a search, or it comes later. -/
theorem mem_opened_iff {start id next : UInt32} {request : Request} :
  .nextId start (.ok (some id)) ∈ .nextId cursor (.ok (some next)) :: .other request :: heard
    ↔ start = cursor ∧ id = next ∨ .nextId start (.ok (some id)) ∈ heard
  := by
  simp

/-- An id that does not ascend ends the search with a failure. -/
theorem answer_of_broken (h : Search cursor heard answer) {start next : UInt32}
    (hheard : .nextId start (.ok (some next)) ∈ heard) (hle : next ≤ start) :
  answer = .error (notAscending next start)
  := by
  induction h with
  | refused cursor e => simp at hheard
  | exhausted cursor => simp at hheard
  | broken h =>
      simp only [List.mem_singleton, nextId.injEq, Except.ok.injEq, Option.some.injEq] at hheard
      rw [hheard.1, hheard.2]
  | closed h e =>
      rcases mem_opened_iff.1 hheard with ⟨rfl, rfl⟩ | hlater
      · exact absurd h (UInt32.not_lt.2 hle)
      · cases hlater
  | gone h hrest ih =>
      rcases mem_opened_iff.1 hheard with ⟨rfl, rfl⟩ | hlater
      · exact absurd h (UInt32.not_lt.2 hle)
      · exact ih hlater
  | unreadable h fd e =>
      rcases mem_opened_iff.1 hheard with ⟨rfl, rfl⟩ | hlater
      · exact absurd h (UInt32.not_lt.2 hle)
      · simp at hlater
  | found h fd =>
      rcases mem_opened_iff.1 hheard with ⟨rfl, rfl⟩ | hlater
      · exact absurd h (UInt32.not_lt.2 hle)
      · simp at hlater

/-- A search finds nothing, and does not fail, just when the kernel says that there are no more ids. -/
theorem answer_eq_none_iff (h : Search cursor heard answer) :
  answer = .ok none ↔ ∃ start, .nextId start (.ok none) ∈ heard
  := by
  induction h with
  | gone h hrest ih => simpa using ih
  | _ => simp

end Search

/-! ### Turns -/

/-- What is heard in a move, what the move tells, and the walk that it leaves. -/
inductive Turn (it : LinkIterator) : List Exchange → Bool → LinkIterator → Prop
  | idle (hdone : it.done = true) : Turn it [] false { it with link := none }
  | found (hdone : it.done = false) {heard : List Exchange} {next : UInt32}
      (hsearch : Search it.id heard (.ok (some next))) (hlt : it.id < next) (link : Link) :
    Turn it heard true { it with id := next, link := some link }
  | exhausted (hdone : it.done = false) {heard : List Exchange}
      (hsearch : Search it.id heard (.ok none)) :
    Turn it heard false { it with link := none, done := true }
  | failed (hdone : it.done = false) {heard : List Exchange} {e : Error}
      (hsearch : Search it.id heard (.error e)) :
    Turn it heard false { it with link := none, error := some e, done := true }

/-- A move of a walk that is over. -/
theorem run_advance_of_done (K : Kernel σ) {it : LinkIterator} (hdone : it.done = true) (s : σ) :
  (advance K).run (it, s) = (false, ({ it with link := none }, s))
  := by
  obtain ⟨id, link, error, done⟩ := it
  cases hdone
  rfl

namespace Turn

variable {it it' : LinkIterator} {heard : List Exchange} {more : Bool}

/-- A walk that is over does not ask, and stays as it is. -/
theorem stays (h : Turn it heard more it') (hdone : it.done = true) :
  more = false ∧ heard = [] ∧ it' = { it with link := none }
  := by
  cases h with
  | idle => exact ⟨rfl, rfl, rfl⟩
  | found hdone' => simp [hdone] at hdone'
  | exhausted hdone' => simp [hdone] at hdone'
  | failed hdone' => simp [hdone] at hdone'

/-- A move that finds no link ends the walk. -/
theorem ended (h : Turn it heard false it') :
  it'.done = true ∧ it'.link = none
  := by
  cases h with
  | idle hdone => exact ⟨hdone, rfl⟩
  | exhausted => exact ⟨rfl, rfl⟩
  | failed => exact ⟨rfl, rfl⟩

/-- A move that finds a link goes to an id above the one before. -/
theorem moves (h : Turn it heard true it') :
  it.done = false ∧ it'.done = false ∧ it'.error = it.error ∧ it.id < it'.id
    ∧ ∃ link, it'.link = some link
  := by
  cases h with
  | found hdone hsearch hlt link => exact ⟨hdone, hdone, rfl, hlt, link, rfl⟩

/-- If so far no more was asked than there are ids up to the current one, then so it is after the
move. -/
theorem asks_le (h : Turn it heard more it') {before : Nat} (hsize : before ≤ UInt32.size)
    (hid : it.done = false → before ≤ it.id.toNat) :
  before + asks heard ≤ UInt32.size
    ∧ (it'.done = false → before + asks heard ≤ it'.id.toNat)
  := by
  cases h with
  | idle hdone => exact ⟨hsize, fun hgoes => absurd (hdone.symm.trans hgoes) (by decide)⟩
  | found hdone hsearch hlt link =>
      have hbefore := hid hdone
      obtain ⟨hall, hfound⟩ := hsearch.asks_le
      have := hfound _ rfl
      exact ⟨by omega, fun _ => by dsimp only; omega⟩
  | exhausted hdone hsearch =>
      have hbefore := hid hdone
      have := hsearch.asks_le.1
      exact ⟨by omega, by rintro ⟨⟩⟩
  | failed hdone hsearch =>
      have hbefore := hid hdone
      have := hsearch.asks_le.1
      exact ⟨by omega, by rintro ⟨⟩⟩

/-- An id that does not ascend ends the walk with a failure. -/
theorem of_broken (h : Turn it heard more it') {start next : UInt32}
    (hheard : .nextId start (.ok (some next)) ∈ heard) (hle : next ≤ start) :
  more = false ∧ it'.error = some (notAscending next start)
  := by
  cases h with
  | idle => simp at hheard
  | found hdone hsearch => cases hsearch.answer_of_broken hheard hle
  | exhausted hdone hsearch => cases hsearch.answer_of_broken hheard hle
  | failed hdone hsearch =>
      cases hsearch.answer_of_broken hheard hle
      exact ⟨rfl, rfl⟩

/-- A move that ends the walk leaves no failure just when the kernel has said that there are no more
ids. -/
theorem error_eq_none_iff (h : Turn it heard false it') (hdone : it.done = false)
    (herror : it.error = none) :
  it'.error = none ↔ ∃ start, .nextId start (.ok none) ∈ heard
  := by
  cases h with
  | idle hover => simp [hdone] at hover
  | exhausted _ hsearch =>
      rw [← hsearch.answer_eq_none_iff]
      simp [herror]
  | failed _ hsearch =>
      rw [← hsearch.answer_eq_none_iff]
      simp

/-- A kernel that has said that there are no more ids has ended the walk. -/
theorem not_exhausted (h : Turn it heard true it') :
  ¬ ∃ start, .nextId start (.ok none) ∈ heard
  := by
  cases h with
  | found _ hsearch =>
      rw [← hsearch.answer_eq_none_iff]
      simp

end Turn

/-- Listening leaves a move as it is. -/
theorem turn_advance (K : Kernel σ) (it : LinkIterator) (s : σ) (log : List Exchange) :
  ∃ heard, (advance K.heard).run (it, s, log)
      = (((advance K).run (it, s)).1, ((advance K).run (it, s)).2.1,
          ((advance K).run (it, s)).2.2, log ++ heard)
    ∧ Turn it heard ((advance K).run (it, s)).1 ((advance K).run (it, s)).2.1
  := by
  cases hdone : it.done with
  | true =>
      rw [run_advance_of_done K hdone, run_advance_of_done K.heard hdone]
      refine ⟨[], ?_, .idle hdone⟩
      simp
  | false =>
      obtain ⟨heard, hrun, hsearch⟩ := search_nextLink K it.id s log
      rw [run_advance K hdone, run_advance K.heard hdone, hrun]
      rcases hfound : (nextLink K it.id).run.run s with ⟨e | _ | ⟨next, link⟩, s'⟩
      all_goals rw [hfound] at hsearch
      · exact ⟨heard, rfl, .failed hdone hsearch⟩
      · exact ⟨heard, rfl, .exhausted hdone hsearch⟩
      · exact ⟨heard, rfl, .found hdone hsearch next.2 link⟩

/-- What is heard during a step of a walk. -/
def heardDuring {α : Type} (step : StateM (LinkIterator × σ × List Exchange) α)
    (walk : LinkIterator × σ) : List Exchange :=
  (step.run (walk.1, walk.2, [])).2.2.2

theorem run_advance_heard (K : Kernel σ) (walk : LinkIterator × σ) :
  (advance K.heard).run (walk.1, walk.2, [])
    = (((advance K).run walk).1, ((advance K).run walk).2.1, ((advance K).run walk).2.2,
        heardDuring (advance K.heard) walk)
  := by
  obtain ⟨heard, hrun, -⟩ := turn_advance K walk.1 walk.2 []
  unfold heardDuring
  rw [hrun]

theorem turn_heardDuring (K : Kernel σ) (walk : LinkIterator × σ) :
  Turn walk.1 (heardDuring (advance K.heard) walk) ((advance K).run walk).1
    ((advance K).run walk).2.1
  := by
  obtain ⟨heard, hrun, hturn⟩ := turn_advance K walk.1 walk.2 []
  unfold heardDuring
  rw [hrun, List.nil_append]
  exact hturn

/-! ### Moves -/

/-- The walk after a number of moves from its beginning, and the kernel. -/
def afterMoves (K : Kernel σ) (s : σ) : Nat → LinkIterator × σ
  | 0 => (.new, s)
  | n + 1 => ((advance K).run (afterMoves K s n)).2

/-- What a move tells, after a number of moves. -/
def moved (K : Kernel σ) (s : σ) (n : Nat) : Bool := ((advance K).run (afterMoves K s n)).1

/-- What is heard in a move, after a number of moves. -/
def heardIn (K : Kernel σ) (s : σ) (n : Nat) : List Exchange :=
  heardDuring (advance K.heard) (afterMoves K s n)

section Moves

variable (K : Kernel σ) (s : σ)

theorem turn_heardIn (n : Nat) :
  Turn (afterMoves K s n).1 (heardIn K s n) (moved K s n) (afterMoves K s (n + 1)).1
  := turn_heardDuring K (afterMoves K s n)

/-- The ids that are asked about in a number of moves ascend, so they are fewer than there are ids, and
as long as the walk goes on they are no more than those up to the current one. -/
theorem asks_moves_le (n : Nat) :
  asks ((List.range n).flatMap (heardIn K s)) ≤ UInt32.size
    ∧ ((afterMoves K s n).1.done = false →
      asks ((List.range n).flatMap (heardIn K s)) ≤ (afterMoves K s n).1.id.toNat)
  := by
  induction n with
  | zero => exact ⟨Nat.zero_le _, fun _ => Nat.zero_le _⟩
  | succ n ih =>
      rw [List.range_succ, List.flatMap_append, List.flatMap_singleton, asks_append]
      exact (turn_heardIn K s n).asks_le ih.1 ih.2

/-- Once the walk is over it stays as it is. -/
theorem afterMoves_of_done {m n : Nat} (hle : m ≤ n) (hdone : (afterMoves K s m).1.done = true) :
  (afterMoves K s n).1.done = true
    ∧ (afterMoves K s n).1.id = (afterMoves K s m).1.id
    ∧ (afterMoves K s n).1.error = (afterMoves K s m).1.error
    ∧ (afterMoves K s n).2 = (afterMoves K s m).2
  := by
  induction n, hle using Nat.le_induction with
  | base => exact ⟨hdone, rfl, rfl, rfl⟩
  | succ n _ ih =>
      have hstays : afterMoves K s (n + 1)
          = ({ (afterMoves K s n).1 with link := none }, (afterMoves K s n).2) := by
        rw [afterMoves, run_advance_of_done K ih.1]
      rw [hstays]
      exact ih

/-- A walk that is not over has found a link in each move. -/
theorem moved_of_not_done {m n : Nat} (hlt : m < n) (hdone : (afterMoves K s n).1.done = false) :
  moved K s m = true
  := by
  by_contra hmoved
  have hturn := turn_heardIn K s m
  rw [Bool.not_eq_true] at hmoved
  rw [hmoved] at hturn
  have := (afterMoves_of_done K s hlt hturn.ended.1).1
  simp [hdone] at this

/-- A walk that is not over has not failed. -/
theorem error_of_not_done {n : Nat} (hdone : (afterMoves K s n).1.done = false) :
  (afterMoves K s n).1.error = none
  := by
  induction n with
  | zero => rfl
  | succ n ih =>
      have hturn := turn_heardIn K s n
      rw [moved_of_not_done K s n.lt_succ_self hdone] at hturn
      obtain ⟨hbefore, -, herror, -⟩ := hturn.moves
      rw [herror]
      exact ih hbefore

/-- As long as links are found the walk is not over. -/
theorem not_done_of_moved {n : Nat} (hmoved : moved K s n = true) :
  (afterMoves K s n).1.done = false
  := by
  have hturn := turn_heardIn K s n
  rw [hmoved] at hturn
  exact hturn.moves.1

/-- The ids of the links that are found ascend. -/
theorem id_lt_of_moved {m n : Nat} (hle : m ≤ n) (hmoved : moved K s n = true) :
  (afterMoves K s m).1.id < (afterMoves K s (n + 1)).1.id
  := by
  induction n, hle using Nat.le_induction with
  | base =>
      have hturn := turn_heardIn K s m
      rw [hmoved] at hturn
      exact hturn.moves.2.2.2.1
  | succ n _ ih =>
      have hturn := turn_heardIn K s (n + 1)
      rw [hmoved] at hturn
      have hbefore := moved_of_not_done K s n.lt_succ_self (not_done_of_moved K s hmoved)
      exact UInt32.lt_trans (ih hbefore) hturn.moves.2.2.2.1

/-- There are no more moves that find a link than ids. -/
theorem le_id_of_not_done {n : Nat} (hdone : (afterMoves K s n).1.done = false) :
  n ≤ (afterMoves K s n).1.id.toNat
  := by
  induction n with
  | zero => exact Nat.zero_le _
  | succ n ih =>
      have hmoved := moved_of_not_done K s n.lt_succ_self hdone
      have hlt := UInt32.lt_iff_toNat_lt.1 (id_lt_of_moved K s (Nat.le_refl n) hmoved)
      have := ih (not_done_of_moved K s hmoved)
      omega

/-- Some move finds no link. -/
theorem exists_not_moved :
  ∃ n, moved K s n = false
  := by
  by_contra hall
  rw [not_exists] at hall
  have hmoved := Bool.eq_true_of_not_eq_false (hall UInt32.size)
  have hle := le_id_of_not_done K s (not_done_of_moved K s hmoved)
  have := (afterMoves K s UInt32.size).1.id.toNat_lt
  simp only [UInt32.size] at hle this
  omega

end Moves

/-! ### Links that are handed over -/

/-- The walk after a number of links have been asked for, and the kernel. -/
def afterHanded (K : Kernel σ) (s : σ) : Nat → LinkIterator × σ
  | 0 => (.new, s)
  | n + 1 => ((next K).run (afterHanded K s n)).2

/-- The link that is handed over after a number of links have been asked for. -/
def handed (K : Kernel σ) (s : σ) (n : Nat) : Option (Except Error Link) :=
  ((next K).run (afterHanded K s n)).1

/-- A walk whose link and whose failure have been handed over. -/
def bare (it : LinkIterator) : LinkIterator := { it with link := none, error := none }

/-- What asking for a link makes of a move. -/
theorem run_next (K : Kernel σ) (walk : LinkIterator × σ) :
  (next K).run walk
    = match (advance K).run walk with
      | (true, it, s) => (it.link.map .ok, { it with link := none }, s)
      | (false, it, s) => (it.error.map .error, { it with error := none }, s)
  := by
  rw [next, StateT.run_bind]
  rcases (advance K).run walk with ⟨_ | _, it, s⟩
  · rfl
  · rfl

section Handed

variable (K : Kernel σ) (s : σ)

/-- A move does not look at the link or at the failure of the walk. -/
theorem run_advance_bare {it : LinkIterator} (hdone : it.done = false) (herror : it.error = none) :
  (advance K).run (it.bare, s) = (advance K).run (it, s)
  := by
  obtain ⟨id, link, error, done⟩ := it
  cases hdone
  cases herror
  rw [run_advance K rfl, run_advance K rfl]
  dsimp only [bare]
  rcases (nextLink K id).run.run s with ⟨e | _ | ⟨next, found⟩, s'⟩
  · rfl
  · rfl
  · rfl

theorem heardDuring_next (it : LinkIterator) :
  heardDuring (next K.heard) (it.bare, s) = heardDuring (advance K.heard) (it, s)
  := by
  unfold heardDuring
  rw [run_next]
  cases hdone : it.done with
  | true =>
      have hbare : it.bare.done = true := hdone
      rw [run_advance_of_done K.heard hdone, run_advance_of_done K.heard hbare]
  | false =>
      have hbare : it.bare.done = false := hdone
      rw [run_advance K.heard hdone, run_advance K.heard hbare]
      dsimp only [bare]
      rcases (nextLink K.heard it.id).run.run (s, []) with ⟨e | _ | ⟨next, link⟩, s'⟩
      · rfl
      · rfl
      · rfl

/-- A walk that hands over its links goes on as one that does not. -/
theorem afterHanded_eq (n : Nat) :
  afterHanded K s n = ((afterMoves K s n).1.bare, (afterMoves K s n).2)
  := by
  induction n with
  | zero => rfl
  | succ n ih =>
      have hturn := turn_heardIn K s n
      rw [afterHanded, ih, run_next]
      rw [afterMoves] at hturn ⊢
      rw [moved] at hturn
      cases hdone : (afterMoves K s n).1.done with
      | true =>
          have hbare : (afterMoves K s n).1.bare.done = true := hdone
          rw [run_advance_of_done K hbare, run_advance_of_done K hdone]
          rfl
      | false =>
          have herror := error_of_not_done K s hdone
          rw [run_advance_bare K _ hdone herror]
          rcases hrun : (advance K).run (afterMoves K s n) with ⟨_ | _, it, s'⟩
          · rw [hrun] at hturn
            have hlink : it.link = none := hturn.ended.2
            simp only [bare, hlink]
          · rw [hrun] at hturn
            have hkept : it.error = none := hturn.moves.2.2.1.trans herror
            simp only [bare, hkept]

/-- A link that is found is handed over. -/
theorem handed_of_moved {n : Nat} (hmoved : moved K s n = true) :
  ∃ link, (afterMoves K s (n + 1)).1.link = some link ∧ handed K s n = some (.ok link)
  := by
  have hturn := turn_heardIn K s n
  rw [hmoved] at hturn
  obtain ⟨hdone, -, -, -, link, hlink⟩ := hturn.moves
  refine ⟨link, hlink, ?_⟩
  rw [handed, afterHanded_eq, run_next, run_advance_bare K _ hdone (error_of_not_done K s hdone)]
  rw [afterMoves] at hlink
  rw [moved] at hmoved
  rcases hrun : (advance K).run (afterMoves K s n) with ⟨more, it, s'⟩
  rw [hrun] at hmoved hlink
  cases hmoved
  have hfound : it.link = some link := hlink
  simp only [hfound, Option.map_some]

/-- The failure that ends the walk, if there is one, is handed over. -/
theorem handed_of_ended {n : Nat} (hdone : (afterMoves K s n).1.done = false)
    (hmoved : moved K s n = false) :
  handed K s n = (afterMoves K s (n + 1)).1.error.map .error
  := by
  rw [handed, afterHanded_eq, run_next, run_advance_bare K _ hdone (error_of_not_done K s hdone),
    afterMoves]
  rw [moved] at hmoved
  rcases hrun : (advance K).run (afterMoves K s n) with ⟨more, it, s'⟩
  rw [hrun] at hmoved
  cases hmoved
  rfl

/-- Nothing is handed over once the walk is over. -/
theorem handed_of_done {n : Nat} (hdone : (afterMoves K s n).1.done = true) :
  handed K s n = none
  := by
  have hbare : (afterMoves K s n).1.bare.done = true := hdone
  rw [handed, afterHanded_eq, run_next, run_advance_of_done K hbare]
  rfl

/-- The first move that finds no link. -/
theorem exists_last_move :
  ∃ count, (afterMoves K s count).1.done = false ∧ moved K s count = false
    ∧ ∀ n < count, moved K s n = true
  := by
  classical
  have hends := exists_not_moved K s
  refine ⟨Nat.find hends, ?_, Nat.find_spec hends, ?_⟩
  · cases hcount : Nat.find hends with
    | zero => rfl
    | succ n =>
        have hmoved : moved K s n = true := by
          simpa using Nat.find_min hends (m := n) (by omega)
        have hturn := turn_heardIn K s n
        rw [hmoved] at hturn
        exact hturn.moves.2.1
  · intro n hlt
    simpa using Nat.find_min hends hlt

/-- Whatever a kernel answers, a walk over its links ends: fewer than `2 ^ 32 + 1` ids are asked for,
the ids of the links ascend, and an id that does not ascend is a failure that ends the walk.  A walk
that is over asks nothing and stays as it is.  Links that are handed over are followed by a failure,
unless the kernel has said that there are no more ids, and then by nothing.  None of this depends on
the kernel being listened to. -/
theorem walk_ends :
  (∀ walk, (advance K.heard).run (walk.1, walk.2, [])
      = (((advance K).run walk).1, ((advance K).run walk).2.1, ((advance K).run walk).2.2,
          heardDuring (advance K.heard) walk))
  ∧ (∀ n, asks ((List.range n).flatMap (heardIn K s)) < 2 ^ 32 + 1)
  ∧ (∃ n, moved K s n = false)
  ∧ (∀ m n, m < n → moved K s m = true → moved K s n = true →
      (afterMoves K s (m + 1)).1.id < (afterMoves K s (n + 1)).1.id)
  ∧ (∀ n start next, .nextId start (.ok (some next)) ∈ heardIn K s n → next ≤ start →
      moved K s n = false
      ∧ (afterMoves K s (n + 1)).1.error
        = some (.fatal s!"kernel returned link id {next} after {start}"))
  ∧ (∀ m n, m < n → moved K s m = false →
      moved K s n = false ∧ heardIn K s n = []
      ∧ (afterMoves K s (n + 1)).1.id = (afterMoves K s (m + 1)).1.id
      ∧ (afterMoves K s (n + 1)).1.error = (afterMoves K s (m + 1)).1.error
      ∧ (afterMoves K s (n + 1)).2 = (afterMoves K s (m + 1)).2)
  ∧ ∃ count, (∀ n < count, ∃ link, handed K s n = some (.ok link))
      ∧ (handed K s count = none ∨ ∃ e, handed K s count = some (.error e))
      ∧ (∀ n, count < n → handed K s n = none)
      ∧ (handed K s count = none
        ↔ ∃ n start, .nextId start (.ok none) ∈ heardDuring (next K.heard) (afterHanded K s n))
  := by
  have hover : ∀ m n, m < n → moved K s m = false → (afterMoves K s n).1.done = true := by
    intro m n hlt hmoved
    have hturn := turn_heardIn K s m
    rw [hmoved] at hturn
    exact (afterMoves_of_done K s hlt hturn.ended.1).1
  refine ⟨run_advance_heard K, ?_, exists_not_moved K s, ?_, ?_, ?_, ?_⟩
  · intro n
    have := (asks_moves_le K s n).1
    simp only [UInt32.size] at this
    omega
  · intro m n hlt _ hmoved
    exact id_lt_of_moved K s hlt hmoved
  · intro n start next hheard hle
    exact (turn_heardIn K s n).of_broken hheard hle
  · intro m n hlt hmoved
    have hturn := turn_heardIn K s m
    rw [hmoved] at hturn
    obtain ⟨hstops, hquiet, -⟩ := (turn_heardIn K s n).stays (hover m n hlt hmoved)
    exact ⟨hstops, hquiet, (afterMoves_of_done K s (by omega) hturn.ended.1).2⟩
  · obtain ⟨count, hdone, hmoved, hbefore⟩ := exists_last_move K s
    have hended := handed_of_ended K s hdone hmoved
    refine ⟨count, ?_, ?_, ?_, ?_⟩
    · intro n hlt
      obtain ⟨link, -, hhanded⟩ := handed_of_moved K s (hbefore n hlt)
      exact ⟨link, hhanded⟩
    · rw [hended]
      cases (afterMoves K s (count + 1)).1.error with
      | none => exact .inl rfl
      | some e => exact .inr ⟨e, rfl⟩
    · intro n hlt
      exact handed_of_done K s (hover count n hlt hmoved)
    · have hturn := turn_heardIn K s count
      rw [hmoved] at hturn
      rw [hended, Option.map_eq_none_iff,
        hturn.error_eq_none_iff hdone (error_of_not_done K s hdone)]
      simp only [afterHanded_eq, heardDuring_next]
      constructor
      · rintro ⟨start, hheard⟩
        exact ⟨count, start, hheard⟩
      · rintro ⟨n, start, hheard⟩
        rcases Nat.lt_trichotomy n count with hlt | rfl | hlt
        · have hfound := turn_heardIn K s n
          rw [hbefore n hlt] at hfound
          exact absurd ⟨start, hheard⟩ hfound.not_exhausted
        · exact ⟨start, hheard⟩
        · have hquiet := ((turn_heardIn K s n).stays (hover count n hlt hmoved)).2.1
          rw [heardIn] at hquiet
          simp [hquiet] at hheard

end Handed

end LinkIterator

end Bpf
