import Bpf.Proofs.FreshIds

/-!
# The id after another one

A kernel in memory answers with the smallest id of a link above the given one.  It looks from the next
number on, and as there is no number after the last one, it looks from that one on again: only there,
and only if there is a link with the last id, is the answer not above what was asked for.  So whoever
asks for one id after the other gets to know all of them, in ascending order, and then that there are
no more, unless a link has the last id; then there is no end.
-/

namespace Bpf

variable {σ η α : Type}

/-! ### Numbers in a table -/

namespace Table

variable {t : Table α} {start first : UInt32}

theorem ascending_keys (t : Table α) :
  t.keys.Pairwise (· < ·)
  := by
  rw [keys, List.pairwise_map]
  apply t.ascending

theorem firstFrom_eq_some_iff :
  t.firstFrom start = some first
    ↔ start ≤ first ∧ first ∈ t.keys ∧ ∀ k ∈ t.keys, start ≤ k → first ≤ k
  := by
  constructor
  · intro h
    obtain ⟨hstart, hmem, hbefore⟩ := firstFrom_eq_some h
    use hstart, hmem
    intro k hk hle
    by_contra hlt
    have hnone := hbefore k hle (UInt32.not_le.1 hlt)
    exact (t.get?_eq_none_iff k).1 hnone hk
  · rintro ⟨hstart, hmem, hfirst⟩
    cases hfound : t.firstFrom start with
    | none =>
        have hnone := get?_eq_none_of_firstFrom_eq_none hfound hstart
        exact absurd hmem ((t.get?_eq_none_iff first).1 hnone)
    | some other =>
        obtain ⟨hother, hkey, hbefore⟩ := firstFrom_eq_some hfound
        have hle : first ≤ other := hfirst other hkey hother
        have hge : ¬ first < other := by
          intro hlt
          exact (t.get?_eq_none_iff first).1 (hbefore first hstart hlt) hmem
        rw [UInt32.le_antisymm hle (UInt32.not_lt.1 hge)]

theorem firstFrom_eq_none_iff :
  t.firstFrom start = none ↔ ∀ k ∈ t.keys, ¬ start ≤ k
  := by
  rw [firstFrom, List.find?_eq_none]
  simp only [decide_eq_true_eq]

/-- Above a number there are the first one above it and those above that one. -/
theorem of_filter_keys_eq_cons {rest : List UInt32}
    (h : t.keys.filter (start < ·) = first :: rest) :
  start < first ∧ first ∈ t.keys ∧ (∀ k ∈ t.keys, start < k → first ≤ k)
    ∧ t.keys.filter (first < ·) = rest
  := by
  have hfirst : first ∈ t.keys.filter (start < ·) := h ▸ List.mem_cons_self
  obtain ⟨hmem, hlt⟩ := List.mem_filter.1 hfirst
  replace hlt : start < first := of_decide_eq_true hlt
  have hsorted : (first :: rest).Pairwise (· < ·) := h ▸ t.ascending_keys.filter _
  obtain ⟨hrest, -⟩ := List.pairwise_cons.1 hsorted
  refine ⟨hlt, hmem, ?_, ?_⟩
  · intro k hk hstart
    have hlisted : k ∈ first :: rest := by
      rw [← h]
      exact List.mem_filter.2 ⟨hk, decide_eq_true hstart⟩
    rcases List.mem_cons.1 hlisted with rfl | hk
    · apply UInt32.le_refl
    · apply UInt32.le_of_lt (hrest k hk)
  · have hboth : t.keys.filter (first < ·) = (t.keys.filter (start < ·)).filter (first < ·) := by
      rw [List.filter_filter]
      apply List.filter_congr
      intro k hk
      by_cases hbelow : first < k
      · simp [hbelow, UInt32.lt_trans hlt hbelow]
      · simp [hbelow]
    rw [hboth, h, List.filter_cons_of_neg (by simp), List.filter_eq_self]
    intro k hk
    exact decide_eq_true (hrest k hk)

end Table

/-! ### Asking for all ids -/

/-- A kernel is asked for the id after the start, then for the one after that, and so on, until it
answers that there are no more. -/
inductive Enumerates (K : Kernel σ) : UInt32 → σ → List UInt32 → σ → Prop
  | done {start : UInt32} {s s' : σ} (h : (K.nextLinkId start).run.run s = (.ok none, s')) :
    Enumerates K start s [] s'
  | next {start id : UInt32} {s t s' : σ} {ids : List UInt32}
      (h : (K.nextLinkId start).run.run s = (.ok (some id), t)) (hrest : Enumerates K id t ids s') :
    Enumerates K start s (id :: ids) s'

/-- All who ask get to know the same ids. -/
theorem Enumerates.unique {K : Kernel σ} {start : UInt32} {s s' t : σ} {ids other : List UInt32}
    (h : Enumerates K start s ids s') (hother : Enumerates K start s other t) :
  ids = other
  := by
  induction h generalizing other with
  | done h =>
      cases hother with
      | done => rfl
      | next h' => cases h.symm.trans h'
  | next h hrest ih =>
      cases hother with
      | done h' => cases h.symm.trans h'
      | next h' hrest' =>
          cases h.symm.trans h'
          rw [ih hrest']

namespace Memory

namespace State

variable {s : State} {start id : UInt32}

/-- The smallest id of a link above the start. -/
structure IsNextId (s : State) (start id : UInt32) : Prop where
  above : start < id
  mem : id ∈ s.links.keys
  least : ∀ other ∈ s.links.keys, start < other → id ≤ other

/-- The answer is not taken for one that is above the start: the start is not the last number, or
no link has that. -/
def EndsAfter (s : State) (start : UInt32) : Prop := start ≠ lastId ∨ lastId ∉ s.links.keys

/-- From the number after the start on there is just what is above the start. -/
theorem searchStart_le_iff (h : start ≠ lastId) (id : UInt32) :
  (if start = lastId then start else start + 1) ≤ id ↔ start < id
  := by
  constructor
  · rw [if_neg h]
    intro hle
    have hlt : start < start + 1 := by
      rw [UInt32.lt_iff_toNat_lt, toNat_succ_of_lt (lt_lastId h)]
      omega
    exact UInt32.lt_of_lt_of_le hlt hle
  · apply searchStart_le

theorem not_lastId_lt (id : UInt32) :
  ¬ lastId < id
  := by
  have hid := id.toNat_lt
  have hlast : lastId.toNat = 4294967295 := rfl
  rw [UInt32.lt_iff_toNat_lt]
  omega

theorem lastId_le_iff :
  lastId ≤ id ↔ id = lastId
  := by
  constructor
  · intro hle
    apply UInt32.le_antisymm (UInt32.not_lt.1 (not_lastId_lt id)) hle
  · rintro rfl
    apply UInt32.le_refl

/-- A link with the last id is found again and again. -/
theorem nextLinkIdFrom_lastId (h : lastId ∈ s.links.keys) :
  s.nextLinkIdFrom lastId = some lastId
  := by
  apply Table.firstFrom_eq_some_iff.2
  use UInt32.le_refl _, h
  intro k _ hle
  apply hle

theorem nextLinkIdFrom_eq_some_iff (h : s.EndsAfter start) :
  s.nextLinkIdFrom start = some id ↔ s.IsNextId start id
  := by
  rw [nextLinkIdFrom, Table.firstFrom_eq_some_iff]
  by_cases hlast : start = lastId
  · -- There is nothing above the last id, and nothing is found from there on.
    have hfree : lastId ∉ s.links.keys := h.resolve_left (not_not.2 hlast)
    subst hlast
    constructor
    · rintro ⟨hle, hmem, -⟩
      rw [lastId_le_iff.1 hle] at hmem
      exact absurd hmem hfree
    · rintro ⟨habove, -, -⟩
      exact absurd habove (not_lastId_lt id)
  · have hstart := searchStart_le_iff hlast
    constructor
    · rintro ⟨hle, hmem, hleast⟩
      refine ⟨(hstart id).1 hle, hmem, ?_⟩
      intro other hother habove
      exact hleast other hother ((hstart other).2 habove)
    · rintro ⟨habove, hmem, hleast⟩
      refine ⟨(hstart id).2 habove, hmem, ?_⟩
      intro other hother hle
      exact hleast other hother ((hstart other).1 hle)

theorem nextLinkIdFrom_eq_none_iff (h : s.EndsAfter start) :
  s.nextLinkIdFrom start = none ↔ ∀ id ∈ s.links.keys, ¬ start < id
  := by
  rw [nextLinkIdFrom, Table.firstFrom_eq_none_iff]
  by_cases hlast : start = lastId
  · have hfree : lastId ∉ s.links.keys := h.resolve_left (not_not.2 hlast)
    subst hlast
    constructor
    · intro _ id _
      apply not_lastId_lt
    · intro _ id hmem hle
      rw [lastId_le_iff.1 hle] at hmem
      exact hfree hmem
  · have hstart := searchStart_le_iff hlast
    constructor
    · intro hnone id hmem habove
      exact hnone id hmem ((hstart id).2 habove)
    · intro hnone id hmem hle
      exact hnone id hmem ((hstart id).1 hle)

theorem nextLinkIdFrom_of_filter_eq_nil (hfree : lastId ∉ s.links.keys)
    (h : s.links.keys.filter (start < ·) = []) :
  s.nextLinkIdFrom start = none
  := by
  apply (nextLinkIdFrom_eq_none_iff (Or.inr hfree)).2
  intro id hmem
  simpa using List.filter_eq_nil_iff.1 h id hmem

/-- The answer is the first of the ids above the start. -/
theorem nextLinkIdFrom_of_filter_eq_cons {ids : List UInt32} (hfree : lastId ∉ s.links.keys)
    (h : s.links.keys.filter (start < ·) = id :: ids) :
  s.nextLinkIdFrom start = some id ∧ start < id ∧ s.links.keys.filter (id < ·) = ids
  := by
  obtain ⟨habove, hmem, hleast, hrest⟩ := Table.of_filter_keys_eq_cons h
  refine ⟨?_, habove, hrest⟩
  exact (nextLinkIdFrom_eq_some_iff (Or.inr hfree)).2 ⟨habove, hmem, hleast⟩

/-- As long as a link has the last id there always is an answer. -/
theorem nextLinkIdFrom_ne_none (h : lastId ∈ s.links.keys) (start : UInt32) :
  s.nextLinkIdFrom start ≠ none
  := by
  by_cases hlast : start = lastId
  · rw [hlast, nextLinkIdFrom_lastId h]
    simp
  · intro hnone
    exact (nextLinkIdFrom_eq_none_iff (Or.inl hlast)).1 hnone lastId h (lt_lastId hlast)

end State

/-! ### The answers of the kernel -/

variable {settings : Settings} {script : Script η} {m : Machine η} {start : UInt32}

/-- A script that has no say in the next id leaves the answer to the state. -/
theorem Machine.run_nextLinkId_of_none (hscript : script.nextLinkId = none) (start : UInt32)
    (m : Machine η) :
  ((kernel settings script).nextLinkId start).run.run m
    = (.ok (m.state.nextLinkIdFrom start), m.counted Command.linkNextId)
  := by
  simp only [kernel, hscript]
  rfl

/-- The ids above the start are enumerated, unless a link has the last id. -/
theorem enumerates_keys (settings : Settings) (hscript : script.nextLinkId = none)
    (start : UInt32) (hfree : lastId ∉ m.state.links.keys) :
  ∃ m', Enumerates (kernel settings script) start m (m.state.links.keys.filter (start < ·)) m'
  := by
  -- The induction is on the ids that are left; an answer is the first of them.
  generalize hids : m.state.links.keys.filter (start < ·) = ids
  induction ids generalizing start m with
  | nil =>
      use m.counted Command.linkNextId
      apply Enumerates.done
      rw [Machine.run_nextLinkId_of_none hscript, State.nextLinkIdFrom_of_filter_eq_nil hfree hids]
  | cons id ids ih =>
      obtain ⟨hnext, -, hrest⟩ := State.nextLinkIdFrom_of_filter_eq_cons hfree hids
      obtain ⟨m', henumerates⟩ := ih (m := m.counted Command.linkNextId) id hfree hrest
      use m'
      apply Enumerates.next _ henumerates
      rw [Machine.run_nextLinkId_of_none hscript, hnext]

/-- With a link that has the last id, there is no end to the answers. -/
theorem not_enumerates (hscript : script.nextLinkId = none) (hlast : lastId ∈ m.state.links.keys)
    {ids : List UInt32} {m' : Machine η} :
  ¬ Enumerates (kernel settings script) start m ids m'
  := by
  intro h
  induction h with
  | done h =>
      rw [Machine.run_nextLinkId_of_none hscript] at h
      have hnone := Except.ok.inj (congrArg Prod.fst h)
      exact State.nextLinkIdFrom_ne_none hlast _ hnone
  | next h hrest ih =>
      rw [Machine.run_nextLinkId_of_none hscript] at h
      obtain ⟨-, hcounted⟩ := Prod.mk.inj h
      apply ih
      rw [← hcounted]
      exact hlast

/-- The answer is the smallest id of a link above the given one, or that there is none, except after
the last id if a link has that: then the answer is the last id again.  To ask for all ids, one after
the other, comes to an end if and only if no link has the last id, and gives the ids that there are by
ascending number. -/
theorem next_id_found (hscript : script.nextLinkId = none) (settings : Settings) (m : Machine η)
    (start : UInt32) :
  let K := kernel settings script
  let answer := ((K.nextLinkId start).run.run m).1
  (m.state.EndsAfter start →
    (∀ id, answer = .ok (some id) ↔ m.state.IsNextId start id)
      ∧ (answer = .ok none ↔ ∀ id ∈ m.state.links.keys, ¬ start < id))
    ∧ (¬ m.state.EndsAfter start → answer = .ok (some lastId))
    ∧ ((∃ ids m', Enumerates K start m ids m') ↔ lastId ∉ m.state.links.keys)
    ∧ ∀ ids m', Enumerates K start m ids m' → ids = m.state.links.keys.filter (start < ·)
  := by
  intro K answer
  have hanswer : answer = .ok (m.state.nextLinkIdFrom start) :=
    congrArg Prod.fst (Machine.run_nextLinkId_of_none hscript start m)
  have hfree {ids : List UInt32} {m' : Machine η} (h : Enumerates K start m ids m') :
      lastId ∉ m.state.links.keys := fun hlast => not_enumerates hscript hlast h
  rw [hanswer]
  refine ⟨?_, ?_, ?_, ?_⟩
  · intro h
    simp only [Except.ok.injEq]
    constructor
    · intro id
      exact State.nextLinkIdFrom_eq_some_iff h
    · exact State.nextLinkIdFrom_eq_none_iff h
  · intro h
    obtain ⟨hstart, hlast⟩ := not_or.1 h
    rw [not_not.1 hstart, State.nextLinkIdFrom_lastId (not_not.1 hlast)]
  · constructor
    · rintro ⟨ids, m', henumerates⟩
      exact hfree henumerates
    · intro hnone
      obtain ⟨m', henumerates⟩ := enumerates_keys settings hscript start hnone
      exact ⟨_, m', henumerates⟩
  · intro ids m' henumerates
    obtain ⟨m'', hkeys⟩ :=
      enumerates_keys settings hscript start (hfree henumerates)
    exact henumerates.unique hkeys

/-- A machine that was told of two links, one of which has the last id but one. -/
def toldOfTwo : Machine Unit :=
  (Event.insertLink (.ofAttachType 2 .tcxIngress 77)).applyUnder {} {} (toldOf 0xfffffffe)

/-- From the last id but one on there are no more. -/
theorem next_id_found_two :
  let K : Kernel (Machine Unit) := kernel {} {}
  ((K.nextLinkId 2).run.run toldOfTwo).1 = .ok (some 0xfffffffe)
    ∧ ((K.nextLinkId 0xfffffffe).run.run toldOfTwo).1 = .ok none
    ∧ (∃ ids m', Enumerates K 0 toldOfTwo ids m')
    ∧ ∀ ids m', Enumerates K 0 toldOfTwo ids m' → ids = [2, 0xfffffffe]
  := by
  intro K
  have hkeys : toldOfTwo.state.links.keys = [2, 0xfffffffe] := by decide +kernel
  have hfree : lastId ∉ toldOfTwo.state.links.keys := by
    rw [hkeys]
    decide +kernel
  have hscript : ({} : Script Unit).nextLinkId = none := rfl
  obtain ⟨hfirst, -⟩ := next_id_found hscript {} toldOfTwo 2
  obtain ⟨hsecond, -⟩ := next_id_found hscript {} toldOfTwo 0xfffffffe
  obtain ⟨-, -, hends, hall⟩ := next_id_found hscript {} toldOfTwo 0
  have habove : [2, 0xfffffffe].filter ((0 : UInt32) < ·) = [2, 0xfffffffe] := by decide +kernel
  rw [hkeys, habove] at hall
  refine ⟨?_, ?_, hends.2 hfree, hall⟩
  · apply ((hfirst (Or.inr hfree)).1 _).2
    refine ⟨by decide, ?_, ?_⟩
    · rw [hkeys]
      simp
    · rw [hkeys]
      simp
  · apply (hsecond (Or.inr hfree)).2.2
    rw [hkeys]
    simp

/-- A link that has the last id is the answer to what comes after it, so that to ask for all ids has no
end. -/
theorem last_id_repeated :
  let K : Kernel (Machine Unit) := kernel {} {}
  let m := toldOf lastId
  m.Reachable {}
    ∧ ((K.nextLinkId lastId).run.run m).1 = .ok (some lastId)
    ∧ ¬ m.state.IsNextId lastId lastId
    ∧ (∀ id ∈ m.state.links.keys, ¬ lastId < id)
    ∧ ∀ ids m', ¬ Enumerates K 0 m ids m'
  := by
  intro K m
  have hlast : lastId ∈ m.state.links.keys := by decide +kernel
  refine ⟨⟨(), [.request (.loadProgram _), .insertLink _], rfl⟩, ?_, ?_, ?_, ?_⟩
  · rw [Machine.run_nextLinkId_of_none rfl, State.nextLinkIdFrom_lastId hlast]
  · intro h
    exact State.not_lastId_lt lastId h.above
  · intro id _
    apply State.not_lastId_lt
  · intro ids m'
    exact not_enumerates rfl hlast

end Memory

end Bpf
