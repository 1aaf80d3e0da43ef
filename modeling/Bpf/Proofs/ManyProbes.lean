import Bpf.Linux.Kernel
import Bpf.Linux.Trace
import Bpf.Proofs.FixedAnswers
import Bpf.Proofs.Refusals
import Bpf.Proofs.ShortReply

/-!
# Links with many probes

The kernel is told of many probes by lists of which it only gets the addresses, together with one
number, and it reads as many elements of each list as that number says.  The number is computed in
one way for the system call and in another way by a kernel in memory, and for some lists either would
be wrong.  What makes both right is that an attachment is checked before anything is asked:
`ManyProbes.WellFormed` is the contract, `Linux.Announces` what it means for the system call, and
`ManyProbes.Kept` what it means for a kernel in memory.
-/

namespace Bpf

open Linux Memory

variable {σ η : Type}

/-! ### Probes -/

/-- Many probes behind one link. -/
inductive ManyProbes where
  /-- Functions of the kernel. -/
  | functions (probes : KprobeMulti)
  /-- Places in a binary. -/
  | places (probes : UprobeMulti)

/-- One element of a list that the kernel reads. -/
inductive Element where
  | text (text : String)
  | word (word : UInt64)

/-- The elements of a list in memory. -/
def Linux.Buffer.elements : Buffer → List Element
  | .text t => [.text t.text]
  | .texts ts => ts.map fun t => .text t.text
  | .words ws => ws.map .word

namespace ManyProbes

/-- The attachment of a program to the probes. -/
def attachment : ManyProbes → Attachment
  | .functions probes => .kprobeMulti probes
  | .places probes => .uprobeMulti probes

/-- The attach type of a request for the probes. -/
def attachType : ManyProbes → AttachType
  | .functions _ => .traceKprobeMulti
  | .places _ => .traceUprobeMulti

/-- The number of probes: functions are given by symbol or by address, and never by both. -/
def count : ManyProbes → Nat
  | .functions probes => probes.symbols.length + probes.addresses.length
  | .places probes => probes.offsets.length

/-- The lists that the kernel reads, each with the place of its address in a request. -/
def lists : ManyProbes → List (Nat × List Element)
  | .functions probes =>
    [ (8, probes.symbols.map .text), (16, probes.addresses.map .word),
      (24, probes.cookies.map .word) ]
  | .places probes =>
    [ (8, probes.offsets.map .word), (16, probes.refCtrOffsets.map .word),
      (24, probes.cookies.map .word) ]

/-- The place of the number of probes in a request. -/
def countOffset : ManyProbes → Nat
  | .functions _ => 4
  | .places _ => 32

/-- The lists have a length that fits in a word. -/
def Short (p : ManyProbes) : Prop := ∀ list ∈ p.lists, list.2.length < UInt32.size

/-- Exactly one of the two lists that tell the functions has elements. -/
def OneTarget (probes : KprobeMulti) : Prop :=
  probes.symbols ≠ [] ∧ probes.addresses = [] ∨ probes.symbols = [] ∧ probes.addresses ≠ []

/-- The contract of an attachment to many probes: there are some, all that is given for each of them
is given for all or for none, and the texts are without NUL. -/
def WellFormed (p : ManyProbes) : Prop :=
  match p with
  | .functions probes =>
    OneTarget probes ∧ (probes.cookies = [] ∨ probes.cookies.length = p.count)
      ∧ ∀ symbol ∈ probes.symbols, '\x00' ∉ symbol.toList
  | .places probes =>
    probes.offsets ≠ [] ∧ (probes.refCtrOffsets = [] ∨ probes.refCtrOffsets.length = p.count)
      ∧ (probes.cookies = [] ∨ probes.cookies.length = p.count) ∧ '\x00' ∉ probes.path.text.toList

/-- What a request says of the probes. -/
inductive Carries : ManyProbes → LinkExtra → Prop
  | functions {probes : KprobeMulti} {symbols : List NulFree}
      (hsymbols : symbols.map NulFree.text = probes.symbols) :
    Carries (.functions probes) (.kprobeMulti (Attachment.returnFlag probes.onReturn) symbols
      probes.addresses probes.cookies)
  | places {probes : UprobeMulti} {path : NulFree} (hpath : path.text = probes.path.text) :
    Carries (.places probes) (.uprobeMulti path probes.offsets probes.refCtrOffsets probes.cookies
      probes.pid (Attachment.returnFlag probes.onReturn))

/-- The demand for a link whose request says `extra`. -/
def demanded (p : ManyProbes) (program : Descriptor) (extra : LinkExtra) : Demand where
  program := program
  order := .link 0 p.attachType 0 extra
  linkType := p.attachment.linkType
  feature := p.attachment.feature
  missing :=
    match p with
    | .functions _ => some "attach kprobe multi: one or more symbols"
    | .places _ => none

/-- The request that says `extra`. -/
def request (p : ManyProbes) (program : Descriptor) (extra : LinkExtra) : LinkCreate where
  program := program
  target := 0
  attachType := p.attachType
  flags := 0
  extra := extra

end ManyProbes

/-! ### Checks -/

theorem NulFree.exists_text_iff {text : String} :
  (∃ t : NulFree, t.text = text) ↔ '\x00' ∉ text.toList
  := by
  constructor
  · rintro ⟨t, rfl⟩
    apply t.nul_not_mem
  · intro h
    use ⟨text, h⟩

theorem NulFree.exists_texts_iff {texts : List String} :
  (∃ ts : List NulFree, ts.map NulFree.text = texts) ↔ ∀ text ∈ texts, '\x00' ∉ text.toList
  := by
  simp only [← NulFree.exists_text_iff]
  apply Set.ext_iff.1 (Set.range_list_map NulFree.text) texts

theorem bind_eq_ok_iff {ε α β : Type} {x : Except ε α} {f : α → Except ε β} {b : β} :
  x >>= f = .ok b ↔ ∃ a, x = .ok a ∧ f a = .ok b
  := by
  constructor
  · apply exists_of_bind_eq_ok
  · rintro ⟨a, rfl, h⟩
    apply h

namespace Attachment

theorem openProgram_eq_ok_iff {what : String} {program : ProgramHandle} {fd : Descriptor} :
  openProgram what program = .ok fd ↔ program = some fd
  := by
  constructor
  · apply eq_some_of_openProgram
  · rintro rfl
    rfl

theorem checkLength_eq_ok_iff {α : Type} {what listed counted : String} {list : List α}
    {count : Nat} {u : Unit} :
  checkLength what listed counted list.length count = .ok u ↔ list = [] ∨ list.length = count
  := by
  have hempty : (list.length = 0 || list.length = count) = true
      ↔ list = [] ∨ list.length = count := by
    rw [Bool.or_eq_true, decide_eq_true_iff, decide_eq_true_iff, List.length_eq_zero_iff]
  rw [checkLength, ← hempty]
  split
  next h => simp only [h]
  next h => simp only [h, broken, reduceCtorEq]

theorem nulFree_eq_ok_iff {what called text : String} {t : NulFree} :
  nulFree what called text = .ok t ↔ t.text = text
  := by
  rw [← NulFree.ofString?_eq_some_iff, nulFree]
  cases NulFree.ofString? text with
  | none => simp only [broken, reduceCtorEq]
  | some found => simp only [Except.ok.injEq, Option.some.injEq]

theorem mapM_nulFree_eq_ok_iff {what called : String} {texts : List String} {ts : List NulFree} :
  texts.mapM (nulFree what called) = .ok ts ↔ ts.map NulFree.text = texts
  := by
  induction texts generalizing ts with
  | nil =>
      rw [List.mapM_nil, List.map_eq_nil_iff]
      constructor
      · intro h
        cases h
        rfl
      · rintro rfl
        rfl
  | cons text texts ih =>
      rw [List.mapM_cons, bind_eq_ok_iff, List.map_eq_cons_iff]
      constructor
      · rintro ⟨t, ht, hrest⟩
        obtain ⟨rest, hts, hlast⟩ := exists_of_bind_eq_ok hrest
        cases hlast
        use t, rest, rfl, nulFree_eq_ok_iff.1 ht
        apply ih.1 hts
      · rintro ⟨t, rest, rfl, ht, hts⟩
        use t, nulFree_eq_ok_iff.2 ht
        rw [ih.2 hts]
        rfl

/-- There are functions to probe, and their number, if just one of the two lists has elements. -/
theorem probeCount_eq_ok_iff {what : String} {probes : KprobeMulti} {count : Nat} :
  probeCount what probes = .ok count
    ↔ ManyProbes.OneTarget probes ∧ count = (ManyProbes.functions probes).count
  := by
  rw [probeCount, ManyProbes.OneTarget, ManyProbes.count]
  cases hsymbols : probes.symbols with
  | nil =>
      cases haddresses : probes.addresses with
      | nil => simp [broken]
      | cons address addresses => simp [eq_comm]
  | cons symbol symbols =>
      cases haddresses : probes.addresses with
      | nil => simp [eq_comm]
      | cons address addresses => simp [broken]

end Attachment

namespace ManyProbes

open Attachment

variable {p : ManyProbes} {program : ProgramHandle} {d : Demand} {extra : LinkExtra}

/-- Some request says what the probes are if and only if their texts can be said. -/
theorem exists_carries_functions_iff {probes : KprobeMulti} :
  (∃ extra, Carries (.functions probes) extra) ↔ ∀ symbol ∈ probes.symbols, '\x00' ∉ symbol.toList
  := by
  rw [← NulFree.exists_texts_iff]
  constructor
  · rintro ⟨extra, hcarries⟩
    cases hcarries with
    | @functions _ symbols hsymbols => use symbols
  · rintro ⟨symbols, hsymbols⟩
    apply Exists.intro _ (Carries.functions hsymbols)

theorem exists_carries_places_iff {probes : UprobeMulti} :
  (∃ extra, Carries (.places probes) extra) ↔ '\x00' ∉ probes.path.text.toList
  := by
  rw [← NulFree.exists_text_iff]
  constructor
  · rintro ⟨extra, hcarries⟩
    cases hcarries with
    | @places _ path hpath => use path
  · rintro ⟨path, hpath⟩
    apply Exists.intro _ (Carries.places hpath)

theorem WellFormed.exists_carries (h : p.WellFormed) :
  ∃ extra, p.Carries extra
  := by
  cases p with
  | functions probes => apply exists_carries_functions_iff.2 h.2.2
  | places probes => apply exists_carries_places_iff.2 h.2.2.2

/-- An attachment to many probes passes its checks exactly if its contract is kept and the program is
open; it demands a link whose request says what the probes are. -/
theorem demand_eq_ok_iff :
  p.attachment.demand program = .ok d
    ↔ p.WellFormed ∧ ∃ fd extra, program = some fd ∧ p.Carries extra ∧ d = p.demanded fd extra
  := by
  cases p with
  | functions probes =>
      rw [attachment, demand, kprobeDemand]
      simp only [bind_eq_ok_iff, probeCount_eq_ok_iff, checkLength_eq_ok_iff,
        mapM_nulFree_eq_ok_iff, openProgram_eq_ok_iff]
      constructor
      · rintro ⟨count, ⟨htarget, rfl⟩, u, hcookies, symbols, hsymbols, fd, hfd, hd⟩
        cases hd
        have hnames := NulFree.exists_texts_iff.1 ⟨symbols, hsymbols⟩
        exact ⟨⟨htarget, hcookies, hnames⟩, fd, _, hfd, .functions hsymbols, rfl⟩
      · rintro ⟨⟨htarget, hcookies, -⟩, fd, extra, hfd, hcarries, rfl⟩
        cases hcarries with
        | @functions _ symbols hsymbols =>
            use (functions probes).count, ⟨htarget, rfl⟩, (), hcookies, symbols, hsymbols, fd, hfd
            rfl
  | places probes =>
      rw [attachment, demand, uprobeDemand]
      dsimp only
      split
      next hnone =>
        have hoffsets : probes.offsets = [] := List.length_eq_zero_iff.1 hnone
        constructor
        · intro h
          cases h
        · rintro ⟨⟨hsome, -⟩, -⟩
          apply absurd hoffsets hsome
      next hsome =>
        have hoffsets : probes.offsets ≠ [] := fun h => hsome (List.length_eq_zero_iff.2 h)
        simp only [bind_eq_ok_iff, checkLength_eq_ok_iff, nulFree_eq_ok_iff,
          openProgram_eq_ok_iff]
        constructor
        · rintro ⟨u, hrefCtrOffsets, v, hcookies, path, hpath, fd, hfd, hd⟩
          cases hd
          have htext := NulFree.exists_text_iff.1 ⟨path, hpath⟩
          exact ⟨⟨hoffsets, hrefCtrOffsets, hcookies, htext⟩, fd, _, hfd, .places hpath, rfl⟩
        · rintro ⟨⟨-, hrefCtrOffsets, hcookies, -⟩, fd, extra, hfd, hcarries, rfl⟩
          cases hcarries with
          | @places _ path hpath =>
              use (), hrefCtrOffsets, (), hcookies, path, hpath, fd, hfd
              rfl

end ManyProbes

/-! ### What is asked of the kernel -/

section Requests

variable (K : Kernel σ)

/-- A query about a feature only adds to the requests that were made. -/
theorem Host.requests_haveAttachFeature (feature : AttachFeature) (host : Host (σ × Log)) :
  host.kernel.2.requests
    <+: ((haveAttachFeature K.watched feature).run host).2.kernel.2.requests
  := by
  obtain ⟨features, s, log⟩ := host
  show log.requests <+: (((AttachFeature.matrix K.watched).result feature).run
    (features.attachments, s, log)).2.2.2.requests
  cases hanswer : (AttachFeature.matrix K.watched).answer? features.attachments feature with
  | some v =>
      rw [Matrix.run_result_of_answer? hanswer]
  | none =>
      obtain ⟨p, hp, -, hrun⟩ := Matrix.run_result_of_no_answer hanswer
      obtain ⟨entry, hentry, -, rfl⟩ := Matrix.exists_entry_of_probe? hp
      obtain ⟨feature', -, rfl⟩ := List.mem_map.1 hentry
      obtain ⟨requests, hcheck⟩ := AttachFeature.watches_check K feature' s log
      rw [hrun, Probe.run_run]
      show log.requests <+: ((AttachFeature.check K.watched feature').run.run (s, log)).2.2.requests
      rw [hcheck]
      apply List.prefix_append

theorem Demand.requests_explain (d : Demand) (refusal : Error) (host : Host (σ × Log)) :
  host.kernel.2.requests <+: ((d.explain K.watched refusal).run host).2.kernel.2.requests
  := by
  rw [explain_eq]
  cases d.missing.filter fun _ => refusal.isErrno Errno.esrch with
  | some what => apply List.prefix_refl
  | none =>
      cases d.feature with
      | none => apply List.prefix_refl
      | some feature => apply Host.requests_haveAttachFeature

end Requests

namespace ManyProbes

variable {p : ManyProbes} {program : ProgramHandle} {extra : LinkExtra} {fd : Descriptor}

theorem linkType_attachment_ne_unspec (p : ManyProbes) :
  p.attachment.linkType ≠ .unspec
  := by
  cases p with
  | _ => simp only [attachment, Attachment.linkType, ne_eq, reduceCtorEq, not_false_eq_true]

/-- The demand for a link with many probes is resolved without asking for anything. -/
theorem run_resolve_demanded (p : ManyProbes) (fd : Descriptor) (extra : LinkExtra) (K : Kernel σ)
    (s : σ) :
  ((p.demanded fd extra).resolve K).run.run s = (.ok (.create (p.request fd extra)), s)
  := rfl

/-- The handle on a link with many probes is made without asking for anything. -/
theorem ofNew_eq_pure (p : ManyProbes) (K : Kernel σ) (fd : Descriptor) :
  Link.ofNew K fd p.attachment.linkType = pure ⟨p.attachment.linkType, some fd, none⟩
  := by
  rw [Link.ofNew, if_neg p.linkType_attachment_ne_unspec]

/-- When probes are attached, a request for a link is the first thing that the kernel is asked. -/
def Reaches (p : ManyProbes) (K : Kernel σ) (program : ProgramHandle) (host : Host (σ × Log))
    (r : LinkCreate) : Prop :=
  host.kernel.2.requests ++ [.createLink r]
    <+: ((attach K.watched program p.attachment).run.run host).2.kernel.2.requests

/-- The probes of a well-formed attachment of an open program are asked for. -/
theorem reaches_of_wellFormed (hp : p.WellFormed) (hextra : p.Carries extra) (K : Kernel σ)
    (host : Host (σ × Log)) :
  p.Reaches K (some fd) host (p.request fd extra)
  := by
  have hdemand : p.attachment.demand (some fd) = .ok (p.demanded fd extra) :=
    demand_eq_ok_iff.2 ⟨hp, fd, extra, rfl, hextra, rfl⟩
  obtain ⟨features, s, log⟩ := host
  have hresolve := p.run_resolve_demanded fd extra K.watched (s, log)
  have hsend : ((LinkRequest.create (p.request fd extra)).send K.watched).run.run (s, log)
      = (((K.createLink (p.request fd extra)).run.run s).1,
          ((K.createLink (p.request fd extra)).run.run s).2,
          log.afterRequests [.createLink (p.request fd extra)]) := rfl
  rcases hrun : (K.createLink (p.request fd extra)).run.run s with ⟨e | new, s'⟩
  · rw [hrun] at hsend
    rw [Reaches, attach_of_refused hdemand hresolve hsend]
    have hexplain := (p.demanded fd extra).requests_explain K e
      ⟨features, s', log.afterRequests [.createLink (p.request fd extra)]⟩
    apply hexplain
  · rw [hrun] at hsend
    rw [Reaches, attach_of_sent hdemand hresolve hsend]
    show _ <+: ((Host.onKernel
      (Link.ofNew K.watched new p.attachment.linkType)).run.run _).2.kernel.2.requests
    rw [ofNew_eq_pure]
    apply List.prefix_refl

/-- Nothing at all happens when the contract is broken or the program is closed. -/
theorem run_attach_of_not (K : Kernel σ) (h : ¬ (program.isSome ∧ p.WellFormed)) (host : Host σ) :
  ((attach K program p.attachment).run.run host).2 = host
  := by
  cases hdemand : p.attachment.demand program with
  | error e => rw [attach_of_broken hdemand]
  | ok d =>
      obtain ⟨hp, fd, extra, rfl, -⟩ := demand_eq_ok_iff.1 hdemand
      apply absurd ⟨rfl, hp⟩ h

end ManyProbes

/-! ### What the kernel reads -/

namespace Linux

/-- The address at an offset is zero. -/
def IsNull (cells : List Cell) (offset : Nat) : Prop := Cell.ofWord64 0 <+: cells.drop offset

/-- The address at an offset is that of a list. -/
def PointsTo (cells : List Cell) (offset : Nat) (buffer : Buffer) : Prop :=
  Cell.ofAddress buffer <+: cells.drop offset

/-- At an offset there is the address of a list with the given elements, or zero if there are none. -/
inductive Lists (cells : List Cell) (offset : Nat) : List Element → Prop
  | null (h : IsNull cells offset) : Lists cells offset []
  | address {buffer : Buffer} (hne : buffer.elements ≠ []) (h : PointsTo cells offset buffer) :
    Lists cells offset buffer.elements

variable {cells front rest piece : List Cell} {offset width : Nat} {elements : List Element}

@[simp]
theorem Cell.length_ofWord32 (w : UInt32) :
  (ofWord32 w).length = 4
  := by
  rw [ofWord32, ofBytes, List.length_map, length_word32]

@[simp]
theorem Cell.length_ofWord64 (w : UInt64) :
  (ofWord64 w).length = 8
  := by
  rw [ofWord64, ofBytes, List.length_map, length_word64]

@[simp]
theorem Cell.length_ofAddress (buffer : Buffer) :
  (ofAddress buffer).length = 8
  := by
  rw [ofAddress, List.length_map, List.length_range]

@[simp]
theorem Cell.length_ofWords (words : List UInt64) :
  (ofWords words).length = 8
  := by
  rw [ofWords]
  split
  next => apply length_ofWord64
  next => apply length_ofAddress

@[simp]
theorem Cell.length_ofTexts (texts : List NulFree) :
  (ofTexts texts).length = 8
  := by
  rw [ofTexts]
  split
  next => apply length_ofWord64
  next => apply length_ofAddress

theorem prefix_drop_append (hfront : front.length = width) (h : piece <+: rest.drop offset) :
  piece <+: (front ++ rest).drop (width + offset)
  := by
  rw [← hfront, List.drop_length_add_append]
  apply h

theorem wordAt_of_prefix {w : UInt32} (h : Cell.ofWord32 w <+: cells.drop offset) :
  wordAt cells offset = w.toNat
  := by
  have htake := List.prefix_iff_eq_take.1 h
  rw [Cell.length_ofWord32] at htake
  rw [wordAt, ← htake, Cell.ofWord32, Cell.ofBytes, List.map_map, ← ofLittleEndian_word32]
  apply congrArg ofLittleEndian (List.map_id _)

/-- No list has its address at zero. -/
theorem IsNull.not_pointsTo {buffer : Buffer} (h : IsNull cells offset) :
  ¬ PointsTo cells offset buffer
  := by
  intro hpoints
  have hlength : (Cell.ofWord64 0).length = (Cell.ofAddress buffer).length := by simp
  have heq := (List.prefix_of_prefix_length_le h hpoints hlength.le).eq_of_length hlength
  cases heq

theorem Lists.isNull_iff (h : Lists cells offset elements) :
  IsNull cells offset ↔ elements = []
  := by
  cases h with
  | null hnull =>
      constructor
      · intro _
        rfl
      · intro _
        apply hnull
  | address hne hpoints =>
      constructor
      · intro hnull
        apply absurd hpoints hnull.not_pointsTo
      · intro hnil
        apply absurd hnil hne

theorem Lists.append (hfront : front.length = width) (h : Lists rest offset elements) :
  Lists (front ++ rest) (width + offset) elements
  := by
  cases h with
  | null hnull => apply Lists.null (prefix_drop_append hfront hnull)
  | address hne hpoints => apply Lists.address hne (prefix_drop_append hfront hpoints)

theorem lists_ofWords (words : List UInt64) (rest : List Cell) :
  Lists (Cell.ofWords words ++ rest) 0 (words.map .word)
  := by
  cases words with
  | nil =>
      apply Lists.null
      apply List.prefix_append
  | cons w words =>
      show Lists _ 0 (Buffer.words (w :: words)).elements
      apply Lists.address
      · apply List.cons_ne_nil
      · apply List.prefix_append

theorem lists_ofTexts (texts : List NulFree) (rest : List Cell) :
  Lists (Cell.ofTexts texts ++ rest) 0 (texts.map fun t => .text t.text)
  := by
  cases texts with
  | nil =>
      apply Lists.null
      apply List.prefix_append
  | cons t texts =>
      show Lists _ 0 (Buffer.texts (t :: texts)).elements
      apply Lists.address
      · apply List.cons_ne_nil
      · apply List.prefix_append

theorem exists_extraCells_kprobeMulti (flags : UInt32) (symbols : List NulFree)
    (addresses cookies : List UInt64) :
  ∃ rest, extraCells (.kprobeMulti flags symbols addresses cookies)
    = Cell.ofWord32 flags ++ (Cell.ofWord32 (probeCount symbols addresses)
      ++ (Cell.ofTexts symbols ++ (Cell.ofWords addresses ++ (Cell.ofWords cookies ++ rest))))
  := by
  simp only [extraCells, extraBytes, List.append_assoc, List.append_cancel_left_eq,
    exists_eq']

theorem exists_extraCells_uprobeMulti (path : NulFree) (offsets refCtrOffsets cookies : List UInt64)
    (pid flags : UInt32) :
  ∃ rest, extraCells (.uprobeMulti path offsets refCtrOffsets cookies pid flags)
    = Cell.ofAddress (.text path) ++ (Cell.ofWords offsets ++ (Cell.ofWords refCtrOffsets
      ++ (Cell.ofWords cookies ++ (Cell.ofWord32 (UInt32.ofNat offsets.length) ++ rest))))
  := by
  simp only [extraCells, extraBytes, List.append_assoc, List.append_cancel_left_eq,
    exists_eq']

theorem wordAt_kprobeMulti (flags : UInt32) (symbols : List NulFree)
    (addresses cookies : List UInt64) :
  wordAt (extraCells (.kprobeMulti flags symbols addresses cookies)) 4
    = (probeCount symbols addresses).toNat
  := by
  obtain ⟨rest, hcells⟩ := exists_extraCells_kprobeMulti flags symbols addresses cookies
  rw [hcells]
  apply wordAt_of_prefix
  rw [List.drop_left' (Cell.length_ofWord32 flags)]
  apply List.prefix_append

theorem wordAt_uprobeMulti (path : NulFree) (offsets refCtrOffsets cookies : List UInt64)
    (pid flags : UInt32) :
  wordAt (extraCells (.uprobeMulti path offsets refCtrOffsets cookies pid flags)) 32
    = (UInt32.ofNat offsets.length).toNat
  := by
  obtain ⟨rest, hcells⟩ := exists_extraCells_uprobeMulti path offsets refCtrOffsets cookies pid flags
  have hfront : (Cell.ofAddress (.text path) ++ (Cell.ofWords offsets
      ++ (Cell.ofWords refCtrOffsets ++ Cell.ofWords cookies))).length = 32 := by simp
  rw [hcells]
  apply wordAt_of_prefix
  simp only [← List.append_assoc] at hfront ⊢
  rw [List.append_assoc, List.drop_left' hfront]
  apply List.prefix_append

end Linux

namespace ManyProbes

variable {p : ManyProbes} {extra : LinkExtra}

/-- Every list of the probes has its address in the request. -/
theorem Carries.lists (h : p.Carries extra) :
  ∀ list ∈ p.lists, Lists (extraCells extra) list.1 list.2
  := by
  intro list hlist
  cases h with
  | @functions probes symbols hsymbols =>
      have hnames : probes.symbols.map Element.text = symbols.map fun t => .text t.text := by
        rw [← hsymbols, List.map_map]
        rfl
      obtain ⟨rest, hcells⟩ := exists_extraCells_kprobeMulti
        (Attachment.returnFlag probes.onReturn) symbols probes.addresses probes.cookies
      have hflags := Cell.length_ofWord32 (Attachment.returnFlag probes.onReturn)
      have hcount := Cell.length_ofWord32 (Linux.probeCount symbols probes.addresses)
      have htexts := Cell.length_ofTexts symbols
      have hwords := Cell.length_ofWords probes.addresses
      rw [hcells]
      simp only [ManyProbes.lists, hnames, List.mem_cons, List.not_mem_nil, or_false] at hlist
      obtain rfl | rfl | rfl := hlist
      · apply ((lists_ofTexts _ _).append hcount).append hflags
      · apply (((lists_ofWords _ _).append htexts).append hcount).append hflags
      · apply ((((lists_ofWords _ _).append hwords).append htexts).append hcount).append hflags
  | @places probes path hpath =>
      obtain ⟨rest, hcells⟩ := exists_extraCells_uprobeMulti path probes.offsets
        probes.refCtrOffsets probes.cookies probes.pid (Attachment.returnFlag probes.onReturn)
      have htext := Cell.length_ofAddress (.text path)
      have hoffsets := Cell.length_ofWords probes.offsets
      have hcounters := Cell.length_ofWords probes.refCtrOffsets
      rw [hcells]
      simp only [ManyProbes.lists, List.mem_cons, List.not_mem_nil, or_false] at hlist
      obtain rfl | rfl | rfl := hlist
      · apply (lists_ofWords _ _).append htext
      · apply ((lists_ofWords _ _).append hoffsets).append htext
      · apply (((lists_ofWords _ _).append hcounters).append hoffsets).append htext

/-- What is given for each probe, or for none, has as many elements as there are probes if it has
any. -/
theorem length_map_of_each {α β : Type} {list : List α} {number : Nat} {f : α → β}
    (h : list = [] ∨ list.length = number) (hne : list.map f ≠ []) :
  (list.map f).length = number
  := by
  obtain rfl | hall := h
  · apply absurd rfl hne
  · rw [List.length_map, hall]

/-- Every list with elements has one for each probe. -/
theorem WellFormed.length_eq (h : p.WellFormed) :
  ∀ list ∈ p.lists, list.2 ≠ [] → list.2.length = p.count
  := by
  intro list hlist hne
  cases p with
  | functions probes =>
      obtain ⟨htarget, hcookies, -⟩ := h
      have htargets : (probes.symbols = [] ∨ probes.symbols.length = (functions probes).count)
          ∧ (probes.addresses = [] ∨ probes.addresses.length = (functions probes).count) := by
        rw [count]
        obtain ⟨-, haddresses⟩ | ⟨hsymbols, -⟩ := htarget
        · simp [haddresses]
        · simp [hsymbols]
      simp only [lists, List.mem_cons, List.not_mem_nil, or_false] at hlist
      obtain rfl | rfl | rfl := hlist
      · apply length_map_of_each htargets.1 hne
      · apply length_map_of_each htargets.2 hne
      · apply length_map_of_each hcookies hne
  | places probes =>
      obtain ⟨-, hcounters, hcookies, -⟩ := h
      simp only [lists, List.mem_cons, List.not_mem_nil, or_false] at hlist
      obtain rfl | rfl | rfl := hlist
      · apply List.length_map
      · apply length_map_of_each hcounters hne
      · apply length_map_of_each hcookies hne

/-- Some list has elements: the kernel is told what to probe. -/
theorem WellFormed.exists_list (h : p.WellFormed) :
  ∃ list ∈ p.lists, list.2 ≠ []
  := by
  cases p with
  | functions probes =>
      obtain ⟨hsymbols, -⟩ | ⟨-, haddresses⟩ := h.1
      · use (8, probes.symbols.map .text), List.mem_cons_self
        simpa using hsymbols
      · use (16, probes.addresses.map .word), List.mem_cons_of_mem _ List.mem_cons_self
        simpa using haddresses
  | places probes =>
      use (8, probes.offsets.map .word), List.mem_cons_self
      simpa using h.1

theorem WellFormed.one_le_count (h : p.WellFormed) :
  1 ≤ p.count
  := by
  obtain ⟨list, hlist, hne⟩ := h.exists_list
  rw [← h.length_eq list hlist hne]
  apply List.length_pos_iff.2 hne

/-- The number of probes fits in a word if the lists are short. -/
theorem WellFormed.count_lt (h : p.WellFormed) (hshort : p.Short) :
  p.count < UInt32.size
  := by
  obtain ⟨list, hlist, hne⟩ := h.exists_list
  rw [← h.length_eq list hlist hne]
  apply hshort list hlist

theorem WellFormed.toNat_count (h : p.WellFormed) (hshort : p.Short) :
  (UInt32.ofNat p.count).toNat = p.count
  := by
  apply UInt32.toNat_ofNat_of_lt' (h.count_lt hshort)

/-- The number that is computed for the system call is that of the probes. -/
theorem OneTarget.probeCount_eq {probes : KprobeMulti} {symbols : List NulFree}
    (h : OneTarget probes) (hsymbols : symbols.map NulFree.text = probes.symbols) :
  Linux.probeCount symbols probes.addresses = UInt32.ofNat (functions probes).count
  := by
  rw [Linux.probeCount, count, ← hsymbols, List.length_map]
  obtain ⟨hne, haddresses⟩ | ⟨hnil, -⟩ := h
  · have hsome : symbols.isEmpty = false := by
      rw [List.isEmpty_eq_false_iff]
      rintro rfl
      apply hne hsymbols.symm
    simp [hsome, haddresses]
  · rw [← hsymbols, List.map_eq_nil_iff] at hnil
    simp [hnil]

/-- So is the number that a kernel in memory computes. -/
theorem OneTarget.max_eq {probes : KprobeMulti} (h : OneTarget probes) :
  max probes.symbols.length probes.addresses.length = (functions probes).count
  := by
  rw [count]
  obtain ⟨-, haddresses⟩ | ⟨hsymbols, -⟩ := h
  · simp [haddresses]
  · simp [hsymbols]

/-- The request says how many probes there are. -/
theorem WellFormed.wordAt_eq (h : p.WellFormed) (hshort : p.Short) (hextra : p.Carries extra) :
  wordAt (extraCells extra) p.countOffset = p.count
  := by
  rw [← h.toNat_count hshort]
  cases hextra with
  | functions hsymbols =>
      rw [← h.1.probeCount_eq hsymbols]
      apply wordAt_kprobeMulti
  | places hpath => apply wordAt_uprobeMulti

end ManyProbes

/-- The part of a request that tells the kernel of probes.  A list has its address there exactly if it
has any elements, and then it has as many of them as the kernel is told to read, at least one. -/
structure Linux.Announces (p : ManyProbes) (cells : List Cell) : Prop where
  one_le : 1 ≤ wordAt cells p.countOffset
  isNull_iff : ∀ list ∈ p.lists, IsNull cells list.1 ↔ list.2 = []
  pointsTo : ∀ list ∈ p.lists, ¬ IsNull cells list.1 →
    ∃ buffer, PointsTo cells list.1 buffer ∧ buffer.elements = list.2
      ∧ buffer.elements.length = wordAt cells p.countOffset
  /-- Functions are told by their symbols or by their addresses, and never by both. -/
  oneTarget : ∀ probes, p = .functions probes → (¬ IsNull cells 8 ↔ IsNull cells 16)

namespace ManyProbes

variable {p : ManyProbes} {extra : LinkExtra}

theorem WellFormed.announces (h : p.WellFormed) (hshort : p.Short) (hextra : p.Carries extra) :
  Announces p (extraCells extra)
  := by
  have hcount := h.wordAt_eq hshort hextra
  constructor
  · rw [hcount]
    apply h.one_le_count
  · intro list hlist
    apply (hextra.lists list hlist).isNull_iff
  · rintro ⟨offset, elements⟩ hlist hnull
    have helements := hextra.lists (offset, elements) hlist
    dsimp only at helements hnull ⊢
    cases helements with
    | null hnull' => apply absurd hnull' hnull
    | @address buffer hne hpoints =>
        use buffer, hpoints, rfl
        rw [hcount]
        apply h.length_eq _ hlist hne
  · rintro probes rfl
    have hsymbols := (hextra.lists _ List.mem_cons_self).isNull_iff
    have haddresses := (hextra.lists _ (List.mem_cons_of_mem _ List.mem_cons_self)).isNull_iff
    rw [hsymbols, haddresses, List.map_eq_nil_iff, List.map_eq_nil_iff]
    obtain ⟨hsome, hnone⟩ | ⟨hnone, hsome⟩ := h.1
    · simp [hsome, hnone]
    · simp [hsome, hnone]

end ManyProbes

/-! ### What a kernel in memory keeps and reports -/

/-- The number of probes in a report. -/
def LinkDetails.count? : LinkDetails → Option UInt32
  | .kprobeMulti count _ _ => count
  | .uprobeMulti count _ _ => count
  | _ => none

namespace ManyProbes

variable {p : ManyProbes} {program : ProgramHandle} {extra : LinkExtra} {fd : Descriptor}
variable {settings : Settings} {script : Script η} {host host' : Host (Machine η)}

/-- How far a reply on a link goes that tells the number of its probes. -/
def countReach : ManyProbes → Nat
  | .functions _ => LinkInfo.detailsOffset + 12
  | .places _ => LinkInfo.detailsOffset + 40

theorem WellFormed.count_requested (h : p.WellFormed) (hextra : p.Carries extra)
    (programId id : UInt32) :
  (State.requested (p.request fd extra) programId id).count = UInt32.ofNat p.count
  := by
  cases hextra with
  | @functions probes symbols hsymbols =>
      show UInt32.ofNat (max symbols.length probes.addresses.length) = _
      rw [← h.1.max_eq, ← hsymbols, List.length_map]
  | places hpath => rfl

theorem Carries.linkType_requested (h : p.Carries extra) (programId id : UInt32) :
  (State.requested (p.request fd extra) programId id).linkType = p.attachment.linkType
  := by
  cases h with
  | _ => rfl

theorem le_length_report (record : LinkRecord) {length : Option Nat}
    (hreach : ∀ n, length = some n → p.countReach ≤ n) :
  p.countReach ≤ (record.report length).length
  := by
  have hsize : p.countReach ≤ LinkInfo.size := by
    cases p with
    | _ => simp [countReach, LinkInfo.size, LinkInfo.detailsOffset]
  cases length with
  | none => apply hsize
  | some n => apply Nat.le_min.2 ⟨hreach n rfl, hsize⟩

theorem decode_of_readInfo {raw : RawLinkInfo} {info : LinkInfo} (h : Link.readInfo raw = .ok info) :
  LinkInfo.decode raw = some info
  := by
  unfold Link.readInfo at h
  split at h
  next found hfound =>
    cases h
    apply hfound
  next => cases h

/-- A reply that goes far enough tells the number of probes in the record of a link. -/
theorem exists_readInfo {record : LinkRecord} (htype : record.linkType = p.attachment.linkType)
    (hcount : record.count ≠ 0) {length : Option Nat}
    (hreach : ∀ n, length = some n → p.countReach ≤ n) :
  ∃ info, Link.readInfo (record.report length) = .ok info ∧ info.id = record.id
    ∧ info.details.count? = some record.count
  := by
  have hfar : p.countReach ≤ (record.report length).length := le_length_report record hreach
  have hlong : ¬ (record.report length).length < 8 := by
    cases p with
    | _ =>
        simp only [countReach, LinkInfo.detailsOffset] at hfar
        omega
  have hnamed : record.linkType ∈ (Code.named : List LinkType) := by
    rw [htype]
    apply p.attachment.linkType_mem_named
  -- What is read from the reply is what the whole of it says, as far as the reply goes.
  have hwhole : LinkInfo.decode (record.report none) = some record.info :=
    decode_of_readInfo (record.readInfo_report (by simp) hnamed)
  have hdecode : LinkInfo.decode (record.report length)
      = some (record.info.cut (record.report length).length) := by
    have hcut := LinkInfo.decode_eq_cut record.bytes (record.report length).length
    rw [if_neg hlong] at hcut
    apply hcut.trans
    apply congrArg (Option.map _) hwhole
  rw [Link.readInfo, hdecode]
  use record.info.cut (record.report length).length, rfl, rfl
  show (record.details.cut (record.report length).length).count? = some record.count
  cases p with
  | functions probes =>
      rw [Attachment.details_kprobeMulti htype hcount]
      apply if_pos hfar
  | places probes =>
      rw [Attachment.details_uprobeMulti htype hcount]
      apply if_pos hfar

/-- The record of a new link has the number of probes. -/
theorem record_of_attach {link : Link}
    (h : (attach (Memory.kernel settings script) program p.attachment).run.run host
      = (.ok link, host')) :
  ∃ fd record, link = ⟨p.attachment.linkType, some fd, none⟩
    ∧ host'.kernel.state.object? fd = some (.link host.kernel.state.nextLinkId)
    ∧ host'.kernel.state.links.get? host.kernel.state.nextLinkId = some record
    ∧ record.id = host.kernel.state.nextLinkId ∧ record.linkType = p.attachment.linkType
    ∧ record.count = UInt32.ofNat p.count
  := by
  obtain ⟨d, request, m, hdemand, hresolve, hrequest⟩ := attach_eq_ok h
  obtain ⟨hp, fd, extra, rfl, hextra, rfl⟩ := demand_eq_ok_iff.1 hdemand
  cases hresolve
  obtain ⟨new, m', hsend, hnew⟩ := Action.exists_of_run_bind_ok hrequest
  have hlink : link = ⟨p.attachment.linkType, some new, none⟩ ∧ host'.kernel = m' := by
    have hnew : (Link.ofNew (Memory.kernel settings script) new p.attachment.linkType).run.run m'
        = (.ok link, host'.kernel) := hnew
    rw [ofNew_eq_pure] at hnew
    cases hnew
    constructor
    · rfl
    · rfl
  obtain ⟨rfl, hkernel⟩ := hlink
  obtain ⟨programId, programType, loaded, -, hadd⟩ :=
    State.createLink_eq_ok (Machine.run_permitted_eq_ok hsend)
  obtain ⟨hobject, hrecord⟩ := Machine.of_addLink hadd
  rw [← hkernel] at hobject hrecord
  use new, State.requested (p.request fd extra) programId host.kernel.state.nextLinkId, rfl, hobject,
    hrecord
  constructor
  · apply State.id_requested
  constructor
  · apply hextra.linkType_requested
  · apply hp.count_requested hextra

/-- A request for probes is only refused for want of the program, of an id or of descriptors. -/
theorem Carries.exists_createLink (h : p.Carries extra) {s : State} (hprogram : s.IsProgram fd)
    (hroom : s.HasDescriptors) (hnext : s.nextLinkId ≠ lastId) :
  ∃ new s', (State.createLink (p.request fd extra)).run.run s = (.ok new, s')
  := by
  have hprogram : s.IsProgram (p.request fd extra).program := hprogram
  have hplace : s.checkPlace (p.request fd extra) = true := by
    cases h with
    | _ => rfl
  have hanywhere : State.isOnInterface (p.request fd extra).attachType = false := by
    cases h with
    | _ => rfl
  obtain ⟨id, hcreate⟩ := State.run_createLink_of_isProgram hprogram hplace
  rw [hcreate, hanywhere, Bool.false_and, if_neg Bool.false_ne_true, State.run_addLink, if_neg hnext]
  exact ⟨_, _, State.run_openObject _ hroom⟩

/-- A kernel in memory whose script has no say makes the link. -/
theorem WellFormed.exists_attach (h : p.WellFormed) (hscript : script.createLink = none)
    (hprogram : host.kernel.state.IsProgram fd) (hroom : host.kernel.state.HasDescriptors)
    (hnext : host.kernel.state.nextLinkId ≠ lastId) :
  ∃ link host', (attach (Memory.kernel settings script) (some fd) p.attachment).run.run host
    = (.ok link, host')
  := by
  obtain ⟨extra, hextra⟩ := h.exists_carries
  have hdemand : p.attachment.demand (some fd) = .ok (p.demanded fd extra) :=
    demand_eq_ok_iff.2 ⟨h, fd, extra, rfl, hextra, rfl⟩
  have hcounted : (host.kernel.state.counted Command.linkCreate).IsProgram fd := hprogram
  obtain ⟨new, state, hcreate⟩ := hextra.exists_createLink hcounted hroom hnext
  have hkernel : (Memory.kernel settings script).createLink (p.request fd extra) = (do
      Machine.count Command.linkCreate
      Machine.change (State.createLink (p.request fd extra)) : Action (Machine η) Descriptor) := by
    simp only [Memory.kernel, hscript, Machine.permit, pure_bind]
  have hsend : ((LinkRequest.create (p.request fd extra)).send
      (Memory.kernel settings script)).run.run host.kernel
      = (.ok new, { host.kernel with state }) := by
    rw [LinkRequest.send, hkernel]
    apply Machine.run_request hcreate
  rw [attach_of_sent hdemand (p.run_resolve_demanded fd extra _ _) hsend]
  show ∃ link host', (Host.onKernel (Link.ofNew (Memory.kernel settings script) new
    p.attachment.linkType)).run.run _ = (.ok link, host')
  rw [ofNew_eq_pure]
  apply Exists.intro _
  apply Exists.intro _
  rfl

end ManyProbes

/-! ### One number for all -/

namespace ManyProbes

variable {p : ManyProbes} {K : Kernel σ} {program : ProgramHandle} {host : Host (σ × Log)}
variable {r : LinkCreate}

/-- The kernel is asked exactly when the contract is kept and the program is open. -/
theorem Reaches.isSome_and_wellFormed (h : p.Reaches K program host r) :
  program.isSome ∧ p.WellFormed
  := by
  by_contra hnot
  rw [Reaches, run_attach_of_not K.watched hnot host] at h
  have hlength := h.length_le
  rw [List.length_append, List.length_singleton] at hlength
  omega

/-- The request says what the probes are. -/
theorem Reaches.exists_carries (h : p.Reaches K program host r) :
  ∃ fd extra, program = some fd ∧ p.Carries extra ∧ r = p.request fd extra
  := by
  obtain ⟨hopen, hp⟩ := h.isSome_and_wellFormed
  obtain ⟨fd, rfl⟩ := Option.isSome_iff_exists.1 hopen
  obtain ⟨extra, hextra⟩ := hp.exists_carries
  have hrequested : p.Reaches K (some fd) host (p.request fd extra) :=
    reaches_of_wellFormed hp hextra K host
  have hlength : (host.kernel.2.requests ++ [Request.createLink r]).length
      = (host.kernel.2.requests ++ [Request.createLink (p.request fd extra)]).length := by
    rw [List.length_append, List.length_append, List.length_singleton, List.length_singleton]
  have hsame := (List.prefix_of_prefix_length_le h hrequested hlength.le).eq_of_length hlength
  have hfirst := List.singleton_injective (List.append_cancel_left hsame)
  use fd, extra, rfl, hextra
  apply Request.createLink.inj hfirst

/-- A kernel in memory has a record of the link with that number of probes, and its handle reports
the number if the replies go as far. -/
def Kept (p : ManyProbes) (settings : Settings) (script : Script η) (id : UInt32) (link : Link)
    (m : Machine η) (number : Nat) : Prop :=
  ∃ record, m.state.links.get? id = some record ∧ record.count.toNat = number
    ∧ ((∀ n, settings.infoLength = some n → p.countReach ≤ n) →
      ∃ info, ((link.info (Memory.kernel settings script)).run.run m).1 = .ok info
        ∧ info.id = id ∧ info.details.count? = some record.count)

theorem kept_of_attach {settings : Settings} {script : Script η} {memory memory' : Host (Machine η)}
    {link : Link} (hshort : p.Short) (hp : p.WellFormed)
    (h : (attach (Memory.kernel settings script) program p.attachment).run.run memory
      = (.ok link, memory')) :
  p.Kept settings script memory.kernel.state.nextLinkId link memory'.kernel p.count
  := by
  obtain ⟨fd, record, rfl, hobject, hrecord, hid, htype, hcount⟩ := record_of_attach h
  have hnumber : record.count.toNat = p.count := by
    rw [hcount, hp.toNat_count hshort]
  use record, hrecord, hnumber
  intro hreach
  have hne : record.count ≠ 0 := by
    intro hzero
    have := hp.one_le_count
    rw [← hnumber, hzero] at this
    cases this
  obtain ⟨info, hinfo, hinfoId, hinfoCount⟩ := exists_readInfo htype hne hreach
  rw [hid] at hinfoId
  have hquery := Machine.run_queryInfo settings hobject hrecord hinfo
  use info, congrArg Prod.fst hquery, hinfoId, hinfoCount

end ManyProbes

/-- A link with many probes is asked for exactly when their contract is kept and the program is open,
and nothing at all happens otherwise.  Of each list in the system call, the kernel is told to read as
many elements as there are.  A kernel in memory keeps the same number, and it makes the link unless its
script has a say, it does not know the program, or it is out of ids or descriptors. -/
theorem probes_announced {p : ManyProbes} (hshort : p.Short) (K : Kernel σ)
    (program : ProgramHandle) (host : Host (σ × Log)) :
  ((∃ r, p.Reaches K program host r) ↔ program.isSome ∧ p.WellFormed)
    ∧ (¬ (program.isSome ∧ p.WellFormed) →
      ((attach K.watched program p.attachment).run.run host).2 = host)
    ∧ ∀ r, p.Reaches K program host r →
      let attr := linkCreateAttr r
      (∀ {τ : Type} (S : System τ) (logSize : Nat),
        (Linux.kernel S logSize).createLink r = callForDescriptor S (.linkCreate attr))
      ∧ Announces p attr.extra
      ∧ ∀ {η : Type} (settings : Settings) (script : Script η) (memory : Host (Machine η)),
        let attached := (attach (Memory.kernel settings script) program p.attachment).run.run memory
        let id := memory.kernel.state.nextLinkId
        (∀ link memory', attached = (.ok link, memory') →
          p.Kept settings script id link memory'.kernel (wordAt attr.extra p.countOffset))
        ∧ (script.createLink = none → memory.kernel.state.HasDescriptors → id ≠ lastId →
          (∀ fd ∈ program, memory.kernel.state.IsProgram fd) →
          ∃ link memory', attached = (.ok link, memory'))
  := by
  constructor
  · constructor
    · rintro ⟨r, hr⟩
      apply hr.isSome_and_wellFormed
    · rintro ⟨hopen, hp⟩
      obtain ⟨fd, rfl⟩ := Option.isSome_iff_exists.1 hopen
      obtain ⟨extra, hextra⟩ := hp.exists_carries
      use p.request fd extra
      apply ManyProbes.reaches_of_wellFormed hp hextra
  constructor
  · intro hnot
    apply ManyProbes.run_attach_of_not K.watched hnot
  · intro r hr attr
    obtain ⟨-, hp⟩ := hr.isSome_and_wellFormed
    obtain ⟨fd, extra, rfl, hextra, rfl⟩ := hr.exists_carries
    constructor
    · intro τ S logSize
      rfl
    constructor
    · apply hp.announces hshort hextra
    · intro η settings script memory attached id
      constructor
      · intro link memory' hattach
        have hcount : wordAt attr.extra p.countOffset = p.count := hp.wordAt_eq hshort hextra
        rw [hcount]
        apply ManyProbes.kept_of_attach hshort hp hattach
      · intro hscript hroom hnext hprogram
        apply hp.exists_attach hscript (hprogram fd rfl) hroom hnext

/-- A machine on which a program for many probes has been loaded. -/
def probesMachine : Machine Unit :=
  let load : ProgramLoad :=
    ⟨.kprobe, some .traceKprobeMulti, none, [.exit], ⟨"MIT", nul_not_mem_mit⟩, "", 0, 0, 0⟩
  (Machine.fresh ()).afterEvents {} [.request (.loadProgram load)]

/-- Two functions by symbol, each with a cookie. -/
def twoFunctions : ManyProbes := .functions ⟨["vprintk", "vfs_read"], [], [7, 9], false⟩

/-- Two functions are announced, kept and reported as two. -/
theorem probes_announced_two :
  let K : Kernel (Machine Unit) := Memory.kernel {} {}
  twoFunctions.Short ∧ ∃ r link host info,
    twoFunctions.Reaches K (some (nthDescriptor 0)) ⟨.unknown, probesMachine, {}⟩ r
      ∧ wordAt (linkCreateAttr r).extra 4 = 2
      ∧ (attach K (some (nthDescriptor 0)) twoFunctions.attachment).run.run (.new probesMachine)
        = (.ok link, host)
      ∧ ((link.info K).run.run host.kernel).1 = .ok info
      ∧ info.id = 1 ∧ info.details.count? = some 2
  := by
  intro K
  have hshort : twoFunctions.Short := by
    simp [ManyProbes.Short, ManyProbes.lists, twoFunctions, UInt32.size]
  have hwellFormed : twoFunctions.WellFormed := by
    simp only [twoFunctions, ManyProbes.WellFormed, ManyProbes.OneTarget, ManyProbes.count]
    decide
  obtain ⟨hreaches, -, hannounced⟩ :=
    probes_announced hshort K (some (nthDescriptor 0)) ⟨.unknown, probesMachine, {}⟩
  obtain ⟨r, hr⟩ := hreaches.2 ⟨rfl, hwellFormed⟩
  obtain ⟨-, hcells, hmemory⟩ := hannounced r hr
  -- The list of cookies has two elements, so that is the number.
  have hnumber : wordAt (linkCreateAttr r).extra twoFunctions.countOffset = 2 := by
    have hcookies : (24, [7, 9].map Element.word) ∈ twoFunctions.lists := by
      simp [ManyProbes.lists, twoFunctions]
    have hsome : ¬ IsNull (linkCreateAttr r).extra 24 := by
      rw [hcells.isNull_iff _ hcookies]
      simp
    obtain ⟨buffer, -, helements, hlength⟩ := hcells.pointsTo _ hcookies hsome
    rw [← hlength, helements]
    rfl
  obtain ⟨hkept, hmade⟩ := hmemory {} {} (.new probesMachine)
  have hprogram : ∀ fd ∈ some (nthDescriptor 0),
      (Host.new probesMachine).kernel.state.IsProgram fd := by
    rintro fd ⟨⟩
    use 1, .kprobe, some .traceKprobeMulti
    cbv
  have hroom : (Host.new probesMachine).kernel.state.HasDescriptors := by cbv
  have hone : (Host.new probesMachine).kernel.state.nextLinkId = 1 := by cbv
  have hnext : (Host.new probesMachine).kernel.state.nextLinkId ≠ lastId := by
    rw [hone]
    decide
  obtain ⟨link, host, hattach⟩ := hmade rfl hroom hnext hprogram
  obtain ⟨record, -, hcount, hinfo⟩ := hkept link host hattach
  obtain ⟨info, hinfo, hid, hreported⟩ := hinfo (by simp)
  have htwo : record.count = 2 := by
    apply UInt32.toNat_inj.1
    rw [hcount, hnumber]
    rfl
  use hshort, r, link, host, info, hr, hnumber, hattach, hinfo, hid.trans hone
  rw [hreported, htwo]

end Bpf
