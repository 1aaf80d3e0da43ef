import Bpf.Link.Info

/-!
# Replies that are cut short

What is read from a reply of which the kernel has filled in only a part, compared with what is read
from the whole of it.  A detail is there exactly if its last byte is; nothing else depends on how far
the reply goes, so the bytes behind that point do not count, and a longer reply extends a shorter one.
-/

namespace Bpf

variable {α β : Type}

/-! ### Words -/

/-- A piece of a reply depends only on the bytes up to its end. -/
theorem take_drop_congr {bytes bytes' : List UInt8} {offset width length : Nat}
    (h : bytes.take length = bytes'.take length) (hend : offset + width ≤ length) :
  (bytes.drop offset).take width = (bytes'.drop offset).take width
  := by
  have key : ∀ l : List UInt8,
      (l.drop offset).take width = ((l.take length).drop offset).take width := by
    intro l
    rw [List.drop_take, List.take_take, Nat.min_eq_left (by omega)]
  rw [key, h, ← key]

theorem word32At_congr {bytes bytes' : List UInt8} {offset length : Nat}
    (h : bytes.take length = bytes'.take length) (hend : offset + 4 ≤ length) :
  word32At bytes offset = word32At bytes' offset
  := by
  rw [word32At, word32At, take_drop_congr h hend]

theorem word64At_congr {bytes bytes' : List UInt8} {offset length : Nat}
    (h : bytes.take length = bytes'.take length) (hend : offset + 8 ≤ length) :
  word64At bytes offset = word64At bytes' offset
  := by
  rw [word64At, word64At, take_drop_congr h hend]

namespace LinkInfo

/-- The last byte of a detail of the given width, at an offset in the details of a reply. -/
def lastByte (offset width : Nat) : Nat := detailsOffset + offset + width - 1

/-- A detail of a reply that goes as far as `length`: it is absent if its last byte lies beyond. -/
def within (length offset width : Nat) (field : Option α) : Option α :=
  if lastByte offset width < length then field else none

/-- A detail of four bytes is there if its last byte is, with the value it has in a whole reply. -/
theorem word32?_eq_within (bytes : List UInt8) (length offset : Nat)
    (h : detailsOffset + offset + 4 ≤ size) :
  word32? ⟨bytes, length⟩ (detailsOffset + offset)
    = within length offset 4 (word32? ⟨bytes, size⟩ (detailsOffset + offset))
  := by
  have hend : detailsOffset + offset + 4 ≤ length ↔ lastByte offset 4 < length := by
    simp only [lastByte]
    omega
  simp only [word32?, within, h, hend, if_true]

/-- A detail of eight bytes is there if its last byte is, with the value it has in a whole reply. -/
theorem word64?_eq_within (bytes : List UInt8) (length offset : Nat)
    (h : detailsOffset + offset + 8 ≤ size) :
  word64? ⟨bytes, length⟩ (detailsOffset + offset)
    = within length offset 8 (word64? ⟨bytes, size⟩ (detailsOffset + offset))
  := by
  have hend : detailsOffset + offset + 8 ≤ length ↔ lastByte offset 8 < length := by
    simp only [lastByte]
    omega
  simp only [word64?, within, h, hend, if_true]

theorem nonzero_within (length offset width : Nat) (field : Option UInt32) :
  nonzero (within length offset width field) = within length offset width (nonzero field)
  := by
  unfold within
  split
  · rfl
  · rfl

theorem map_within (length offset width : Nat) (f : α → β) (field : Option α) :
  (within length offset width field).map f = within length offset width (field.map f)
  := by
  unfold within
  split
  · rfl
  · rfl

/-- A detail that stands behind another one, and is only read if that one is set, may be cut off
after it has been read. -/
theorem bind_within {offset width offset' width' : Nat} (length : Nat) (gate : Option α)
    (field : Option β) (h : lastByte offset width ≤ lastByte offset' width') :
  ((within length offset width gate).bind fun _ => within length offset' width' field)
    = within length offset' width' (gate.bind fun _ => field)
  := by
  unfold within
  by_cases hfield : lastByte offset' width' < length
  · have hgate : lastByte offset width < length := by omega
    simp only [hfield, hgate, if_true]
  · simp [hfield]

end LinkInfo

/-! ### Reports that are cut short -/

open LinkInfo

/-- The details without those whose last byte lies beyond `length`. -/
def LinkDetails.cut (length : Nat) : LinkDetails → LinkDetails
  | .tracing attachType targetObjectId targetBtfId =>
    .tracing (within length 0 4 attachType) (within length 4 4 targetObjectId)
      (within length 8 4 targetBtfId)
  | .cgroup cgroupId attachType =>
    .cgroup (within length 0 8 cgroupId) (within length 8 4 attachType)
  | .netNs inode attachType => .netNs (within length 0 4 inode) (within length 4 4 attachType)
  | .xdp interface => .xdp (within length 0 4 interface)
  | .structOps mapId => .structOps (within length 0 4 mapId)
  | .netfilter family hook priority flags =>
    .netfilter (within length 0 4 family) (within length 4 4 hook) (within length 8 4 priority)
      (within length 12 4 flags)
  | .kprobeMulti count flags missed =>
    .kprobeMulti (within length 8 4 count) (within length 12 4 flags) (within length 16 8 missed)
  | .uprobeMulti count flags pid =>
    .uprobeMulti (within length 36 4 count) (within length 40 4 flags) (within length 44 4 pid)
  | .perfEvent eventType => .perfEvent (within length 0 4 eventType)
  | .tcx interface attachType => .tcx (within length 0 4 interface) (within length 4 4 attachType)
  | .netkit interface attachType =>
    .netkit (within length 0 4 interface) (within length 4 4 attachType)
  | .other => .other

/-- The report without what lies beyond `length`. -/
def LinkInfo.cut (length : Nat) (info : LinkInfo) : LinkInfo where
  linkType := info.linkType
  id := info.id
  programId := if length < 12 then none else info.programId
  details := info.details.cut length

namespace LinkInfo

/-! ### Reading a reply that is cut short -/

/-- The details in a reply that is cut short are those in the whole reply, cut short. -/
theorem decodeDetails_eq_cut (linkType : LinkType) (bytes : List UInt8) (length : Nat) :
  decodeDetails linkType ⟨bytes, length⟩ = (decodeDetails linkType ⟨bytes, size⟩).cut length
  := by
  have word (offset : Nat) (h : detailsOffset + offset + 4 ≤ size) :=
    word32?_eq_within bytes length offset h
  have long (offset : Nat) (h : detailsOffset + offset + 8 ≤ size) :=
    word64?_eq_within bytes length offset h
  cases linkType with
  | tracing =>
      simp only [decodeDetails, LinkDetails.cut]
      rw [word 0 (by decide), word 4 (by decide), word 8 (by decide)]
      simp only [nonzero_within, map_within]
  | cgroup =>
      simp only [decodeDetails, LinkDetails.cut]
      rw [long 0 (by decide), word 8 (by decide), map_within]
  | netNs =>
      simp only [decodeDetails, LinkDetails.cut]
      rw [word 0 (by decide), word 4 (by decide), map_within]
  | xdp =>
      simp only [decodeDetails, LinkDetails.cut]
      rw [word 0 (by decide), nonzero_within]
  | structOps =>
      simp only [decodeDetails, LinkDetails.cut]
      rw [word 0 (by decide), nonzero_within]
  | netfilter =>
      simp only [decodeDetails, LinkDetails.cut]
      rw [word 0 (by decide), word 4 (by decide), word 8 (by decide), word 12 (by decide),
        map_within]
  | kprobeMulti =>
      simp only [decodeDetails, LinkDetails.cut]
      rw [word 8 (by decide), word 12 (by decide), long 16 (by decide), nonzero_within,
        bind_within length _ _ (by decide), bind_within length _ _ (by decide)]
  | uprobeMulti =>
      simp only [decodeDetails, LinkDetails.cut]
      rw [word 36 (by decide), word 40 (by decide), word 44 (by decide), nonzero_within,
        nonzero_within, bind_within length _ _ (by decide)]
  | perfEvent =>
      simp only [decodeDetails, LinkDetails.cut]
      rw [word 0 (by decide)]
  | tcx =>
      simp only [decodeDetails, LinkDetails.cut]
      rw [word 0 (by decide), word 4 (by decide), nonzero_within, map_within]
  | netkit =>
      simp only [decodeDetails, LinkDetails.cut]
      rw [word 0 (by decide), word 4 (by decide), nonzero_within, map_within]
  | unspec => rfl
  | rawTracepoint => rfl
  | iter => rfl
  | sockmap => rfl
  | unknown => rfl

/-- What is read from a reply that is cut short, told by what is read from the whole reply. -/
theorem decode_eq_cut (bytes : List UInt8) (length : Nat) :
  decode ⟨bytes, length⟩
    = if length < 8 then none else (decode ⟨bytes, size⟩).map (cut length)
  := by
  have hprogram : nonzero (word32? ⟨bytes, length⟩ programIdOffset)
      = if length < 12 then none else nonzero (word32? ⟨bytes, size⟩ programIdOffset) := by
    by_cases h : length < 12
    · have hend : ¬ 12 ≤ length := by omega
      simp [word32?, programIdOffset, nonzero, h, hend]
    · have hend : 12 ≤ length := by omega
      simp [word32?, programIdOffset, size, h, hend]
  by_cases h : length < 8
  · simp [decode, idOffset, h]
  · simp [decode, idOffset, size, h, cut, hprogram, decodeDetails_eq_cut _ bytes length]

/-! ### What a reply depends on -/

theorem decodeDetails_congr (linkType : LinkType) {bytes bytes' : List UInt8} {length : Nat}
    (h : bytes.take length = bytes'.take length) :
  decodeDetails linkType ⟨bytes, length⟩ = decodeDetails linkType ⟨bytes', length⟩
  := by
  have hword : word32? ⟨bytes, length⟩ = word32? ⟨bytes', length⟩ := by
    funext offset
    simp only [word32?]
    split
    next hend => rw [word32At_congr h hend]
    next => rfl
  have hlong : word64? ⟨bytes, length⟩ = word64? ⟨bytes', length⟩ := by
    funext offset
    simp only [word64?]
    split
    next hend => rw [word64At_congr h hend]
    next => rfl
  simp only [decodeDetails, hword, hlong]

/-- What is read from a reply depends only on the bytes that the kernel has filled in. -/
theorem decode_congr {bytes bytes' : List UInt8} {length : Nat}
    (h : bytes.take length = bytes'.take length) :
  decode ⟨bytes, length⟩ = decode ⟨bytes', length⟩
  := by
  by_cases hid : length < 8
  · simp [decode, idOffset, hid]
  · have htype : word32At bytes typeOffset = word32At bytes' typeOffset := by
      apply word32At_congr h
      simp only [typeOffset]
      omega
    have hnumber : word32At bytes idOffset = word32At bytes' idOffset := by
      apply word32At_congr h
      simp only [idOffset]
      omega
    have hprogram : word32? ⟨bytes, length⟩ programIdOffset
        = word32? ⟨bytes', length⟩ programIdOffset := by
      simp only [word32?]
      split
      next hend => rw [word32At_congr h hend]
      next => rfl
    simp only [decode, htype, hnumber, hprogram, decodeDetails_congr _ h]

end LinkInfo

/-! ### Longer replies -/

/-- What the first field says, the second one says too. -/
def Kept (field field' : Option α) : Prop := ∀ value, field = some value → field' = some value

theorem Kept.within {length length' : Nat} (h : length ≤ length') (offset width : Nat)
    (field : Option α) :
  Kept (within length offset width field) (within length' offset width field)
  := by
  intro value hvalue
  unfold LinkInfo.within at hvalue ⊢
  split at hvalue
  next hend => rw [if_pos (by omega), hvalue]
  next => cases hvalue

/-- Details of the same kind of link, of which the second say all that the first do. -/
def LinkDetails.KeptIn : LinkDetails → LinkDetails → Prop
  | .tracing attachType targetObjectId targetBtfId,
    .tracing attachType' targetObjectId' targetBtfId' =>
    Kept attachType attachType' ∧ Kept targetObjectId targetObjectId'
      ∧ Kept targetBtfId targetBtfId'
  | .cgroup cgroupId attachType, .cgroup cgroupId' attachType' =>
    Kept cgroupId cgroupId' ∧ Kept attachType attachType'
  | .netNs inode attachType, .netNs inode' attachType' =>
    Kept inode inode' ∧ Kept attachType attachType'
  | .xdp interface, .xdp interface' => Kept interface interface'
  | .structOps mapId, .structOps mapId' => Kept mapId mapId'
  | .netfilter family hook priority flags, .netfilter family' hook' priority' flags' =>
    Kept family family' ∧ Kept hook hook' ∧ Kept priority priority' ∧ Kept flags flags'
  | .kprobeMulti count flags missed, .kprobeMulti count' flags' missed' =>
    Kept count count' ∧ Kept flags flags' ∧ Kept missed missed'
  | .uprobeMulti count flags pid, .uprobeMulti count' flags' pid' =>
    Kept count count' ∧ Kept flags flags' ∧ Kept pid pid'
  | .perfEvent eventType, .perfEvent eventType' => Kept eventType eventType'
  | .tcx interface attachType, .tcx interface' attachType' =>
    Kept interface interface' ∧ Kept attachType attachType'
  | .netkit interface attachType, .netkit interface' attachType' =>
    Kept interface interface' ∧ Kept attachType attachType'
  | .other, .other => True
  | _, _ => False

theorem LinkDetails.keptIn_cut {length length' : Nat} (h : length ≤ length')
    (details : LinkDetails) :
  (details.cut length).KeptIn (details.cut length')
  := by
  cases details with
  | tracing => exact ⟨.within h _ _ _, .within h _ _ _, .within h _ _ _⟩
  | cgroup => exact ⟨.within h _ _ _, .within h _ _ _⟩
  | netNs => exact ⟨.within h _ _ _, .within h _ _ _⟩
  | xdp => exact .within h _ _ _
  | structOps => exact .within h _ _ _
  | netfilter =>
      exact ⟨.within h _ _ _, .within h _ _ _, .within h _ _ _, .within h _ _ _⟩
  | kprobeMulti => exact ⟨.within h _ _ _, .within h _ _ _, .within h _ _ _⟩
  | uprobeMulti => exact ⟨.within h _ _ _, .within h _ _ _, .within h _ _ _⟩
  | perfEvent => exact .within h _ _ _
  | tcx => exact ⟨.within h _ _ _, .within h _ _ _⟩
  | netkit => exact ⟨.within h _ _ _, .within h _ _ _⟩
  | other => trivial

namespace LinkInfo

/-- A report on the same link that says all that `info` does. -/
structure KeptIn (info info' : LinkInfo) : Prop where
  linkType : info'.linkType = info.linkType
  id : info'.id = info.id
  programId : Kept info.programId info'.programId
  details : info.details.KeptIn info'.details

theorem keptIn_cut {length length' : Nat} (h : length ≤ length') (info : LinkInfo) :
  (info.cut length).KeptIn (info.cut length')
  where
  linkType := rfl
  id := rfl
  programId := by
    intro value hvalue
    simp only [cut] at hvalue ⊢
    split at hvalue
    next => cases hvalue
    next hend => rw [if_neg (by omega), hvalue]
  details := LinkDetails.keptIn_cut h info.details

/-- Without an id there is no report.  Otherwise the report is that of the whole reply, without the
fields whose last byte the kernel has not filled in; it depends on nothing but the bytes that are
filled in, and a longer reply says all that a shorter one does. -/
theorem decode_of_length (bytes : List UInt8) (length : Nat) :
  (decode ⟨bytes, length⟩ = none ↔ length < 8)
    ∧ (∃ whole, decode ⟨bytes, size⟩ = some whole
        ∧ (8 ≤ length → decode ⟨bytes, length⟩ = some (whole.cut length)))
    ∧ (∀ bytes', bytes.take length = bytes'.take length →
        decode ⟨bytes, length⟩ = decode ⟨bytes', length⟩)
    ∧ (∀ length' info, length ≤ length' → decode ⟨bytes, length⟩ = some info →
        ∃ info', decode ⟨bytes, length'⟩ = some info' ∧ info.KeptIn info')
  := by
  have hcut := decode_eq_cut bytes
  obtain ⟨whole, hwhole⟩ : ∃ whole, decode ⟨bytes, size⟩ = some whole := by
    simp [decode, size, idOffset]
  rw [hwhole] at hcut
  refine ⟨?_, ⟨whole, hwhole, ?_⟩, fun bytes' => decode_congr, ?_⟩
  · rw [hcut]
    simp
  · intro h
    rw [hcut, if_neg (by omega), Option.map_some]
  · intro length' info hle hinfo
    rw [hcut] at hinfo
    split at hinfo
    next => cases hinfo
    next h =>
      cases hinfo
      refine ⟨whole.cut length', ?_, keptIn_cut hle whole⟩
      rw [hcut, if_neg (by omega), Option.map_some]

end LinkInfo

end Bpf
