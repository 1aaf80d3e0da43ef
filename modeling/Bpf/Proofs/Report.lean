import Bpf.Link.Basic
import Bpf.Memory.Report
import Mathlib

/-!
# Reports read back

A kernel in memory lays the record of a link out in bytes, and a library reads them.  What is read is
what the record says (`LinkRecord.info`): each word is found where it was put, and the rest of a reply
is zero.
-/

namespace Bpf

/-! ### Words in a list of bytes -/

@[simp]
theorem length_word32 (w : UInt32) :
  (word32 w).length = 4
  := by
  apply length_littleEndian

@[simp]
theorem length_word64 (w : UInt64) :
  (word64 w).length = 8
  := by
  apply length_littleEndian

theorem ofLittleEndian_append (bytes rest : List UInt8) :
  ofLittleEndian (bytes ++ rest)
    = ofLittleEndian bytes + 256 ^ bytes.length * ofLittleEndian rest
  := by
  induction bytes with
  | nil => simp [ofLittleEndian]
  | cons b bytes ih =>
      simp only [List.cons_append, ofLittleEndian, ih, List.length_cons, pow_succ]
      ring

theorem ofLittleEndian_zeros (n : Nat) :
  ofLittleEndian (List.replicate n 0) = 0
  := by
  induction n with
  | zero => rfl
  | succ n ih => simp [List.replicate_succ, ofLittleEndian, ih]

theorem ofLittleEndian_word32 (w : UInt32) :
  ofLittleEndian (word32 w) = w.toNat
  := by
  rw [word32, ofLittleEndian_littleEndian]
  apply Nat.mod_eq_of_lt w.toNat_lt

theorem ofLittleEndian_word64 (w : UInt64) :
  ofLittleEndian (word64 w) = w.toNat
  := by
  rw [word64, ofLittleEndian_littleEndian]
  apply Nat.mod_eq_of_lt w.toNat_lt

theorem drop_append_of_length {front : List UInt8} {width : Nat} (h : front.length = width)
    (rest : List UInt8) (offset : Nat) :
  (front ++ rest).drop (offset + width) = rest.drop offset
  := by
  rw [Nat.add_comm, ← List.drop_drop, List.drop_left' h]

theorem word32At_word32 (w : UInt32) (rest : List UInt8) :
  word32At (word32 w ++ rest) 0 = w
  := by
  have htake : (word32 w ++ rest).take 4 = word32 w := List.take_left' (length_word32 w)
  rw [word32At, List.drop_zero, htake, ofLittleEndian_word32, UInt32.ofNat_toNat]

theorem word64At_word64 (w : UInt64) (rest : List UInt8) :
  word64At (word64 w ++ rest) 0 = w
  := by
  have htake : (word64 w ++ rest).take 8 = word64 w := List.take_left' (length_word64 w)
  rw [word64At, List.drop_zero, htake, ofLittleEndian_word64, UInt64.ofNat_toNat]

/-- A word of four bytes with zeros behind it is the same number in eight bytes. -/
theorem word64At_word32 (w : UInt32) (rest : List UInt8) :
  word64At (word32 w ++ (word32 0 ++ rest)) 0 = w.toUInt64
  := by
  have htake : (word32 w ++ (word32 0 ++ rest)).take 8 = word32 w ++ word32 0 := by
    rw [← List.append_assoc]
    apply List.take_left'
    rw [List.length_append, length_word32, length_word32]
  rw [word64At, List.drop_zero, htake, ofLittleEndian_append, ofLittleEndian_word32,
    ofLittleEndian_word32]
  apply UInt64.toNat_inj.1
  simp

theorem word32At_after32 (w : UInt32) (rest : List UInt8) (offset : Nat) :
  word32At (word32 w ++ rest) (offset + 4) = word32At rest offset
  := by
  rw [word32At, drop_append_of_length (length_word32 w), word32At]

theorem word32At_after64 (w : UInt64) (rest : List UInt8) (offset : Nat) :
  word32At (word64 w ++ rest) (offset + 8) = word32At rest offset
  := by
  rw [word32At, drop_append_of_length (length_word64 w), word32At]

theorem word64At_after32 (w : UInt32) (rest : List UInt8) (offset : Nat) :
  word64At (word32 w ++ rest) (offset + 4) = word64At rest offset
  := by
  rw [word64At, drop_append_of_length (length_word32 w), word64At]

theorem word64At_after64 (w : UInt64) (rest : List UInt8) (offset : Nat) :
  word64At (word64 w ++ rest) (offset + 8) = word64At rest offset
  := by
  rw [word64At, drop_append_of_length (length_word64 w), word64At]

theorem word32At_zeros (n offset : Nat) :
  word32At (List.replicate n 0) offset = 0
  := by
  rw [word32At, List.drop_replicate, List.take_replicate, ofLittleEndian_zeros]
  rfl

/-! ### Values of an enumeration -/

/-- A value with a name is found again by its number. -/
theorem Code.ofRaw_raw {α : Type} [Code α] {a : α} (h : a ∈ (named : List α)) :
  ofRaw (raw a) = a
  := by
  obtain ⟨i, hi, rfl⟩ := List.getElem_of_mem h
  rw [ofRaw, raw_named i hi, List.getElem?_eq_getElem hi]

namespace Memory

namespace LinkRecord

open LinkInfo (nonzero)

/-! ### What a record says -/

/-- The details that the record of a link makes known. -/
def details (link : LinkRecord) : LinkDetails :=
  let attachType : AttachType := Code.ofRaw (Code.raw link.attachType)
  let target := nonzero (some link.target)
  let count := nonzero (some link.count)
  match link.linkType with
  | .tracing => .tracing ((nonzero (some (Code.raw link.attachType))).map Code.ofRaw) none target
  | .cgroup => .cgroup (some link.target.toUInt64) (some attachType)
  | .netNs => .netNs (some link.target) (some attachType)
  | .xdp => .xdp target
  | .structOps => .structOps target
  | .netfilter =>
    match link.netfilter with
    | some n => .netfilter (some n.family) (some n.hook) (some n.priority) (some n.flags)
    | none => .netfilter (some 0) (some 0) (some 0) (some 0)
  | .kprobeMulti =>
    .kprobeMulti count (count.map fun _ => link.flags) (count.map fun _ => link.missed)
  | .uprobeMulti => .uprobeMulti count (count.map fun _ => link.flags) target
  | .perfEvent => .perfEvent (some 0)
  | .tcx => .tcx target (some attachType)
  | .netkit => .netkit target (some attachType)
  | _ => .other

/-- What the record of a link makes known. -/
def info (link : LinkRecord) : LinkInfo where
  linkType := link.linkType
  id := link.id
  programId := nonzero (some link.programId)
  details := link.details

/-! ### Reading -/

/-- A reply is the words that all links have, and the details with nothing but zeros behind them. -/
theorem bytes_eq (link : LinkRecord) :
  link.bytes = word32 (Code.raw link.linkType) ++ (word32 link.id ++ (word32 link.programId
    ++ (word32 0 ++ (link.detailBytes ++ List.replicate (48 - link.detailBytes.length) 0))))
  := by
  simp only [bytes, List.append_assoc, List.length_append, length_word32, LinkInfo.size]

theorem word32?_report (link : LinkRecord) (offset : Nat) (h : offset + 4 ≤ 48) :
  LinkInfo.word32? ⟨link.bytes, LinkInfo.size⟩ (LinkInfo.detailsOffset + offset)
    = some (word32At (link.detailBytes ++ List.replicate (48 - link.detailBytes.length) 0) offset)
  := by
  have hend : LinkInfo.detailsOffset + offset + 4 ≤ LinkInfo.size := by
    simp only [LinkInfo.detailsOffset, LinkInfo.size]
    omega
  have hoffset : LinkInfo.detailsOffset + offset = offset + 4 + 4 + 4 + 4 := by
    simp only [LinkInfo.detailsOffset]
    omega
  rw [LinkInfo.word32?, if_pos hend, bytes_eq, hoffset, word32At_after32, word32At_after32,
    word32At_after32, word32At_after32]

theorem word64?_report (link : LinkRecord) (offset : Nat) (h : offset + 8 ≤ 48) :
  LinkInfo.word64? ⟨link.bytes, LinkInfo.size⟩ (LinkInfo.detailsOffset + offset)
    = some (word64At (link.detailBytes ++ List.replicate (48 - link.detailBytes.length) 0) offset)
  := by
  have hend : LinkInfo.detailsOffset + offset + 8 ≤ LinkInfo.size := by
    simp only [LinkInfo.detailsOffset, LinkInfo.size]
    omega
  have hoffset : LinkInfo.detailsOffset + offset = offset + 4 + 4 + 4 + 4 := by
    simp only [LinkInfo.detailsOffset]
    omega
  rw [LinkInfo.word64?, if_pos hend, bytes_eq, hoffset, word64At_after32, word64At_after32,
    word64At_after32, word64At_after32]

theorem bind_some_eq_map {α β : Type} (gate : Option α) (b : β) :
  (gate.bind fun _ => some b) = gate.map fun _ => b
  := by
  cases gate with
  | none => rfl
  | some a => rfl

theorem nonzero_zero :
  nonzero (some 0) = none
  := rfl

theorem decodeDetails_bytes (link : LinkRecord) :
  LinkInfo.decodeDetails link.linkType ⟨link.bytes, LinkInfo.size⟩ = link.details
  := by
  have word (offset : Nat) (h : offset + 4 ≤ 48) := word32?_report link offset h
  have long (offset : Nat) (h : offset + 8 ≤ 48) := word64?_report link offset h
  generalize hpadding : List.replicate (48 - link.detailBytes.length) (0 : UInt8) = padding
    at word long
  have hpad (offset : Nat) : word32At padding offset = 0 := by
    rw [← hpadding, word32At_zeros]
  -- Two types read words that their links have not laid out; all others read back what they wrote.
  cases htype : link.linkType with
  | netfilter =>
      cases hhook : link.netfilter with
      | none =>
          simp (disch := decide) only [LinkInfo.decodeDetails, details, htype, hhook, word,
            detailBytes, List.nil_append, hpad]
          rfl
      | some hook =>
          simp (disch := decide) only [LinkInfo.decodeDetails, details, htype, hhook, word,
            detailBytes, List.append_assoc, word32At_word32, word32At_after32]
          simp
  | perfEvent =>
      simp (disch := decide) only [LinkInfo.decodeDetails, details, htype, word, detailBytes,
        List.nil_append, hpad]
  | _ =>
      simp (disch := decide) only [LinkInfo.decodeDetails, details, htype, word, long, detailBytes,
        List.append_assoc, word32At_word32, word32At_after32, word32At_after64, word64At_word64,
        word64At_word32, word64At_after32, word64At_after64, nonzero_zero, bind_some_eq_map,
        Option.map_some]

theorem typeWord_bytes (link : LinkRecord) :
  word32At link.bytes LinkInfo.typeOffset = Code.raw link.linkType
  := by
  rw [bytes_eq, LinkInfo.typeOffset, word32At_word32]

theorem idWord_bytes (link : LinkRecord) :
  word32At link.bytes LinkInfo.idOffset = link.id
  := by
  rw [bytes_eq, LinkInfo.idOffset, word32At_after32 _ _ 0, word32At_word32]

/-- A reply that goes as far as the id of a link is read, and tells its type and its id. -/
theorem readInfo_report_of_le {length : Option Nat} (h : ∀ n, length = some n → 8 ≤ n)
    (link : LinkRecord) :
  ∃ info, Link.readInfo (link.report length) = .ok info
    ∧ info.linkType = Code.ofRaw (Code.raw link.linkType) ∧ info.id = link.id
  := by
  have hlong : ¬ (link.report length).length < LinkInfo.idOffset + 4 := by
    cases length with
    | none => simp [report, LinkInfo.size, LinkInfo.idOffset]
    | some n =>
        have := h n rfl
        simp only [report, LinkInfo.size, LinkInfo.idOffset, Option.getD_some]
        omega
  rw [Link.readInfo, LinkInfo.decode, if_neg hlong]
  refine ⟨_, rfl, ?_, ?_⟩
  · exact congrArg Code.ofRaw link.typeWord_bytes
  · exact link.idWord_bytes

/-- A reply that does not go as far as the id of a link is not read. -/
theorem readInfo_report_of_lt {length : Option Nat} (h : length.getD LinkInfo.size < 8)
    (link : LinkRecord) :
  Link.readInfo (link.report length)
    = .error (.fatal s!"link info truncated to {length.getD LinkInfo.size} bytes")
  := by
  have hfilled : min (length.getD LinkInfo.size) LinkInfo.size = length.getD LinkInfo.size := by
    apply Nat.min_eq_left
    simp only [LinkInfo.size] at h ⊢
    omega
  have hshort : (link.report length).length < LinkInfo.idOffset + 4 := hfilled.trans_lt h
  rw [Link.readInfo, LinkInfo.decode, if_pos hshort, report, hfilled]

/-- A whole reply says what the record makes known, if the type of the link goes by its name where it
has one. -/
theorem decode_bytes {link : LinkRecord}
    (htype : Code.ofRaw (Code.raw link.linkType) = link.linkType) :
  LinkInfo.decode ⟨link.bytes, LinkInfo.size⟩ = some link.info
  := by
  have hlong : ¬ LinkInfo.size < LinkInfo.idOffset + 4 := by decide
  have hend : LinkInfo.programIdOffset + 4 ≤ LinkInfo.size := by decide
  have hprogram : LinkInfo.word32? ⟨link.bytes, LinkInfo.size⟩ LinkInfo.programIdOffset
      = some link.programId := by
    rw [LinkInfo.word32?, if_pos hend, bytes_eq, LinkInfo.programIdOffset,
      word32At_after32 _ _ 4, word32At_after32 _ _ 0, word32At_word32]
  rw [LinkInfo.decode, if_neg hlong, typeWord_bytes, idWord_bytes, hprogram, htype]
  dsimp only
  rw [decodeDetails_bytes, info]

/-- A whole reply on a link whose type has a name is read as what its record makes known. -/
theorem readInfo_report {length : Option Nat} (h : ∀ n, length = some n → LinkInfo.size ≤ n)
    {link : LinkRecord} (htype : link.linkType ∈ (Code.named : List LinkType)) :
  Link.readInfo (link.report length) = .ok link.info
  := by
  have hmin : min (length.getD LinkInfo.size) LinkInfo.size = LinkInfo.size := by
    cases length with
    | none => rfl
    | some n => apply Nat.min_eq_right (h n rfl)
  rw [report, hmin, Link.readInfo, decode_bytes (Code.ofRaw_raw htype)]

end LinkRecord

end Memory

end Bpf
