import Bpf.Proofs.ManyProbes

/-!
# The layout of a request for a link

What the kernel is handed for a new link is a part that all links have, and behind it one of several
members that share their room, each with a layout of its own.  The fields of a member follow one another
in the order in which it declares them, each at a multiple of its width.  A request fills in every field
of its member with what it says, the address of a list where there is a list, and leaves all bytes
between the fields and behind them zero; so what differs in two requests for the same kind of link can be
told from the bytes, wherever the lists are.
-/

namespace Bpf

open Linux

variable {σ : Type}

namespace Linux

/-! ### Values and fields -/

/-- What a field holds. -/
inductive Value where
  | word32 (w : UInt32)
  | word64 (w : UInt64)
  /-- The address of a list, or zero if that has no elements. -/
  | list (buffer : Buffer)

namespace Value

/-- The number of bytes of a value. -/
def width : Value → Nat
  | .word32 _ => 4
  | .word64 _ => 8
  | .list _ => 8

/-- The bytes of a value. -/
def cells : Value → List Cell
  | .word32 w => Cell.ofWord32 w
  | .word64 w => Cell.ofWord64 w
  | .list buffer => if buffer.elements.isEmpty then Cell.ofWord64 0 else Cell.ofAddress buffer

/-- The value is a number and not the address of a list. -/
def IsNumber : Value → Prop
  | .list _ => False
  | _ => True

@[simp]
theorem length_cells (value : Value) :
  value.cells.length = value.width
  := by
  cases value with
  | word32 w => apply Cell.length_ofWord32
  | word64 w => apply Cell.length_ofWord64
  | list buffer =>
      rw [cells]
      split
      next => apply Cell.length_ofWord64
      next => apply Cell.length_ofAddress

theorem width_pos (value : Value) :
  0 < value.width
  := by
  cases value with
  | _ => simp [width]

theorem cells_word32 (w : UInt32) :
  (Value.word32 w).cells = Cell.ofWord32 w
  := rfl

theorem cells_word64 (w : UInt64) :
  (Value.word64 w).cells = Cell.ofWord64 w
  := rfl

theorem cells_words (words : List UInt64) :
  (Value.list (.words words)).cells = Cell.ofWords words
  := by
  rw [cells, Cell.ofWords, Buffer.elements, List.isEmpty_map]

theorem cells_texts (texts : List NulFree) :
  (Value.list (.texts texts)).cells = Cell.ofTexts texts
  := by
  rw [cells, Cell.ofTexts, Buffer.elements, List.isEmpty_map]

theorem cells_text (text : NulFree) :
  (Value.list (.text text)).cells = Cell.ofAddress (.text text)
  := rfl

end Value

/-- A field of an argument. -/
structure Field where
  name : String
  offset : Nat
  width : Nat
deriving DecidableEq

/-- A byte is one of those of the field. -/
def Field.Covers (field : Field) (i : Nat) : Prop :=
  field.offset ≤ i ∧ i < field.offset + field.width

/-- The first multiple of a width from a number on. -/
def aligned (n width : Nat) : Nat := (n + width - 1) / width * width

/-- The fields with the given names and widths, from an offset on. -/
def placed (start : Nat) : List (String × Nat) → List Field
  | [] => []
  | (name, width) :: rest =>
    ⟨name, aligned start width, width⟩ :: placed (aligned start width + width) rest

/-- Fields hold values of the same names, and all bytes that are in no field are zero. -/
structure Holds (cells : List Cell) (fields : List Field) (values : List (String × Value)) : Prop where
  held : List.Forall₂ (fun field entry => field.name = entry.1
    ∧ (cells.drop field.offset).take field.width = entry.2.cells) fields values
  rest : ∀ i cell, cells[i]? = some cell → (∀ field ∈ fields, ¬ field.Covers i) → cell = .byte 0

/-- What values declare: their names and widths. -/
def declared (values : List (String × Value)) : List (String × Nat) :=
  values.map fun entry => (entry.1, entry.2.width)

/-- The bytes of values that are laid out from an offset on. -/
def laid (start : Nat) : List (String × Value) → List Cell
  | [] => []
  | (_, value) :: rest =>
    List.replicate (aligned start value.width - start) (.byte 0)
      ++ (value.cells ++ laid (aligned start value.width + value.width) rest)

/-! ### Laying values out -/

theorem le_aligned {width : Nat} (h : 0 < width) (n : Nat) :
  n ≤ aligned n width
  := by
  have hrest := Nat.mod_lt (n + width - 1) h
  have hsum := Nat.div_add_mod (n + width - 1) width
  rw [Nat.mul_comm] at hsum
  rw [aligned]
  omega

section Laying

variable {start n : Nat} {values : List (String × Value)}

/-- Before the first field there is what was there, and zeros up to the field. -/
theorem length_padded {front : List Cell} (hfront : front.length = start) (value : Value) :
  (front ++ List.replicate (aligned start value.width - start) (Cell.byte 0)).length
    = aligned start value.width
  := by
  have := le_aligned value.width_pos start
  rw [List.length_append, List.length_replicate, hfront]
  omega

theorem held_laid (front : List Cell) (hfront : front.length = start) (behind : List Cell) :
  List.Forall₂ (fun field entry => field.name = entry.1
      ∧ ((front ++ (laid start values ++ behind)).drop field.offset).take field.width = entry.2.cells)
    (placed start (declared values)) values
  := by
  induction values generalizing front start with
  | nil => exact .nil
  | cons entry values ih =>
      obtain ⟨name, value⟩ := entry
      have hpadded := length_padded hfront value
      refine .cons ⟨rfl, ?_⟩ ?_
      · show ((front ++ (laid start ((name, value) :: values) ++ behind)).drop
          (aligned start value.width)).take value.width = value.cells
        rw [laid, List.append_assoc, ← List.append_assoc front, List.drop_left' hpadded,
          List.append_assoc, List.take_left' value.length_cells]
      · have hnext : (front ++ List.replicate (aligned start value.width - start) (Cell.byte 0)
            ++ value.cells).length = aligned start value.width + value.width := by
          rw [List.length_append, hpadded, value.length_cells]
        have hrest := ih _ hnext
        simp only [List.append_assoc] at hrest
        simp only [laid, List.append_assoc]
        exact hrest

theorem zero_of_mem_replicate {cell : Cell} {i : Nat}
    (h : (List.replicate n (Cell.byte 0))[i]? = some cell) :
  cell = .byte 0
  := by
  exact List.eq_of_mem_replicate (List.mem_of_getElem? h)

theorem zero_of_not_covered (front : List Cell) (hfront : front.length = start) {i : Nat} {cell : Cell}
    (hi : start ≤ i)
    (hcell : (front ++ (laid start values ++ List.replicate n (.byte 0)))[i]? = some cell)
    (huncovered : ∀ field ∈ placed start (declared values), ¬ field.Covers i) :
  cell = .byte 0
  := by
  induction values generalizing front start with
  | nil =>
      rw [laid, List.nil_append, List.getElem?_append_right (by omega)] at hcell
      exact zero_of_mem_replicate hcell
  | cons entry values ih =>
      obtain ⟨name, value⟩ := entry
      have hpadded := length_padded hfront value
      obtain ⟨hfield, hfields⟩ := List.forall_mem_cons.1 huncovered
      by_cases hpad : i < aligned start value.width
      · -- The byte is one of those before the field.
        rw [List.getElem?_append_right (by omega), laid, List.append_assoc,
          List.getElem?_append_left (by rw [List.length_replicate]; omega)] at hcell
        exact zero_of_mem_replicate hcell
      · have hbehind : aligned start value.width + value.width ≤ i := by
          by_contra hinside
          apply hfield
          constructor
          · show aligned start value.width ≤ i
            omega
          · show i < aligned start value.width + value.width
            omega
        have hnext : (front ++ List.replicate (aligned start value.width - start) (Cell.byte 0)
            ++ value.cells).length = aligned start value.width + value.width := by
          rw [List.length_append, hpadded, value.length_cells]
        apply ih _ hnext hbehind _ hfields
        rw [← hcell]
        simp only [laid, List.append_assoc]

/-- Values that are laid out, with nothing but zeros behind them, are held by their fields. -/
theorem holds_laid (values : List (String × Value)) (n : Nat) :
  Holds (laid 0 values ++ List.replicate n (.byte 0)) (placed 0 (declared values)) values
  where
  held := held_laid [] rfl _
  rest i _ hcell huncovered :=
    zero_of_not_covered [] rfl (Nat.zero_le i) hcell huncovered

end Laying

/-! ### Bytes in memory -/

/-- The bytes are those of the cells, wherever the lists are in memory. -/
def Shows (bytes : List UInt8) (cells : List Cell) : Prop :=
  List.Forall₂ (fun byte cell => ∀ b, cell = .byte b → byte = b) bytes cells

/-- The byte of a cell, with the lists at the given addresses. -/
def Cell.read (address : Buffer → UInt64) : Cell → UInt8
  | .byte b => b
  | .address buffer i => (word64 (address buffer)).getD i 0

theorem shows_read (address : Buffer → UInt64) (cells : List Cell) :
  Shows (cells.map (Cell.read address)) cells
  := by
  rw [Shows, List.forall₂_map_left_iff, List.forall₂_same]
  rintro cell - b rfl
  rfl

theorem Shows.eq_of_ofBytes {bytes known : List UInt8} (h : Shows bytes (Cell.ofBytes known)) :
  bytes = known
  := by
  rw [Shows, Cell.ofBytes, List.forall₂_map_right_iff] at h
  rw [← List.forall₂_eq_eq_eq]
  exact h.imp fun b c hb => hb c rfl

theorem Shows.take {bytes : List UInt8} {front behind : List Cell} {n : Nat}
    (h : Shows bytes (front ++ behind)) (hfront : front.length = n) :
  Shows (bytes.take n) front
  := hfront ▸ List.forall₂_take_append bytes front behind h

theorem Shows.drop {bytes : List UInt8} {front behind : List Cell} {n : Nat}
    (h : Shows bytes (front ++ behind)) (hfront : front.length = n) :
  Shows (bytes.drop n) behind
  := hfront ▸ List.forall₂_drop_append bytes front behind h

theorem word32_injective {w w' : UInt32} (h : word32 w = word32 w') :
  w = w'
  := by
  have hvalue := congrArg ofLittleEndian h
  rw [ofLittleEndian_word32, ofLittleEndian_word32] at hvalue
  exact UInt32.toNat_inj.1 hvalue

theorem word64_injective {w w' : UInt64} (h : word64 w = word64 w') :
  w = w'
  := by
  have hvalue := congrArg ofLittleEndian h
  rw [ofLittleEndian_word64, ofLittleEndian_word64] at hvalue
  exact UInt64.toNat_inj.1 hvalue

/-- A number can be told from its bytes. -/
theorem Value.eq_of_shows {bytes : List UInt8} {value value' : Value} (hwidth : value.width = value'.width)
    (hnumber : value.IsNumber) (hnumber' : value'.IsNumber) (h : Shows bytes value.cells)
    (h' : Shows bytes value'.cells) :
  value = value'
  := by
  cases value with
  | word32 w =>
      cases value' with
      | word32 w' => rw [word32_injective (h.eq_of_ofBytes.symm.trans h'.eq_of_ofBytes)]
      | word64 w' => cases hwidth
      | list buffer => cases hnumber'
  | word64 w =>
      cases value' with
      | word32 w' => cases hwidth
      | word64 w' => rw [word64_injective (h.eq_of_ofBytes.symm.trans h'.eq_of_ofBytes)]
      | list buffer => cases hnumber'
  | list buffer => cases hnumber

/-- Of values that are laid out in the same fields, the numbers can be told from the bytes. -/
theorem numbers_eq_of_shows {values values' : List (String × Value)} {behind behind' : List Cell}
    (hdeclared : declared values = declared values') {start : Nat} {bytes : List UInt8}
    (h : Shows bytes (laid start values ++ behind)) (h' : Shows bytes (laid start values' ++ behind')) :
  List.Forall₂ (fun entry entry' => entry.2.IsNumber → entry'.2.IsNumber → entry.2 = entry'.2)
    values values'
  := by
  induction values generalizing values' start bytes with
  | nil =>
      rw [List.map_eq_nil_iff.1 hdeclared.symm]
      exact .nil
  | cons entry values ih =>
      obtain ⟨entry', values', rfl, hentry, hvalues⟩ := List.map_eq_cons_iff.1 hdeclared.symm
      obtain ⟨name, value⟩ := entry
      obtain ⟨name', value'⟩ := entry'
      have hwidth : value'.width = value.width := congrArg Prod.snd hentry
      rw [laid, List.append_assoc, List.append_assoc] at h h'
      rw [hwidth] at h'
      -- The padding is the same in both, and then the values have the same width.
      replace h := h.drop List.length_replicate
      replace h' := h'.drop List.length_replicate
      refine .cons ?_ ?_
      · intro hnumber hnumber'
        exact Value.eq_of_shows hwidth.symm hnumber hnumber' (h.take value.length_cells)
          (h'.take (value'.length_cells.trans hwidth))
      · exact ih hvalues.symm (h.drop value.length_cells)
          (h'.drop (value'.length_cells.trans hwidth))

end Linux

/-! ### What a request says -/

namespace LinkExtra

/-- What the part that depends on the hook says, by the names of the fields. -/
def values : LinkExtra → List (String × Value)
  | .none => []
  | .targetBtfId id => [("target_btf_id", .word32 id)]
  | .perfEvent cookie => [("bpf_cookie", .word64 cookie)]
  | .tracing id cookie => [("target_btf_id", .word32 id), ("cookie", .word64 cookie)]
  | .kprobeMulti flags symbols addresses cookies =>
    [ ("flags", .word32 flags),
      ("cnt", .word32 (UInt32.ofNat
        (if symbols.isEmpty then addresses.length else symbols.length))),
      ("syms", .list (.texts symbols)), ("addrs", .list (.words addresses)),
      ("cookies", .list (.words cookies)) ]
  | .uprobeMulti path offsets refCtrOffsets cookies pid flags =>
    [ ("path", .list (.text path)), ("offsets", .list (.words offsets)),
      ("ref_ctr_offsets", .list (.words refCtrOffsets)), ("cookies", .list (.words cookies)),
      ("cnt", .word32 (UInt32.ofNat offsets.length)), ("flags", .word32 flags),
      ("pid", .word32 pid) ]
  | .netfilter family hook priority flags =>
    [ ("pf", .word32 family), ("hooknum", .word32 hook), ("priority", .word32 priority.toUInt32),
      ("flags", .word32 flags) ]
  | .ordered relative expectedRevision =>
    [("relative_fd", .word32 relative), ("expected_revision", .word64 expectedRevision)]

/-- The numbers that are given as such, and not by lists. -/
def scalars : LinkExtra → List Int
  | .none => []
  | .targetBtfId id => [id.toNat]
  | .perfEvent cookie => [cookie.toNat]
  | .tracing id cookie => [id.toNat, cookie.toNat]
  | .kprobeMulti flags _ _ _ => [flags.toNat]
  | .uprobeMulti _ _ _ _ pid flags => [pid.toNat, flags.toNat]
  | .netfilter family hook priority flags => [family.toNat, hook.toNat, priority.toInt, flags.toNat]
  | .ordered relative expectedRevision => [relative.toNat, expectedRevision.toNat]

end LinkExtra

namespace Linux

/-- The members that share the room for what depends on the hook. -/
inductive Member where
  | targetBtfId
  | perfEvent
  | tracing
  | kprobeMulti
  | uprobeMulti
  | netfilter
  | tcx
  | netkit
deriving DecidableEq

/-- The names and widths of the fields of a member, in the order in which it declares them. -/
def Member.fields : Member → List (String × Nat)
  | .targetBtfId => [("target_btf_id", 4)]
  | .perfEvent => [("bpf_cookie", 8)]
  | .tracing => [("target_btf_id", 4), ("cookie", 8)]
  | .kprobeMulti => [("flags", 4), ("cnt", 4), ("syms", 8), ("addrs", 8), ("cookies", 8)]
  | .uprobeMulti =>
    [ ("path", 8), ("offsets", 8), ("ref_ctr_offsets", 8), ("cookies", 8), ("cnt", 4),
      ("flags", 4), ("pid", 4) ]
  | .netfilter => [("pf", 4), ("hooknum", 4), ("priority", 4), ("flags", 4)]
  | .tcx => [("relative_fd", 4), ("expected_revision", 8)]
  | .netkit => [("relative_fd", 4), ("expected_revision", 8)]

/-- The names and widths of the fields that all links have. -/
def linkFields : List (String × Nat) :=
  [("prog_fd", 4), ("target_fd", 4), ("attach_type", 4), ("flags", 4)]

/-- The bytes of the arguments for a new link, with room for `size` of them. -/
def LinkCreateAttr.cells (attr : LinkCreateAttr) (size : Nat) : List Cell :=
  let set := Cell.ofWord32 attr.program ++ Cell.ofWord32 attr.target
    ++ Cell.ofWord32 attr.attachType ++ Cell.ofWord32 attr.flags ++ attr.extra
  set ++ List.replicate (size - set.length) (.byte 0)

end Linux

namespace LinkCreate

/-- The member that a request fills in. -/
def member (request : LinkCreate) : Option Member :=
  match request.extra with
  | .none => none
  | .targetBtfId _ => some .targetBtfId
  | .perfEvent _ => some .perfEvent
  | .tracing .. => some .tracing
  | .kprobeMulti .. => some .kprobeMulti
  | .uprobeMulti .. => some .uprobeMulti
  | .netfilter .. => some .netfilter
  | .ordered .. => some (if request.attachType.linkType = .netkit then .netkit else .tcx)

/-- The fields of a request.  The members begin behind the fields that all links have, at a multiple of
eight. -/
def fields (request : LinkCreate) : List Field :=
  placed 0 (linkFields ++ (request.member.map Member.fields).getD [])

/-- All that a request says. -/
def values (request : LinkCreate) : List (String × Value) :=
  [ ("prog_fd", .word32 request.program.number), ("target_fd", .word32 request.target),
    ("attach_type", .word32 (Code.raw request.attachType)), ("flags", .word32 request.flags) ]
    ++ request.extra.values

variable {request other : LinkCreate}

/-- Each member has the fields that a request for it says something of. -/
theorem fields_eq (request : LinkCreate) :
  request.fields = placed 0 (declared request.values)
  := by
  obtain ⟨program, target, attachType, flags, extra⟩ := request
  cases extra with
  | ordered relative expectedRevision =>
      by_cases hnetkit : attachType.linkType = .netkit
      · simp only [fields, member, if_pos hnetkit]
        rfl
      · simp only [fields, member, if_neg hnetkit]
        rfl
  | _ => rfl

example : (placed 0 (linkFields ++ Member.uprobeMulti.fields)).map Field.offset
    = [0, 4, 8, 12, 16, 24, 32, 40, 48, 52, 56] := by decide

theorem ofWord32_zero :
  Cell.ofWord32 0 = List.replicate 4 (.byte 0)
  := by
  decide

/-- The part that depends on the hook is laid out behind what all links have. -/
theorem extraBytes_eq (extra : LinkExtra) :
  extraBytes extra = laid 16 extra.values
  := by
  cases extra with
  | _ =>
      simp [extraBytes, LinkExtra.values, laid, aligned, Value.width, Value.cells_word32,
        Value.cells_word64, Value.cells_words, Value.cells_texts, Value.cells_text, ofWord32_zero,
        probeCount, List.append_assoc]

/-- The arguments are the values of a request, laid out from the beginning on, and zeros. -/
theorem exists_cells_eq (request : LinkCreate) (size : Nat) :
  ∃ n, (linkCreateAttr request).cells size
    = laid 0 request.values ++ List.replicate n (.byte 0)
  := by
  have hvalues : laid 0 request.values
      = Cell.ofWord32 request.program.number ++ (Cell.ofWord32 request.target
        ++ (Cell.ofWord32 (Code.raw request.attachType) ++ (Cell.ofWord32 request.flags
          ++ extraBytes request.extra))) := by
    simp [values, laid, aligned, Value.width, Value.cells_word32, extraBytes_eq]
  rw [hvalues]
  simp only [LinkCreateAttr.cells, linkCreateAttr, extraCells, List.append_assoc,
    List.replicate_append_replicate, List.append_cancel_left_eq]
  exact ⟨_, rfl⟩

/-- The fields of a request hold what it says, and the rest is zero. -/
theorem holds (request : LinkCreate) (size : Nat) :
  Holds ((linkCreateAttr request).cells size) request.fields request.values
  := by
  obtain ⟨n, hcells⟩ := exists_cells_eq request size
  rw [hcells, fields_eq]
  apply holds_laid

end LinkCreate

/-! ### What can be told from the bytes -/

namespace LinkExtra

variable {extra other : LinkExtra}

/-- What two requests say of the same kind of link. -/
inductive Alike : LinkExtra → LinkExtra → Prop
  | none : Alike .none .none
  | targetBtfId {id id' : UInt32} : Alike (.targetBtfId id) (.targetBtfId id')
  | perfEvent {cookie cookie' : UInt64} : Alike (.perfEvent cookie) (.perfEvent cookie')
  | tracing {id id' : UInt32} {cookie cookie' : UInt64} :
    Alike (.tracing id cookie) (.tracing id' cookie')
  | kprobeMulti {flags flags' : UInt32} {symbols symbols' : List NulFree}
      {addresses addresses' cookies cookies' : List UInt64} :
    Alike (.kprobeMulti flags symbols addresses cookies)
      (.kprobeMulti flags' symbols' addresses' cookies')
  | uprobeMulti {path path' : NulFree}
      {offsets offsets' refCtrOffsets refCtrOffsets' cookies cookies' : List UInt64}
      {pid pid' flags flags' : UInt32} :
    Alike (.uprobeMulti path offsets refCtrOffsets cookies pid flags)
      (.uprobeMulti path' offsets' refCtrOffsets' cookies' pid' flags')
  | netfilter {family family' hook hook' : UInt32} {priority priority' : Int32}
      {flags flags' : UInt32} :
    Alike (.netfilter family hook priority flags) (.netfilter family' hook' priority' flags')
  | ordered {relative relative' : UInt32} {expectedRevision expectedRevision' : UInt64} :
    Alike (.ordered relative expectedRevision) (.ordered relative' expectedRevision')

theorem alike_of_kind (h : extra.kind = other.kind) :
  extra.Alike other
  := by
  cases extra with
  | none => cases other with
    | none => exact .none
    | _ => simp only [kind, String.reduceEq] at h
  | targetBtfId => cases other with
    | targetBtfId => exact .targetBtfId
    | _ => simp only [kind, String.reduceEq] at h
  | perfEvent => cases other with
    | perfEvent => exact .perfEvent
    | _ => simp only [kind, String.reduceEq] at h
  | tracing => cases other with
    | tracing => exact .tracing
    | _ => simp only [kind, String.reduceEq] at h
  | kprobeMulti => cases other with
    | kprobeMulti => exact .kprobeMulti
    | _ => simp only [kind, String.reduceEq] at h
  | uprobeMulti => cases other with
    | uprobeMulti => exact .uprobeMulti
    | _ => simp only [kind, String.reduceEq] at h
  | netfilter => cases other with
    | netfilter => exact .netfilter
    | _ => simp only [kind, String.reduceEq] at h
  | ordered => cases other with
    | ordered => exact .ordered
    | _ => simp only [kind, String.reduceEq] at h

/-- The same kind of link has the same fields. -/
theorem Alike.declared_eq (h : extra.Alike other) :
  declared extra.values = declared other.values
  := by
  cases h with
  | _ => rfl

theorem Alike.scalars_eq (h : extra.Alike other)
    (hnumbers : List.Forall₂ (fun entry entry' => entry.2.IsNumber → entry'.2.IsNumber →
      entry.2 = entry'.2) extra.values other.values) :
  extra.scalars = other.scalars
  := by
  cases h with
  | none => rfl
  | @netfilter family family' hook hook' priority priority' flags flags' =>
      simp only [values, List.forall₂_cons, Value.IsNumber, true_implies, Value.word32.injEq]
        at hnumbers
      obtain ⟨rfl, rfl, hpriority, rfl, -⟩ := hnumbers
      have hsigned : priority = priority' := congrArg UInt32.toInt32 hpriority
      rw [hsigned]
  | _ =>
      simp only [values, List.forall₂_cons, Value.IsNumber, true_implies, false_implies,
        Value.word32.injEq, Value.word64.injEq] at hnumbers
      simp [scalars, hnumbers]

end LinkExtra

/-- Two requests for the same kind of link whose arguments can be the same bytes in memory say the same,
but for their lists. -/
theorem LinkCreate.eq_of_shows {request other : LinkCreate} {size : Nat} {bytes : List UInt8}
    (hkind : request.extra.kind = other.extra.kind)
    (h : Shows bytes ((linkCreateAttr request).cells size))
    (h' : Shows bytes ((linkCreateAttr other).cells size)) :
  request.program.number = other.program.number ∧ request.target = other.target
    ∧ Code.raw request.attachType = Code.raw other.attachType ∧ request.flags = other.flags
    ∧ request.extra.scalars = other.extra.scalars
  := by
  have halike := LinkExtra.alike_of_kind hkind
  have hdeclared : declared request.values = declared other.values := by
    have hextra := halike.declared_eq
    simp only [declared, values, List.map_append] at hextra ⊢
    rw [hextra]
    rfl
  obtain ⟨n, hcells⟩ := request.exists_cells_eq size
  obtain ⟨n', hcells'⟩ := other.exists_cells_eq size
  rw [hcells] at h
  rw [hcells'] at h'
  have hnumbers := numbers_eq_of_shows hdeclared h h'
  simp only [values, List.cons_append, List.nil_append, List.forall₂_cons, Value.IsNumber,
    true_implies, Value.word32.injEq] at hnumbers
  obtain ⟨hprogram, htarget, hattachType, hflags, hextra⟩ := hnumbers
  exact ⟨hprogram, htarget, hattachType, hflags, halike.scalars_eq hextra⟩

/-! ### The system call -/

/-- The system with a list of the calls that were made. -/
def Linux.System.noted (S : System σ) : System (σ × List Attr) :=
  let part := Part.first σ (List Attr)
  { bpf := fun attr => do
      modify fun s => (s.1, s.2 ++ [attr])
      onPart part (S.bpf attr)
    readLink := fun fd => onPart part (S.readLink fd)
    unlink := fun path => onPart part (S.unlink path)
    btf := fun name => onPart part (S.btf name)
    interfaceIndex := fun name => onPart part (S.interfaceIndex name) }

/-- A call for a descriptor is one call of the system. -/
theorem run_callForDescriptor_noted (S : System σ) (attr : Attr) (s : σ) (calls : List Attr) :
  (callForDescriptor S.noted attr).run.run (s, calls)
    = (((callForDescriptor S attr).run.run s).1,
        (((callForDescriptor S attr).run.run s).2, calls ++ [attr]))
  := by
  rw [callForDescriptor, callForDescriptor, Action.run_ofStep_bind, Action.run_ofStep_bind]
  have hbpf : (S.noted.bpf attr).run (s, calls)
      = (((S.bpf attr).run s).1, (((S.bpf attr).run s).2, calls ++ [attr])) := rfl
  rw [hbpf]
  cases checked attr ((S.bpf attr).run s).1 with
  | ok n => rfl
  | error e => rfl

/-- For a new link there is one call of the system.  Its argument has what the request says in the fields
that all links have and in those of the member that goes with the hook, and nothing else: the lists by
their addresses or as zero, and with many probes the number of them.  Two requests for the same kind of
link that differ in more than their lists never have the same bytes as their argument, wherever the
lists are. -/
theorem link_request_laid_out (S : System σ) (logSize size : Nat) (request : LinkCreate) (s : σ)
    (calls : List Attr) :
  let argument (request : LinkCreate) := (linkCreateAttr request).cells size
  (((Linux.kernel S.noted logSize).createLink request).run.run (s, calls)).2.2
      = calls ++ [.linkCreate (linkCreateAttr request)]
    ∧ Holds (argument request) request.fields request.values
    ∧ ∀ other : LinkCreate, other.extra.kind = request.extra.kind →
      (other.program.number ≠ request.program.number ∨ other.target ≠ request.target
        ∨ Code.raw other.attachType ≠ Code.raw request.attachType ∨ other.flags ≠ request.flags
        ∨ other.extra.scalars ≠ request.extra.scalars) →
      ∀ bytes bytes', Shows bytes (argument request) → Shows bytes' (argument other) →
        bytes ≠ bytes'
  := by
  intro argument
  refine ⟨?_, request.holds size, ?_⟩
  · exact congrArg (fun answer => answer.2.2) (run_callForDescriptor_noted S _ s calls)
  · rintro other hkind hdiffer bytes bytes' h h' rfl
    obtain ⟨hprogram, htarget, hattachType, hflags, hscalars⟩ :=
      LinkCreate.eq_of_shows hkind h' h
    obtain hne | hne | hne | hne | hne := hdiffer
    · exact hne hprogram
    · exact hne htarget
    · exact hne hattachType
    · exact hne hflags
    · exact hne hscalars

/-- A system that has a descriptor for whoever asks. -/
def generousSystem : System Unit where
  bpf _ := pure { result := .ok 7 }
  readLink _ := pure (.error (.os Errno.enoent))
  unlink _ := pure (.ok ())
  btf _ := pure .absent
  interfaceIndex _ := pure 0

/-- To probe the same functions on return makes a difference, wherever their names are. -/
theorem link_request_laid_out_on_return :
  let request (flags : UInt32) : LinkCreate :=
    ⟨{ number := 5 }, 0, .traceKprobeMulti, 0,
      .kprobeMulti flags [⟨"vfs_read", by decide⟩, ⟨"vprintk", by decide⟩] [] []⟩
  let argument (flags : UInt32) := (linkCreateAttr (request flags)).cells 144
  (((Linux.kernel generousSystem.noted 0).createLink (request 1)).run.run ((), [])).2.2
      = [.linkCreate (linkCreateAttr (request 1))]
    ∧ (argument 1).map (Cell.read fun _ => 0x1000) ≠ (argument 0).map (Cell.read fun _ => 0x2000)
  := by
  intro request argument
  obtain ⟨hcalls, -, hapart⟩ := link_request_laid_out generousSystem 0 144 (request 1) () []
  refine ⟨hcalls, hapart (request 0) rfl ?_ _ _ (shows_read _ _) (shows_read _ _)⟩
  right; right; right; right
  decide

end Bpf
