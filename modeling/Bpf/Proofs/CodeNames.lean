import Bpf.AttachType
import Bpf.LinkType
import Bpf.ProgramType
import Bpf.Proofs.HelperTags
import Mathlib.Data.List.Forall2
import Mathlib.Data.List.Nodup

/-!
# Names and numbers of codes

The values of an enumeration of the kernel are told from their numbers, from their texts and, if they
have a name, from any spelling of it in small and capital letters.  Their order is that of their
listing, which is the order of their numbers.  What this needs of an enumeration is that no two of its
names are spelled alike and that no name has the bracket in which a number is put; these are checked
for each of the three enumerations, and the rest follows for all of them.
-/

namespace Bpf

/-! ### Letters -/

namespace Text

/-- The first character is a capital letter of ASCII and the second one is its small letter. -/
def IsCapitalOf (c d : Char) : Prop := 'A' ≤ c ∧ c ≤ 'Z' ∧ d.toNat = c.toNat + 32

/-- Two texts are spelled alike, except that letters of ASCII may be small in one and capital in the
other. -/
def SameLetters (s t : String) : Prop :=
  List.Forall₂ (fun c d => c = d ∨ IsCapitalOf c d ∨ IsCapitalOf d c) s.toList t.toList

theorem SameLetters.refl (s : String) :
  SameLetters s s
  := List.forall₂_same.2 fun _ _ => Or.inl rfl

theorem isCapitalOf_toLower {c : Char} (h : 'A' ≤ c ∧ c ≤ 'Z') :
  IsCapitalOf c c.toLower
  := by
  refine ⟨h.1, h.2, ?_⟩
  have hlow : 65 ≤ c.toNat := UInt32.le_iff_toNat_le.1 h.1
  have hhigh : c.toNat ≤ 90 := UInt32.le_iff_toNat_le.1 h.2
  have hlower : c.toLower.val = c.val + 32 := congrArg Char.val (dif_pos h)
  rw [Char.toNat, hlower, UInt32.toNat_add]
  change (c.toNat + 32) % 2 ^ 32 = c.toNat + 32
  omega

theorem toLower_of_not_capital {c : Char} (h : ¬ ('A' ≤ c ∧ c ≤ 'Z')) :
  c.toLower = c
  := dif_neg h

theorem IsCapitalOf.toLower_eq {c d : Char} (h : IsCapitalOf c d) :
  c.toLower = d ∧ d.toLower = d
  := by
  obtain ⟨hlow, hhigh, hnat⟩ := h
  obtain ⟨-, -, hlower⟩ := isCapitalOf_toLower ⟨hlow, hhigh⟩
  constructor
  · apply Char.toNat_inj.1
    rw [hlower, hnat]
  · apply toLower_of_not_capital
    rintro ⟨-, hle⟩
    have hlow : 65 ≤ c.toNat := UInt32.le_iff_toNat_le.1 hlow
    have hle : d.toNat ≤ 90 := UInt32.le_iff_toNat_le.1 hle
    omega

/-- Two characters have one small letter if they are the same up to case. -/
theorem toLower_eq_toLower_iff {c d : Char} :
  c.toLower = d.toLower ↔ c = d ∨ IsCapitalOf c d ∨ IsCapitalOf d c
  := by
  constructor
  · intro h
    by_cases hc : 'A' ≤ c ∧ c ≤ 'Z' <;> by_cases hd : 'A' ≤ d ∧ d ≤ 'Z'
    · have hcl := (isCapitalOf_toLower hc).2.2
      have hdl := (isCapitalOf_toLower hd).2.2
      rw [h] at hcl
      exact Or.inl (Char.toNat_inj.1 (by omega))
    · have hcl := isCapitalOf_toLower hc
      rw [h, toLower_of_not_capital hd] at hcl
      exact Or.inr (Or.inl hcl)
    · have hdl := isCapitalOf_toLower hd
      rw [← h, toLower_of_not_capital hc] at hdl
      exact Or.inr (Or.inr hdl)
    · rw [toLower_of_not_capital hc, toLower_of_not_capital hd] at h
      exact Or.inl h
  · rintro (rfl | h | h)
    · rfl
    · rw [h.toLower_eq.1, h.toLower_eq.2]
    · rw [h.toLower_eq.1, h.toLower_eq.2]

end Text

namespace Code

open Text (SameLetters)

theorem smallLetters_eq_smallLetters_iff (s t : String) :
  smallLetters s = smallLetters t ↔ SameLetters s t
  := by
  rw [SameLetters, ← List.forall₂_eq_eq_eq, smallLetters, smallLetters, List.forall₂_map_left_iff,
    List.forall₂_map_right_iff]
  simp only [Text.toLower_eq_toLower_iff]

variable {α : Type} [Code α]

/-! ### Positions and numbers -/

theorem toNat_raw {i : Nat} {a : α} (h : (named : List α)[i]? = some a) :
  (raw a).toNat = i
  := by
  obtain ⟨hi, rfl⟩ := List.getElem?_eq_some_iff.1 h
  exact raw_named i hi

theorem unnamed?_unnamed (r : UInt32) :
  unnamed? (unnamed r : α) = some r
  := (unnamed?_eq _ r).2 rfl

theorem mem_named_of_unnamed? {a : α} (h : unnamed? a = none) :
  a ∈ (named : List α)
  := by
  rcases named_or_unnamed a with hmem | ⟨r, rfl⟩
  · exact hmem
  · cases (unnamed?_unnamed r).symm.trans h

/-- The value of a number is listed at that position, or the number is beyond the list and has no
other name. -/
theorem ofRaw_cases (x : UInt32) :
  (named : List α)[x.toNat]? = some (ofRaw x)
    ∨ (named : List α).length ≤ x.toNat ∧ ofRaw x = (unnamed x : α)
  := by
  unfold ofRaw
  split
  next h => exact Or.inl h
  next h => exact Or.inr ⟨List.getElem?_eq_none_iff.1 h, rfl⟩

theorem ofRaw_injective {x y : UInt32} (h : (ofRaw x : α) = ofRaw y) :
  x = y
  := by
  rw [← raw_ofRaw (α := α) x, h, raw_ofRaw]

/-- One value comes before another one: both are listed and the first one comes first, or only the first
one is listed, or neither of them is and the number of the first one is smaller. -/
inductive Before (a b : α) : Prop
  | listed {i j : Nat} (ha : (named : List α)[i]? = some a) (hb : (named : List α)[j]? = some b)
      (h : i < j) : Before a b
  | unlisted {s : UInt32} (ha : a ∈ (named : List α)) (hb : unnamed? b = some s) : Before a b
  | numbered {r s : UInt32} (ha : unnamed? a = some r) (hb : unnamed? b = some s) (h : r < s) :
    Before a b

/-! ### Numbers between brackets -/

theorem text_unnamed (r : UInt32) :
  text (unnamed r : α) = s!"unknown({r})"
  := by
  rw [text, unnamed?_unnamed]

theorem unknown_injective {r t : UInt32} (h : s!"unknown({r})" = s!"unknown({t})") :
  r = t
  := by
  have hdigits : toString r.toNat = toString t.toNat :=
    String.append_right_inj _ |>.1 (String.append_left_inj _ |>.1 h)
  rw [Nat.toString_eq_ofList_toDigits, Nat.toString_eq_ofList_toDigits] at hdigits
  exact UInt32.toNat_inj.1 (Text.toDigits_injective (String.ofList_injective hdigits))

theorem bracket_mem_smallLetters (t : String) :
  '(' ∈ smallLetters s!"unknown({t})"
  := by
  apply List.mem_map.2
  refine ⟨'(', ?_, by decide⟩
  rw [String.toList_append, String.toList_append]
  apply List.mem_append_left
  apply List.mem_append_left
  decide

/-! ### Reading a text -/

/-- A text is read as a value whose name it spells, and refused if there is none. -/
theorem parse_cases (s : String) :
  (∃ a : α, a ∈ named ∧ SameLetters (name a) s ∧ parse s = .ok a)
    ∨ (∀ a : α, a ∈ named → ¬ SameLetters (name a) s)
      ∧ (parse s : Except Error α) = .error (.invalidInput s!"unknown {title α}: {Text.quote s}")
  := by
  simp only [← smallLetters_eq_smallLetters_iff]
  unfold parse
  split
  next a hfound =>
    have hname : smallLetters (name a) = smallLetters s := by simpa using List.find?_some hfound
    exact Or.inl ⟨a, List.mem_of_find?_eq_some hfound, hname, rfl⟩
  next hnone =>
    refine Or.inr ⟨?_, rfl⟩
    intro a ha hname
    exact List.find?_eq_none.1 hnone a ha (beq_iff_eq.2 hname)

/-- The message about a text that is refused repeats it. -/
theorem parse_eq_error {s : String} (h : ∀ a : α, a ∈ named → ¬ SameLetters (name a) s) :
  (parse s : Except Error α) = .error (.invalidInput s!"unknown {title α}: {Text.quote s}")
  := by
  rcases parse_cases (α := α) s with ⟨a, ha, hname, -⟩ | ⟨-, herror⟩
  · exact absurd hname (h a ha)
  · exact herror

/-! ### Enumerations with distinct names -/

/-- No two names are spelled alike, none of them has a bracket, and no listed value stands for a bare
number. -/
structure Distinct (α : Type) [Code α] : Prop where
  unnamed?_named : ∀ a ∈ (named : List α), unnamed? a = none
  nodup : ((named : List α).map fun a => smallLetters (name a)).Nodup
  plain : ∀ a ∈ (named : List α), '(' ∉ smallLetters (name a)

namespace Distinct

-- The letters of the names are looked at together, so that they are spelled out once.
theorem of_letters (hunnamed : ∀ a ∈ (named : List α), unnamed? a = none)
    (hletters : ((named : List α).map fun a => smallLetters (name a)).Nodup
      ∧ ∀ a ∈ (named : List α), '(' ∉ smallLetters (name a)) :
  Distinct α
  := ⟨hunnamed, hletters.1, hletters.2⟩

variable (hα : Distinct α) {a b v : α} {s : String}

include hα

/-! ### Order -/

/-- The values are compared by their order. -/
theorem compare_eq_lt_iff :
  Code.compare a b = .lt ↔ Before a b
  := by
  constructor
  · intro h
    unfold Code.compare at h
    split at h
    next ha hb => exact .numbered ha hb (Std.compare_eq_lt.1 h)
    next => cases h
    next ha hb => exact .unlisted (mem_named_of_unnamed? ha) hb
    next ha hb =>
      obtain ⟨i, ha⟩ := List.mem_iff_getElem?.1 (mem_named_of_unnamed? ha)
      obtain ⟨j, hb⟩ := List.mem_iff_getElem?.1 (mem_named_of_unnamed? hb)
      apply Before.listed ha hb
      rw [← toNat_raw ha, ← toNat_raw hb]
      exact UInt32.lt_iff_toNat_lt.1 (Std.compare_eq_lt.1 h)
  · intro h
    cases h with
    | listed ha hb h =>
        rw [Code.compare, hα.unnamed?_named a (List.mem_of_getElem? ha),
          hα.unnamed?_named b (List.mem_of_getElem? hb)]
        apply Std.compare_eq_lt.2
        rwa [UInt32.lt_iff_toNat_lt, toNat_raw ha, toNat_raw hb]
    | unlisted ha hb =>
        rw [Code.compare, hα.unnamed?_named a ha, hb]
    | numbered ha hb h =>
        rw [Code.compare, ha, hb]
        exact Std.compare_eq_lt.2 h

/-- The values of two numbers are in the order of these. -/
theorem compare_ofRaw (x y : UInt32) :
  Code.compare (ofRaw x : α) (ofRaw y) = Ord.compare x y
  := by
  rcases ofRaw_cases (α := α) x with hx | ⟨hx, hxu⟩ <;>
    rcases ofRaw_cases (α := α) y with hy | ⟨hy, hyu⟩
  · rw [Code.compare, hα.unnamed?_named _ (List.mem_of_getElem? hx),
      hα.unnamed?_named _ (List.mem_of_getElem? hy), raw_ofRaw, raw_ofRaw]
  · obtain ⟨hlt, -⟩ := List.getElem?_eq_some_iff.1 hx
    rw [Code.compare, hα.unnamed?_named _ (List.mem_of_getElem? hx), hyu, unnamed?_unnamed]
    symm
    apply Std.compare_eq_lt.2
    exact UInt32.lt_iff_toNat_lt.2 (hlt.trans_le hy)
  · obtain ⟨hlt, -⟩ := List.getElem?_eq_some_iff.1 hy
    rw [Code.compare, hα.unnamed?_named _ (List.mem_of_getElem? hy), hxu, unnamed?_unnamed]
    symm
    apply Std.compare_eq_gt.2
    exact UInt32.lt_iff_toNat_lt.2 (hlt.trans_le hx)
  · rw [Code.compare, hxu, hyu, unnamed?_unnamed, unnamed?_unnamed]

/-! ### Texts -/

/-- A text spells at most one name. -/
theorem eq_of_sameLetters (ha : a ∈ (named : List α)) (hb : b ∈ (named : List α))
    (hspellsA : SameLetters (name a) s) (hspellsB : SameLetters (name b) s) :
  a = b
  := by
  rw [← smallLetters_eq_smallLetters_iff] at hspellsA hspellsB
  exact List.inj_on_of_nodup_map hα.nodup ha hb (hspellsA.trans hspellsB.symm)

theorem text_of_mem (h : a ∈ (named : List α)) :
  text a = name a
  := by
  rw [text, hα.unnamed?_named a h]

/-- No name is spelled like a number between brackets, nor like any other text there. -/
theorem not_sameLetters_unknown (h : a ∈ (named : List α)) (t : String) :
  ¬ SameLetters (name a) s!"unknown({t})"
  := by
  rw [← smallLetters_eq_smallLetters_iff]
  intro heq
  apply hα.plain a h
  rw [heq]
  apply bracket_mem_smallLetters

theorem text_ne_text_unnamed (h : a ∈ (named : List α)) (r : UInt32) :
  text a ≠ text (unnamed r : α)
  := by
  rw [hα.text_of_mem h, text_unnamed]
  intro heq
  apply hα.not_sameLetters_unknown h (toString r)
  rw [← smallLetters_eq_smallLetters_iff, heq]
  rfl

/-- Values with one text are the same. -/
theorem text_injective (h : text a = text b) :
  a = b
  := by
  rcases named_or_unnamed a with ha | ⟨r, rfl⟩ <;> rcases named_or_unnamed b with hb | ⟨t, rfl⟩
  · rw [hα.text_of_mem ha, hα.text_of_mem hb] at h
    exact hα.eq_of_sameLetters ha hb (h ▸ SameLetters.refl _) (SameLetters.refl _)
  · exact absurd h (hα.text_ne_text_unnamed ha t)
  · exact absurd h.symm (hα.text_ne_text_unnamed hb r)
  · rw [text_unnamed, text_unnamed] at h
    rw [unknown_injective h]

/-! ### Names -/

/-- A text names the value whose name it is, whatever the case of its letters. -/
theorem parse_eq_ok_iff :
  parse s = .ok v ↔ v ∈ (named : List α) ∧ SameLetters (name v) s
  := by
  constructor
  · intro h
    rcases parse_cases (α := α) s with ⟨a, ha, hname, hparse⟩ | ⟨-, herror⟩
    · cases h.symm.trans hparse
      exact ⟨ha, hname⟩
    · cases h.symm.trans herror
  · rintro ⟨hv, hname⟩
    rcases parse_cases (α := α) s with ⟨a, ha, hfound, hparse⟩ | ⟨hnone, -⟩
    · rw [hparse, hα.eq_of_sameLetters ha hv hfound hname]
    · exact absurd hname (hnone v hv)

/-- The text of a value is read as that value if it has a name, and else it is refused. -/
theorem parse_text_eq_ok_iff :
  parse (text a) = .ok v ↔ a ∈ (named : List α) ∧ v = a
  := by
  rw [hα.parse_eq_ok_iff]
  constructor
  · rintro ⟨hv, hspelled⟩
    rcases named_or_unnamed a with ha | ⟨r, rfl⟩
    · rw [hα.text_of_mem ha] at hspelled
      exact ⟨ha, hα.eq_of_sameLetters hv ha hspelled (SameLetters.refl _)⟩
    · rw [text_unnamed] at hspelled
      exact absurd hspelled (hα.not_sameLetters_unknown hv (toString r))
  · rintro ⟨ha, rfl⟩
    use ha
    rw [hα.text_of_mem ha]
    apply SameLetters.refl

end Distinct

/-! ### Codes in place of numbers and texts -/

/-- The values of an enumeration are as good as their numbers and their texts. -/
structure Faithful (α : Type) [Code α] : Prop where
  /-- No number is lost. -/
  raw_ofRaw : ∀ x, raw (ofRaw x : α) = x
  /-- The comparison of values is their order as listed, -/
  compare_eq_lt_iff : ∀ a b : α, Code.compare a b = .lt ↔ Before a b
  /-- which is that of their numbers. -/
  compare_ofRaw : ∀ x y, Code.compare (ofRaw x : α) (ofRaw y) = Ord.compare x y
  /-- Different numbers have different texts. -/
  text_ofRaw_inj : ∀ x y, text (ofRaw x : α) = text (ofRaw y : α) ↔ x = y
  /-- Exactly the names are read, in any case. -/
  parse_eq_ok_iff : ∀ (s : String) (v : α),
    parse s = .ok v ↔ v ∈ (named : List α) ∧ SameLetters (name v) s
  /-- What is not read is refused with a message that repeats it. -/
  parse_eq_error : ∀ s : String, (∀ v ∈ (named : List α), ¬ SameLetters (name v) s) →
    (parse s : Except Error α) = .error (.invalidInput s!"unknown {title α}: {Text.quote s}")
  /-- From its text a value with a name is read back, and no other one. -/
  parse_text_ofRaw : ∀ (x : UInt32) (v : α),
    parse (text (ofRaw x : α)) = .ok v ↔ ofRaw x ∈ (named : List α) ∧ v = ofRaw x
  /-- Nothing between the brackets of a bare number is read. -/
  parse_unknown : ∀ t : String,
    let s := s!"unknown({t})"
    (parse s : Except Error α) = .error (.invalidInput s!"unknown {title α}: {Text.quote s}")

theorem Distinct.faithful (hα : Distinct α) :
  Faithful α where
  raw_ofRaw := raw_ofRaw
  compare_eq_lt_iff _ _ := hα.compare_eq_lt_iff
  compare_ofRaw := hα.compare_ofRaw
  text_ofRaw_inj _ _ := ⟨fun h => ofRaw_injective (hα.text_injective h), fun h => h ▸ rfl⟩
  parse_eq_ok_iff _ _ := hα.parse_eq_ok_iff
  parse_eq_error _ := parse_eq_error
  parse_text_ofRaw _ _ := hα.parse_text_eq_ok_iff
  parse_unknown t := parse_eq_error fun _ hv => hα.not_sameLetters_unknown hv t

end Code

open Code (Distinct Faithful)

theorem ProgramType.distinct :
  Distinct ProgramType
  := .of_letters (by decide) (by decide +kernel)

theorem AttachType.distinct :
  Distinct AttachType
  := .of_letters (by decide) (by decide +kernel)

theorem LinkType.distinct :
  Distinct LinkType
  := .of_letters (by decide) (by decide +kernel)

/-- The types of programs, of attachments and of links are told from their numbers, from their texts
and from their names, and ordered by their numbers. -/
theorem types_faithful :
  Faithful ProgramType ∧ Faithful AttachType ∧ Faithful LinkType
  := ⟨ProgramType.distinct.faithful, AttachType.distinct.faithful, LinkType.distinct.faithful⟩

end Bpf
