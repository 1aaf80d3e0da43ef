import Bpf.Helper
import Bpf.Proofs.ReleaseTexts

/-!
# Texts for helpers

A helper is called by its number, with or without a plus sign before it, or by its name, with or
without the beginning that all names share.  `Helper.Denotes` says so, and nothing else is read.  No
name is a number, and no name begins with the common beginning a second time, so that it does not
matter in which order a text is tried as a number and as a name, and no text denotes two helpers.  A
helper is therefore read back from its number, and from the text it is shown by if it has a name.
-/

namespace Bpf

/-! ### Numbers with a sign -/

namespace Text

/-- A run of ASCII digits with the given value, with or without a plus sign before it. -/
def SpellsNumber (text : List Char) (n : Nat) : Prop :=
  ∃ digits, (text = digits ∨ text = '+' :: digits) ∧ digits ≠ []
    ∧ (∀ c ∈ digits, c.isDigit = true) ∧ digitsValue 0 digits = n

theorem unsigned?_of_digits {digits : List Char} (h : ∀ c ∈ digits, c.isDigit = true)
    (bound : Nat) :
  unsigned? bound digits = decimal? bound digits
  := by
  unfold unsigned?
  split
  next rest => exact absurd (h '+' List.mem_cons_self) (by decide)
  next => rfl

/-- Exactly the numbers below the bound are read. -/
theorem unsigned?_eq_some_iff {bound n : Nat} {text : List Char} :
  unsigned? bound text = some n ↔ SpellsNumber text n ∧ n < bound
  := by
  constructor
  · intro h
    unfold unsigned? at h
    split at h
    next digits =>
      obtain ⟨hne, hdigits, hvalue, hlt⟩ := decimal?_eq_some_iff.1 h
      exact ⟨⟨digits, Or.inr rfl, hne, hdigits, hvalue⟩, hlt⟩
    next =>
      obtain ⟨hne, hdigits, hvalue, hlt⟩ := decimal?_eq_some_iff.1 h
      exact ⟨⟨text, Or.inl rfl, hne, hdigits, hvalue⟩, hlt⟩
  · rintro ⟨⟨digits, rfl | rfl, hne, hdigits, hvalue⟩, hlt⟩
    · rw [unsigned?_of_digits hdigits]
      exact decimal?_eq_some_iff.2 ⟨hne, hdigits, hvalue, hlt⟩
    · exact decimal?_eq_some_iff.2 ⟨hne, hdigits, hvalue, hlt⟩

theorem spellsNumber_toDigits (n : Nat) :
  SpellsNumber (Nat.toDigits 10 n) n
  := by
  refine ⟨Nat.toDigits 10 n, Or.inl rfl, Nat.toDigits_ne_nil, ?_, digitsValue_toDigits n⟩
  intro c hc
  exact Nat.isDigit_of_mem_toDigits (by decide) (by decide) hc

end Text

open Text (SpellsNumber spellsNumber_toDigits unsigned?_eq_some_iff)

/-- What at most one element of a list has is found by a search. -/
theorem find?_eq_some_iff_of_unique {α : Type} {l : List α} {p : α → Bool}
    (h : ∀ a ∈ l, ∀ b ∈ l, p a = true → p b = true → a = b) {a : α} :
  l.find? p = some a ↔ a ∈ l ∧ p a = true
  := by
  constructor
  · intro hfound
    exact ⟨List.mem_of_find?_eq_some hfound, List.find?_some hfound⟩
  · rintro ⟨ha, hp⟩
    have hfinds : (l.find? p).isSome := List.find?_isSome.2 ⟨a, ha, hp⟩
    obtain ⟨b, hfound⟩ := Option.isSome_iff_exists.1 hfinds
    rw [hfound, h b (List.mem_of_find?_eq_some hfound) a ha (List.find?_some hfound) hp]

namespace Helper

/-! ### The table of names -/

theorem eq_of_names_id {id : UInt32} {name name' : String} (h : (id, name) ∈ names)
    (h' : (id, name') ∈ names) :
  name = name'
  := by
  have hunique : ∀ e ∈ names, ∀ e' ∈ names, e.1 = e'.1 → e.2 = e'.2 := by decide +kernel
  exact hunique _ h _ h' rfl

theorem eq_of_names_name {id id' : UInt32} {name : String} (h : (id, name) ∈ names)
    (h' : (id', name) ∈ names) :
  id = id'
  := by
  have hunique : ∀ e ∈ names, ∀ e' ∈ names, e.2 = e'.2 → e.1 = e'.1 := by decide +kernel
  exact hunique _ h _ h' rfl

theorem not_namePrefix_prefix {id : UInt32} {name : String} (h : (id, name) ∈ names) :
  ¬ namePrefix <+: name.toList
  := by
  have hnames : ∀ e ∈ names, ¬ namePrefix <+: e.2.toList := by decide +kernel
  exact hnames _ h

/-- No name begins as a number does. -/
theorem unsigned?_name {id : UInt32} {name : String} (h : (id, name) ∈ names) :
  Text.unsigned? UInt32.size name.toList = none
    ∧ Text.unsigned? UInt32.size (namePrefix ++ name.toList) = none
  := by
  have hnames : ∀ e ∈ names, Text.unsigned? UInt32.size e.2.toList = none
      ∧ Text.unsigned? UInt32.size (namePrefix ++ e.2.toList) = none := by decide +kernel
  exact hnames _ h

theorem ofList_namePrefix_append (bare : String) :
  String.ofList (namePrefix ++ bare.toList) = "bpf_" ++ bare
  := by
  rw [namePrefix, String.ofList_append, String.ofList_toList, String.ofList_toList]

/-- A helper has the name that is listed under its number. -/
theorem name?_eq_some_iff {h : Helper} {name : String} :
  h.name? = some name ↔ ∃ bare, (h.id, bare) ∈ names ∧ name = "bpf_" ++ bare
  := by
  have hunique : ∀ e ∈ names, ∀ e' ∈ names, (e.1 == h.id) = true → (e'.1 == h.id) = true → e = e' := by
    rintro ⟨id, name⟩ he ⟨id', name'⟩ he' hid hid'
    obtain rfl : id = h.id := beq_iff_eq.1 hid
    obtain rfl : id' = h.id := beq_iff_eq.1 hid'
    rw [eq_of_names_id he he']
  simp only [name?, Option.map_eq_some_iff, find?_eq_some_iff_of_unique hunique,
    ofList_namePrefix_append, beq_iff_eq]
  constructor
  · rintro ⟨⟨id, bare⟩, ⟨hmem, rfl⟩, rfl⟩
    exact ⟨bare, hmem, rfl⟩
  · rintro ⟨bare, hmem, rfl⟩
    exact ⟨(h.id, bare), ⟨hmem, rfl⟩, rfl⟩

/-- The common beginning is dropped once. -/
theorem bareName_eq_iff {id : UInt32} {bare : String} (h : (id, bare) ∈ names) {s : List Char} :
  bareName s = bare.toList ↔ s = bare.toList ∨ s = namePrefix ++ bare.toList
  := by
  unfold bareName
  constructor
  · split
    next hprefix =>
      obtain ⟨rest, rfl⟩ := List.isPrefixOf_iff_prefix.1 hprefix
      rw [List.drop_left]
      rintro rfl
      exact Or.inr rfl
    next => exact Or.inl
  · rintro (rfl | rfl)
    · rw [if_neg]
      rw [List.isPrefixOf_iff_prefix]
      exact not_namePrefix_prefix h
    · rw [if_pos (List.isPrefixOf_iff_prefix.2 (List.prefix_append _ _)), List.drop_left]

/-- A helper is found by its name, with or without the common beginning. -/
theorem ofName?_eq_some_iff {h : Helper} {s : List Char} :
  ofName? s = some h
    ↔ ∃ bare, (h.id, bare) ∈ names ∧ (s = bare.toList ∨ s = namePrefix ++ bare.toList)
  := by
  have hunique : ∀ e ∈ names, ∀ e' ∈ names, (e.2.toList == bareName s) = true →
      (e'.2.toList == bareName s) = true → e = e' := by
    rintro ⟨id, name⟩ he ⟨id', name'⟩ he' hname hname'
    have hsame : name.toList = name'.toList :=
      (beq_iff_eq.1 hname).trans (beq_iff_eq.1 hname').symm
    obtain rfl := String.toList_injective hsame
    rw [eq_of_names_name he he']
  simp only [ofName?, Option.map_eq_some_iff, find?_eq_some_iff_of_unique hunique, beq_iff_eq]
  constructor
  · rintro ⟨⟨id, bare⟩, ⟨hmem, hbare⟩, rfl⟩
    exact ⟨bare, hmem, (bareName_eq_iff hmem).1 hbare.symm⟩
  · rintro ⟨bare, hmem, hs⟩
    exact ⟨(h.id, bare), ⟨hmem, ((bareName_eq_iff hmem).2 hs).symm⟩, rfl⟩

/-! ### What a text denotes -/

/-- A text for a helper is its number, or its name with or without the common beginning. -/
inductive Denotes : String → Helper → Prop
  | number {s : String} {h : Helper} (hnumber : SpellsNumber s.toList h.id.toNat) : Denotes s h
  | name {s : String} {h : Helper} (hname : h.name? = some s) : Denotes s h
  | bareName {s : String} {h : Helper} (hname : h.name? = some ("bpf_" ++ s)) : Denotes s h

/-- What a text denotes is its value as a number or what is listed under it as a name. -/
theorem denotes_iff {s : String} {h : Helper} :
  Denotes s h ↔ SpellsNumber s.toList h.id.toNat ∨ ofName? s.toList = some h
  := by
  simp only [ofName?_eq_some_iff]
  constructor
  · intro hdenotes
    cases hdenotes with
    | number hnumber => exact Or.inl hnumber
    | name hname =>
        obtain ⟨bare, hmem, rfl⟩ := name?_eq_some_iff.1 hname
        exact Or.inr ⟨bare, hmem, Or.inr (String.toList_append ..)⟩
    | bareName hname =>
        obtain ⟨bare, hmem, hbare⟩ := name?_eq_some_iff.1 hname
        obtain rfl : s = bare := (String.append_right_inj _).1 hbare
        exact Or.inr ⟨s, hmem, Or.inl rfl⟩
  · rintro (hnumber | ⟨bare, hmem, hs | hs⟩)
    · exact .number hnumber
    · obtain rfl := String.toList_injective hs
      exact .bareName (name?_eq_some_iff.2 ⟨s, hmem, rfl⟩)
    · have hname : s = "bpf_" ++ bare := by
        rw [← ofList_namePrefix_append, ← hs, String.ofList_toList]
      exact .name (name?_eq_some_iff.2 ⟨bare, hmem, hname⟩)

theorem not_spellsNumber_of_name {s : List Char} {h : Helper} (hname : ofName? s = some h)
    {n : Nat} (hn : n < UInt32.size) :
  ¬ SpellsNumber s n
  := by
  intro hspells
  have hnumber := unsigned?_eq_some_iff.2 ⟨hspells, hn⟩
  obtain ⟨bare, hmem, rfl | rfl⟩ := ofName?_eq_some_iff.1 hname
  · rw [(unsigned?_name hmem).1] at hnumber
    cases hnumber
  · rw [(unsigned?_name hmem).2] at hnumber
    cases hnumber

/-! ### Reading -/

/-- Exactly what a text denotes is read. -/
theorem parse_eq_ok_iff {s : String} {h : Helper} :
  parse s = .ok h ↔ Denotes s h
  := by
  rw [denotes_iff]
  unfold parse
  split
  next n hn =>
    obtain ⟨hspells, hlt⟩ := unsigned?_eq_some_iff.1 hn
    have hvalue : (UInt32.ofNat n).toNat = n := Nat.mod_eq_of_lt hlt
    constructor
    · rintro ⟨⟩
      exact Or.inl (hvalue.symm ▸ hspells)
    · rintro (hspells' | hname)
      · rw [unsigned?_eq_some_iff.2 ⟨hspells', h.id.toNat_lt⟩] at hn
        cases hn
        rw [UInt32.ofNat_toNat]
      · exact absurd hspells (not_spellsNumber_of_name hname hlt)
  next hnone =>
    have hnumber : ¬ SpellsNumber s.toList h.id.toNat := by
      intro hspells
      cases hnone.symm.trans (unsigned?_eq_some_iff.2 ⟨hspells, h.id.toNat_lt⟩)
    rw [or_iff_right hnumber]
    cases ofName? s.toList with
    | some h' => simp
    | none => simp

theorem parse_eq_error {s : String} (h : ∀ helper, ¬ Denotes s helper) :
  parse s = .error (.invalidInput s!"unknown helper: {Text.quote s}")
  := by
  cases hparse : parse s with
  | ok helper => exact absurd (parse_eq_ok_iff.1 hparse) (h helper)
  | error e =>
      unfold parse at hparse
      split at hparse
      · cases hparse
      · split at hparse
        · cases hparse
        · exact hparse.symm

/-- No text denotes two helpers. -/
theorem Denotes.unique {s : String} {h h' : Helper} (hs : Denotes s h) (hs' : Denotes s h') :
  h = h'
  := by
  rw [← parse_eq_ok_iff] at hs hs'
  cases hs.symm.trans hs'
  rfl

theorem denotes_toString (n : UInt32) :
  Denotes (toString n) ⟨n⟩
  := by
  apply Denotes.number
  show SpellsNumber (toString n.toNat).toList n.toNat
  rw [Nat.toString_eq_ofList_toDigits, String.toList_ofList]
  apply spellsNumber_toDigits

/-- The text of a helper without a name denotes nothing, since neither a number nor a name has a hash
sign in it. -/
theorem denotes_text_iff {h h' : Helper} :
  Denotes h.text h' ↔ h.name? ≠ none ∧ h' = h
  := by
  cases hname : h.name? with
  | some name =>
      have hdenotes : Denotes h.text h := by
        rw [text, hname]
        exact .name hname
      constructor
      · intro hdenotes'
        exact ⟨Option.some_ne_none name, hdenotes'.unique hdenotes⟩
      · rintro ⟨-, rfl⟩
        exact hdenotes
  | none =>
      have hmark : '#' ∈ h.text.toList := by
        have hword : '#' ∈ "helper#".toList := by decide
        rw [text, hname]
        show '#' ∈ ("helper#" ++ toString h.id).toList
        rw [String.toList_append]
        exact List.mem_append_left _ hword
      have hnames : ∀ e ∈ names, '#' ∉ e.2.toList ∧ '#' ∉ namePrefix ++ e.2.toList := by
        decide +kernel
      rw [denotes_iff, ofName?_eq_some_iff]
      constructor
      · rintro (⟨digits, hdigits | hdigits, -, hall, -⟩ | ⟨bare, hmem, hs | hs⟩)
        · rw [hdigits] at hmark
          exact absurd (hall '#' hmark) (by decide)
        · rw [hdigits, List.mem_cons, or_iff_right (by decide)] at hmark
          exact absurd (hall '#' hmark) (by decide)
        · rw [hs] at hmark
          exact absurd hmark (hnames _ hmem).1
        · rw [hs] at hmark
          exact absurd hmark (hnames _ hmem).2
      · rintro ⟨hnone, -⟩
        exact absurd rfl hnone

/-- A text is read as the helper that it denotes, by its number or by its name, and any other one is
refused with a message that repeats it.  So every helper is read back from its number, and from its text
exactly if it has a name; and no text denotes two helpers. -/
theorem helper_texts_read_back :
  (∀ (s : String) (h : Helper), parse s = .ok h ↔ Denotes s h)
  ∧ (∀ s : String, (∀ h, ¬ Denotes s h) →
      parse s = .error (.invalidInput s!"unknown helper: {Text.quote s}"))
  ∧ (∀ n : UInt32, parse (toString n) = .ok ⟨n⟩)
  ∧ (∀ h h' : Helper, parse h.text = .ok h' ↔ h.name? ≠ none ∧ h' = h)
  ∧ ∀ (s : String) (h h' : Helper), Denotes s h → Denotes s h' → h = h'
  := by
  refine ⟨?_, ?_, ?_, ?_, ?_⟩
  · intro s h
    exact parse_eq_ok_iff
  · intro s h
    exact parse_eq_error h
  · intro n
    exact parse_eq_ok_iff.2 (denotes_toString n)
  · intro h h'
    rw [parse_eq_ok_iff, denotes_text_iff]
  · intro s h h' hs hs'
    exact hs.unique hs'

/-- A number with a sign and zeros before it, the two spellings of a name, and a name whose beginning is
doubled. -/
theorem helper_texts_read_back_loop :
  parse "+00181" = .ok ⟨181⟩ ∧ parse "loop" = .ok ⟨181⟩ ∧ parse "bpf_loop" = .ok ⟨181⟩
    ∧ parse "bpf_bpf_loop"
      = .error (.invalidInput "unknown helper: \"bpf_bpf_loop\"")
  := by
  obtain ⟨hread, hrefused, -, -, -⟩ := helper_texts_read_back
  refine ⟨?_, ?_, ?_, ?_⟩
  · apply (hread _ _).2
    apply Denotes.number
    exact ⟨"00181".toList, Or.inr rfl, by decide, List.all_eq_true.1 rfl, rfl⟩
  · apply (hread _ _).2
    exact .bareName (by decide)
  · apply (hread _ _).2
    exact .name (by decide)
  · refine (hrefused "bpf_bpf_loop" ?_).trans (by decide +kernel)
    intro h hdenotes
    rcases denotes_iff.1 hdenotes with hnumber | hname
    · have hnone : Text.unsigned? UInt32.size "bpf_bpf_loop".toList = none := by decide
      cases hnone.symm.trans (unsigned?_eq_some_iff.2 ⟨hnumber, h.id.toNat_lt⟩)
    · have hnone : ofName? "bpf_bpf_loop".toList = none := by decide +kernel
      cases hnone.symm.trans hname

end Helper

end Bpf
