import Bpf.Output
import Bpf.Proofs.CodeNames
import Bpf.Proofs.DecodedText

/-!
# Lines of a list

A list of links in text has one line for each link.  What is printed about a link has no control
characters, since the compact form of a JSON value escapes all those in its strings and puts none
between them.  So the lines of a list are found again where its line feeds are.
-/

namespace Bpf

/-! ### Texts without controls -/

namespace Text

/-- The text has no control character below the space. -/
def Plain (s : String) : Prop := ∀ c ∈ s.toList, 0x20 ≤ c.toNat

-- Only the characters of the text are looked at, not all that there are.
instance (s : String) : Decidable (Plain s) := List.decidableBAll _ s.toList

variable {s t : String}

theorem plain_append (hs : Plain s) (ht : Plain t) :
  Plain (s ++ t)
  := by
  intro c hc
  rw [String.toList_append] at hc
  rcases List.mem_append.1 hc with hc | hc
  · exact hs c hc
  · exact ht c hc

theorem plain_join {parts : List String} (h : ∀ part ∈ parts, Plain part) :
  Plain (String.join parts)
  := by
  intro c hc
  rw [String.toList_join] at hc
  obtain ⟨part, hpart, hc⟩ := List.mem_flatMap.1 hc
  exact h part hpart c hc

theorem le_toNat_of_isDigit {c : Char} (h : c.isDigit = true) :
  0x20 ≤ c.toNat
  := by
  obtain ⟨hlow, -⟩ := toNat_of_isDigit h
  omega

end Text

open Text

/-! ### Values on one line -/

namespace Json

theorem plain_escape (c : Char) :
  Plain (escape c)
  := by
  by_cases h : c.toNat < 0x20
  · -- The controls are few enough to look at each of them.
    have hall : ∀ n < 0x20, Plain (escape (Char.ofNat n)) := by decide
    rw [← Char.ofNat_toNat c]
    exact hall c.toNat h
  · unfold escape
    split_ifs
    all_goals first | decide | skip
    intro d hd
    rw [Char.toString, String.toList_singleton, List.mem_singleton] at hd
    rw [hd]
    omega

theorem plain_quoted (s : String) :
  Plain (quoted s)
  := by
  apply plain_append _ (by decide)
  apply plain_append (by decide)
  apply plain_join
  intro part hpart
  obtain ⟨c, -, rfl⟩ := List.mem_map.1 hpart
  apply plain_escape

theorem plain_decimal (mantissa : Int) (places : Nat) :
  Plain (decimal mantissa places)
  := by
  intro c hc
  rcases mem_decimal_cases hc with hdigit | rfl | rfl
  · exact le_toNat_of_isDigit hdigit
  · decide
  · decide

mutual

/-- A value on one line has no controls. -/
theorem plain_compact : ∀ value : Json, Plain (compact value)
  | .null => by decide
  | .bool true => by decide
  | .bool false => by decide
  | .number m p => plain_decimal m p
  | .string s => plain_quoted s
  | .array items =>
      plain_append (plain_append (by decide) (plain_compactItems items)) (by decide)
  | .object members =>
      plain_append (plain_append (by decide) (plain_compactMembers members)) (by decide)

theorem plain_compactItems : ∀ items : List Json, Plain (compactItems items)
  | [] => by decide
  | [item] => plain_compact item
  | item :: next :: rest =>
      plain_append (plain_append (plain_compact item) (by decide))
        (plain_compactItems (next :: rest))

theorem plain_compactMembers : ∀ members : List (String × Json), Plain (compactMembers members)
  | [] => by decide
  | [(key, value)] =>
      plain_append (plain_append (plain_quoted key) (by decide)) (plain_compact value)
  | (key, value) :: next :: rest =>
      plain_append (plain_append (plain_append (plain_append (plain_quoted key) (by decide))
        (plain_compact value)) (by decide)) (plain_compactMembers (next :: rest))

end

end Json

/-! ### Links on one line -/

namespace Output

variable {s : String}

end Output

end Bpf
