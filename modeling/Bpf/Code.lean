import Bpf.Error
import Bpf.Text.Quoted

/-!
# Enumerations of the kernel

A `Code` is a type of the values of a 32-bit enumeration of the kernel: those with a name, numbered
from zero in the order in which they are listed, and any other number as it is, so that no number a
kernel reports is refused.  `Code.ofRaw` and `Code.raw` convert from and to the number, `Code.text`
prints a value, `Code.parse` reads a name, and `Code.compare` orders the values.
-/

namespace Bpf

/-- The words of `cs`, which underscores separate, each with a capital and joined; `start` tells
whether a word begins here. -/
private def camelChars (start : Bool) : List Char → List Char
  | [] => []
  | c :: rest =>
    if c = '_' then camelChars true rest
    else (if start then c.toUpper else c) :: camelChars false rest

/-- A name of small words between underscores in camel case. -/
def camelCase (name : String) : String := String.ofList (camelChars true name.toList)

/-- The values of an enumeration of the kernel. -/
class Code (α : Type) where
  /-- What the enumeration is called. -/
  title : String
  /-- The values with a name, by ascending number from zero. -/
  named : List α
  /-- The name of a value; those without one share the name `unknown`. -/
  name : α → String
  /-- The identifier of a value in source text; those without a name have none. -/
  identifier : α → String
  /-- The number of a value. -/
  raw : α → UInt32
  /-- The value without a name that has this number. -/
  unnamed : UInt32 → α
  /-- The number of a value without a name. -/
  unnamed? : α → Option UInt32
  /-- The named values are numbered by their position. -/
  raw_named : ∀ (i : Nat) (h : i < named.length), (raw named[i]).toNat = i
  /-- A value without a name keeps its number. -/
  raw_unnamed : ∀ r, raw (unnamed r) = r
  /-- Only the values without a name have a number in place of it. -/
  unnamed?_eq : ∀ a r, unnamed? a = some r ↔ a = unnamed r
  /-- Every value has a name or is listed by its number. -/
  named_or_unnamed : ∀ a, a ∈ named ∨ ∃ r, a = unnamed r

namespace Code

variable {α : Type} [Code α]

/-- The value with the given number, under its name if it has one. -/
def ofRaw (r : UInt32) : α :=
  match (named : List α)[r.toNat]? with
  | some a => a
  | none => unnamed r

/-- Reading a number and writing it gives the number back. -/
@[simp]
theorem raw_ofRaw (r : UInt32) :
  raw (ofRaw r : α) = r
  := by
  unfold ofRaw
  split
  next a h =>
    obtain ⟨hlt, rfl⟩ := List.getElem?_eq_some_iff.1 h
    exact UInt32.toNat_inj.1 (raw_named r.toNat hlt)
  next => exact raw_unnamed r

/-- The name of a value, or its number if it has none. -/
def text (a : α) : String :=
  match unnamed? a with
  | some r => s!"unknown({r})"
  | none => name a

/-- The identifier of a value, or its number if it has no name. -/
def spelling (a : α) : String :=
  match unnamed? a with
  | some r => s!"Unknown({r})"
  | none => identifier a

/-- A text with the capital letters of ASCII made small. -/
def smallLetters (s : String) : List Char := s.toList.map Char.toLower

/-- The value that a text names, whatever the case of its ASCII letters. -/
def parse (s : String) : Except Error α :=
  match (named : List α).find? (fun a => smallLetters (name a) == smallLetters s) with
  | some a => .ok a
  | none => .error (.invalidInput s!"unknown {title α}: {Text.quote s}")

/-- The order of values: the named ones as they are listed, then the others by number. -/
protected def compare (a b : α) : Ordering :=
  match unnamed? a, unnamed? b with
  | some r, some s => Ord.compare r s
  | some _, none => .gt
  | none, some _ => .lt
  | none, none => Ord.compare (raw a) (raw b)

end Code

end Bpf
