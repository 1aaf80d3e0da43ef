/-!
# JSON

`Json` is a value whose objects keep the order of their members, `Json.compact` writes it on one
line without blanks, and `Json.pretty` writes one member or element a line, two blanks deeper than
the bracket around it.
-/

namespace Bpf

/-- A JSON value.  `number m p` is `m / 10 ^ p`, written with `p` places. -/
inductive Json where
  | null
  | bool (value : Bool)
  | number (mantissa : Int) (places : Nat)
  | string (text : String)
  | array (items : List Json)
  | object (members : List (String × Json))

namespace Json

/-- A whole number. -/
def int (n : Int) : Json := .number n 0

/-- A natural number. -/
def nat (n : Nat) : Json := .number n 0

/-- `null` for a missing value. -/
def optional {α : Type} (write : α → Json) : Option α → Json
  | none => .null
  | some a => write a

/-! ### Scalars -/

/-- Two digits in base sixteen. -/
private def jsonHexPair (n : Nat) : String :=
  String.ofList [Nat.digitChar (n / 16), Nat.digitChar (n % 16)]

/-- The spelling of a character in a string: a quote, a backslash and the controls below the space
are escaped, all else stands for itself. -/
def escape (c : Char) : String :=
  if c = '"' then "\\\""
  else if c = '\\' then "\\\\"
  else if c = '\x08' then "\\b"
  else if c = '\t' then "\\t"
  else if c = '\n' then "\\n"
  else if c = '\x0c' then "\\f"
  else if c = '\r' then "\\r"
  else if c.toNat < 0x20 then "\\u00" ++ jsonHexPair c.toNat
  else c.toString

/-- A string between quotes. -/
def quoted (s : String) : String :=
  "\"" ++ String.join (s.toList.map escape) ++ "\""

/-- The digits of `n`, at least `width` of them. -/
private def jsonDigits (width n : Nat) : List Char :=
  let digits := Nat.toDigits 10 n
  List.replicate (width - digits.length) '0' ++ digits

/-- The decimal spelling of `mantissa / 10 ^ places`. -/
def decimal (mantissa : Int) (places : Nat) : String :=
  if places = 0 then toString mantissa
  else
    let digits := jsonDigits (places + 1) mantissa.natAbs
    let whole := digits.take (digits.length - places)
    let fraction := digits.drop (digits.length - places)
    (if mantissa < 0 then "-" else "") ++ String.ofList whole ++ "." ++ String.ofList fraction

private theorem isDigit_of_mem_jsonDigits {width n : Nat} {c : Char} (h : c ∈ jsonDigits width n) :
  c.isDigit = true
  := by
  rcases List.mem_append.1 h with hzero | hdigit
  · rw [(List.mem_replicate.1 hzero).2]
    rfl
  · exact Nat.isDigit_of_mem_toDigits (by decide) (by decide) hdigit

/-- A number is spelled by digits, with a sign and a point where it needs them. -/
theorem mem_decimal_cases {mantissa : Int} {places : Nat} {c : Char}
    (h : c ∈ (decimal mantissa places).toList) :
  c.isDigit = true ∨ c = '-' ∨ c = '.'
  := by
  have hwhole {n : Nat} (h : c ∈ (Nat.repr n).toList) : c.isDigit = true := by
    rw [Nat.repr, String.toList_ofList] at h
    exact Nat.isDigit_of_mem_toDigits (by decide) (by decide) h
  unfold decimal at h
  split at h
  · cases mantissa with
    | ofNat n => exact Or.inl (hwhole h)
    | negSucc n =>
        rcases List.mem_append.1 (String.toList_append ▸ h) with hsign | hdigit
        · exact Or.inr (Or.inl (List.mem_singleton.1 hsign))
        · exact Or.inl (hwhole hdigit)
  · simp only [String.toList_append, List.mem_append, String.toList_ofList] at h
    rcases h with ((hsign | htake) | hpoint) | hdrop
    · split at hsign
      · exact Or.inr (Or.inl (List.mem_singleton.1 hsign))
      · cases hsign
    · exact Or.inl (isDigit_of_mem_jsonDigits (List.mem_of_mem_take htake))
    · exact Or.inr (Or.inr (List.mem_singleton.1 hpoint))
    · exact Or.inl (isDigit_of_mem_jsonDigits (List.mem_of_mem_drop hdrop))

/-! ### One line -/

mutual
/-- The value on one line, without blanks. -/
def compact : Json → String
  | .null => "null"
  | .bool b => if b then "true" else "false"
  | .number m p => decimal m p
  | .string s => quoted s
  | .array items => "[" ++ compactItems items ++ "]"
  | .object members => "\x7b" ++ compactMembers members ++ "\x7d"

/-- The elements of an array on one line, with commas between them. -/
def compactItems : List Json → String
  | [] => ""
  | [item] => compact item
  | item :: rest => compact item ++ "," ++ compactItems rest

/-- The members of an object on one line, with commas between them. -/
def compactMembers : List (String × Json) → String
  | [] => ""
  | [(key, value)] => quoted key ++ ":" ++ compact value
  | (key, value) :: rest => quoted key ++ ":" ++ compact value ++ "," ++ compactMembers rest
end

/-! ### Many lines -/

/-- A line feed and the indentation of a line `depth` brackets deep. -/
def newline (depth : Nat) : String :=
  "\n" ++ String.ofList (List.replicate (2 * depth) ' ')

mutual
/-- The value over several lines, inside of `depth` brackets; an empty array or object stays on one
line. -/
def prettyAt (depth : Nat) : Json → String
  | .null => "null"
  | .bool b => if b then "true" else "false"
  | .number m p => decimal m p
  | .string s => quoted s
  | .array [] => "[]"
  | .array (item :: rest) =>
    "[" ++ newline (depth + 1) ++ prettyAt (depth + 1) item ++ prettyItems (depth + 1) rest
      ++ newline depth ++ "]"
  | .object [] => "\x7b\x7d"
  | .object ((key, value) :: rest) =>
    "\x7b" ++ newline (depth + 1) ++ quoted key ++ ": " ++ prettyAt (depth + 1) value
      ++ prettyMembers (depth + 1) rest ++ newline depth ++ "\x7d"

/-- The elements of an array after the first one, one a line. -/
def prettyItems (depth : Nat) : List Json → String
  | [] => ""
  | item :: rest => "," ++ newline depth ++ prettyAt depth item ++ prettyItems depth rest

/-- The members of an object after the first one, one a line. -/
def prettyMembers (depth : Nat) : List (String × Json) → String
  | [] => ""
  | (key, value) :: rest =>
    "," ++ newline depth ++ quoted key ++ ": " ++ prettyAt depth value ++ prettyMembers depth rest
end

/-- The value over several lines. -/
def pretty (value : Json) : String := prettyAt 0 value

/-! ### Reading a value -/

/-- The value of a member of an object. -/
def member? (key : String) : Json → Option Json
  | .object members => (members.find? (·.1 == key)).map (·.2)
  | _ => none

/-- The value of a member of an object that is not `null`. -/
def present? (key : String) (value : Json) : Option Json :=
  match value.member? key with
  | some .null => none
  | found => found

/-- A whole number. -/
def int? : Json → Option Int
  | .number m 0 => some m
  | _ => none

/-- A truth value. -/
def bool? : Json → Option Bool
  | .bool b => some b
  | _ => none

/-- A text. -/
def string? : Json → Option String
  | .string s => some s
  | _ => none

/-- The elements of an array. -/
def array? : Json → Option (List Json)
  | .array items => some items
  | _ => none

/-- An object with further members. -/
def extend (more : List (String × Json)) : Json → Json
  | .object members => .object (members ++ more)
  | value => value

mutual
/-- Two values are the same, whatever the order of the members of an object. -/
def same : Json → Json → Bool
  | .null, .null => true
  | .bool a, .bool b => a == b
  | .number a m, .number b n => a * Nat.pow 10 n == b * Nat.pow 10 m
  | .string a, .string b => a == b
  | .array a, .array b => sameItems a b
  | .object a, .object b => a.length == b.length && sameMembers a b
  | _, _ => false

/-- The elements of two arrays are the same one by one. -/
def sameItems : List Json → List Json → Bool
  | [], [] => true
  | a :: as, b :: bs => same a b && sameItems as bs
  | _, _ => false

/-- Every one of the members is in an object with the same value. -/
def sameMembers : List (String × Json) → List (String × Json) → Bool
  | [], _ => true
  | (key, value) :: rest, members =>
    (match members.find? (·.1 == key) with
      | some found => same value found.2
      | none => false) && sameMembers rest members
end

end Json

end Bpf
