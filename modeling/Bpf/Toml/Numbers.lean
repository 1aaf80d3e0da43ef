import Bpf.Text.Number
import Bpf.Toml.Strings

/-!
# TOML numbers and dates

A number or a date is a word, and a word may have blanks inside of it, such as the one between a
date and a time.  The functions below say which words are numbers, dates and times.  Some words have
the form of a number but no value: `0x` has no digits, `1_a` has a digit of another base, and an
integer may not fit into 128 bits or a floating-point number into 64.
-/

namespace Bpf.Toml

/-- A number. -/
inductive Number where
  | integer (n : Int)
  | float
  /-- The word has the form of a number but no value. -/
  | unreadable

/-- A word without its sign, and whether the sign is a minus. -/
def unsign : List Char → Bool × List Char
  | '-' :: rest => (true, rest)
  | '+' :: rest => (false, rest)
  | cs => (false, cs)

/-- The number with the given sign. -/
def withSign (negative : Bool) (n : Nat) : Int := if negative then -(n : Int) else n

/-! ### Digits -/

/-- The value of digits in a base. -/
def valueIn (base : Nat) (digits : List Char) : Nat :=
  digits.foldl (fun n c => base * n + (hexValue? c).getD 0) 0

/-- A digit in a base up to sixteen. -/
def isDigitIn (base : Nat) (c : Char) : Bool := (hexValue? c).any (· < base)

/-- A character among the digits of a number: a digit, or an underscore between them. -/
def isDigitOrGap (isDigit : Char → Bool) (c : Char) : Bool := isDigit c || c = '_'

/-- Each underscore stands between two digits; `afterDigit` holds if a digit stands before the
text. -/
def gapsFit (isDigit : Char → Bool) (afterDigit : Bool) : List Char → Bool
  | [] => true
  | c :: rest =>
    if c = '_' then afterDigit && rest.head?.any isDigit && gapsFit isDigit false rest
    else gapsFit isDigit (isDigit c) rest

/-- A text without its underscores. -/
def withoutGaps (cs : List Char) : List Char := cs.filter (· ≠ '_')

/-! ### Integers -/

/-- The number fits into 128 bits, with a sign or without. -/
def fits : Int → Bool
  | .ofNat n => n < Nat.pow 2 128
  | .negSucc n => n < Nat.pow 2 127

/-- The integer that digits in a base spell, if they are digits and it is small enough. -/
def integerIn (base : Nat) (negative : Bool) (digits : List Char) : Number :=
  if digits.isEmpty || !digits.all (isDigitIn base) then .unreadable
  else
    let n := withSign negative (valueIn base digits)
    if fits n then .integer n else .unreadable

/-- The base that the second character of a number names. -/
def base? (c : Char) : Option Nat :=
  if c = 'x' then some 16 else if c = 'o' then some 8 else if c = 'b' then some 2 else none

/-- The integer in the digits behind the name of a base. -/
def basedInteger? (base : Nat) (cs : List Char) : Option Number :=
  if cs.all (isDigitOrGap (isDigitIn base)) && gapsFit (isDigitIn base) false cs then
    some (integerIn base false (withoutGaps cs))
  else none

/-- The rest of a number behind its first digits makes it an integer: there is none, or it begins
with an underscore and has neither a point nor an exponent nor a space. -/
def endsInteger : List Char → Bool
  | [] => true
  | c :: rest => c = '_' && !rest.any (" .eE".toList.contains ·)

/-- The integer in base ten that a word spells.  It begins with a zero only if it is zero, and what
is not a digit behind its first underscore stops it from having a value. -/
def decimalInteger? (word : List Char) : Option Number :=
  let (negative, value) := unsign word
  let leadingZero := value.head? = some '0' && value.length ≠ 1
  if !value.isEmpty && !leadingZero && endsInteger (value.dropWhile Char.isDigit)
      && gapsFit (isDigitIn 16) false word then
    some (integerIn 10 negative (withoutGaps value))
  else none

/-- The integer that a word spells. -/
def integer? (word : List Char) : Option Number :=
  match word with
  | '0' :: letter :: rest =>
    match base? letter with
    | some base => basedInteger? base rest
    | none => decimalInteger? word
  | _ => decimalInteger? word

/-! ### Floating-point numbers -/

/-- From here on a number is rounded to infinity. -/
def floatLimit : Nat := Nat.pow 2 1024 - Nat.pow 2 970

/-- The number `mantissa * 10 ^ exponent` is rounded to infinity. -/
def isTooLarge (mantissa : Nat) (exponent : Int) : Bool :=
  let magnitude : Int := (Nat.toDigits 10 mantissa).length + exponent
  if mantissa = 0 || magnitude < 300 then false
  else if magnitude > 400 then true
  else if 0 ≤ exponent then floatLimit ≤ mantissa * Nat.pow 10 exponent.toNat
  else floatLimit * Nat.pow 10 (-exponent).toNat ≤ mantissa

/-- The digits that a text begins with, at least one, and what follows them; underscores among them
do not count. -/
def digitRun? (cs : List Char) : Option (List Char × List Char) :=
  let (run, rest) := cs.span (isDigitOrGap Char.isDigit)
  let digits := withoutGaps run
  if digits.isEmpty then none else some (digits, rest)

/-- The digits behind the point, none if there is no point, and what follows them. -/
def fraction? : List Char → Option (List Char × List Char)
  | '.' :: rest => digitRun? rest
  | cs => some ([], cs)

/-- The exponent behind its letter, zero if there is none, and what follows it. -/
def exponent? : List Char → Option (Int × List Char)
  | [] => some (0, [])
  | c :: rest =>
    if c = 'e' || c = 'E' then
      let (negative, rest) := unsign rest
      (digitRun? rest).map fun (digits, rest) => (withSign negative (valueIn 10 digits), rest)
    else some (0, c :: rest)

/-- The floating-point number that a word spells: digits, the first of them a zero only if it is the
only one, and a fraction or an exponent or both. -/
def float? (word : List Char) : Option Number :=
  let (_, value) := unsign word
  if value = "inf".toList || value = "nan".toList then some .float
  else do
    let (whole, rest) ← digitRun? value
    let (fraction, tail) ← fraction? rest
    let (exponent, tail) ← exponent? tail
    let leadingZero := value.head? = some '0' && whole.length ≠ 1
    if leadingZero || rest.isEmpty || !tail.isEmpty || !gapsFit Char.isDigit false word then none
    else if isTooLarge (valueIn 10 (whole ++ fraction)) (exponent - fraction.length) then
      some .unreadable
    else some .float

/-- The number that a word spells. -/
def number? (word : List Char) : Option Number := integer? word <|> float? word

/-! ### Dates and times -/

/-- The number in exactly `n` digits, and what follows them. -/
def fixed? (n : Nat) (cs : List Char) : Option (Nat × List Char) :=
  (Text.decimal? (Nat.pow 10 n) (cs.take n)).bind fun value =>
    if n ≤ cs.length then some (value, cs.drop n) else none

/-- What follows a character. -/
def after? (c : Char) : List Char → Option (List Char)
  | d :: rest => if c = d then some rest else none
  | [] => none

/-- The days of a month. -/
def daysIn (year month : Nat) : Nat :=
  if month = 2 then
    if year % 4 = 0 && (year % 100 ≠ 0 || year % 400 = 0) then 29 else 28
  else if month = 4 || month = 6 || month = 9 || month = 11 then 30
  else 31

/-- What follows a date. -/
def afterDate? (cs : List Char) : Option (List Char) := do
  let (year, cs) ← fixed? 4 cs
  let (month, cs) ← fixed? 2 (← after? '-' cs)
  let (day, cs) ← fixed? 2 (← after? '-' cs)
  if 1 ≤ month && month ≤ 12 && 1 ≤ day && day ≤ daysIn year month then some cs else none

/-- What follows the seconds of a time and their fraction. -/
def afterSeconds? (cs : List Char) : Option (List Char) := do
  let (second, cs) ← fixed? 2 cs
  if second > 60 then none
  match cs with
  | '.' :: rest =>
    if (rest.takeWhile Char.isDigit).isEmpty then none else some (rest.dropWhile Char.isDigit)
  | _ => some cs

/-- What follows a time. -/
def afterTime? (cs : List Char) : Option (List Char) := do
  let (hour, cs) ← fixed? 2 cs
  let (minute, cs) ← fixed? 2 (← after? ':' cs)
  if hour > 23 || minute > 59 then none
  match cs with
  | ':' :: rest => afterSeconds? rest
  | _ => some cs

/-- The distance from the prime meridian, or nothing. -/
def isZone : List Char → Bool
  | [] => true
  | ['Z'] => true
  | ['z'] => true
  | sign :: rest =>
    if sign = '+' || sign = '-' then
      match fixed? 2 rest with
      | some (hour, ':' :: rest) =>
        match fixed? 2 rest with
        | some (minute, []) => hour ≤ 23 && minute ≤ 59
        | _ => false
      | _ => false
    else false

/-- The word is a date, a time, or a date and a time behind a letter or a blank. -/
def isDate (word : List Char) : Bool :=
  match afterDate? word with
  | some [] => true
  | some (c :: rest) =>
    (c = 'T' || c = 't' || c = ' ') && (afterTime? rest).any isZone
  | none => (afterTime? word).any (· = [])

end Bpf.Toml
