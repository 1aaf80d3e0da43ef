/-!
# TOML strings

A string stands between single or double quotes, or between three of them if it goes over several
lines.  `quoted` reads a string from its first quote on.  Between double quotes a backslash begins
an escape; between three of them it may also stand at the end of a line, where it joins the line
with the next one that is not blank.
-/

namespace Bpf.Toml

/-- A blank inside of a line. -/
def isSpace (c : Char) : Bool := c = ' ' || c = '\t'

/-- A character that may stand for itself: no control but the tab. -/
def isPlain (c : Char) : Bool := c = '\t' || (0x20 ≤ c.toNat && c.toNat ≠ 0x7f)

/-- The value of a digit in base sixteen. -/
def hexValue? (c : Char) : Option Nat :=
  if c.isDigit then some (c.toNat - '0'.toNat)
  else if 'a' ≤ c && c ≤ 'f' then some (c.toNat - 'a'.toNat + 10)
  else if 'A' ≤ c && c ≤ 'F' then some (c.toNat - 'A'.toNat + 10)
  else none

/-- The character with a code point. -/
def ofCodePoint? (n : Nat) : Option Char :=
  if n.isValidChar then some (Char.ofNat n) else none

/-- The character of an escape of one letter. -/
def letterEscape? (c : Char) : Option Char :=
  if c = 'b' then some '\x08'
  else if c = 't' then some '\t'
  else if c = 'n' then some '\n'
  else if c = 'f' then some '\x0c'
  else if c = 'r' then some '\r'
  else if c = 'e' then some '\x1b'
  else if c = '"' then some '"'
  else if c = '\\' then some '\\'
  else none

/-- How many digits follow the letter of an escape by code point. -/
def escapeDigits? (c : Char) : Option Nat :=
  if c = 'x' then some 2 else if c = 'u' then some 4 else if c = 'U' then some 8 else none

/-- Where a reader of a string with escapes is. -/
inductive EscapeState where
  | plain
  | backslash
  /-- Among the digits of a code point: how many are left, and the value so far. -/
  | digits (left value : Nat)
  /-- Behind a backslash at the end of a line, before the end of the line or after it. -/
  | gap (afterLineEnd : Bool)

/-- The characters that a string with escapes stands for; line ends are allowed if it goes over
several lines. -/
def unescape (manyLines : Bool) : EscapeState → List Char → Option (List Char)
  | .plain, [] => some []
  | .gap true, [] => some []
  | _, [] => none
  | .gap _, '\n' :: rest => unescape manyLines (.gap true) rest
  | .gap _, '\r' :: '\n' :: rest => unescape manyLines (.gap true) rest
  | .backslash, c :: rest =>
    match letterEscape? c, escapeDigits? c with
    | some d, _ => (unescape manyLines .plain rest).map (d :: ·)
    | none, some n => unescape manyLines (.digits n 0) rest
    | none, none =>
      if manyLines && isSpace c then unescape manyLines (.gap false) rest
      else if manyLines && c = '\n' then unescape manyLines (.gap true) rest
      else if manyLines && c = '\r' && rest.head? = some '\n' then
        unescape manyLines (.gap false) rest
      else none
  | .digits left value, c :: rest =>
    match hexValue? c with
    | none => none
    | some d =>
      if left ≤ 1 then
        match ofCodePoint? (16 * value + d) with
        | some e => (unescape manyLines .plain rest).map (e :: ·)
        | none => none
      else unescape manyLines (.digits (left - 1) (16 * value + d)) rest
  | .plain, c :: rest =>
    if c = '\\' then unescape manyLines .backslash rest
    else if isPlain c || (manyLines && (c = '\n' || (c = '\r' && rest.head? = some '\n'))) then
      (unescape manyLines .plain rest).map (c :: ·)
    else none
  | .gap after, c :: rest =>
    if isSpace c then unescape manyLines (.gap after) rest
    else if !after then none
    else if c = '\\' then unescape manyLines .backslash rest
    else if isPlain c then (unescape manyLines .plain rest).map (c :: ·)
    else none

/-- The characters of a string without escapes. -/
def literal (manyLines : Bool) : List Char → Option (List Char)
  | [] => some []
  | c :: rest =>
    if isPlain c || (manyLines && (c = '\n' || (c = '\r' && rest.head? = some '\n'))) then
      (literal manyLines rest).map (c :: ·)
    else none

/-- What stands before the next quote, and what follows it; with escapes, a quote behind a backslash
does not count. -/
def upToQuote (quote : Char) (escapes skip : Bool) : List Char → Option (List Char × List Char)
  | [] => none
  | c :: rest =>
    if c = quote && !skip then some ([], rest)
    else
      (upToQuote quote escapes (escapes && c = '\\' && !skip) rest).map fun (body, after) =>
        (c :: body, after)

/-- What stands before the next three quotes, and what follows them.  Of up to five quotes the last
three count. -/
def upToQuotes (quote : Char) (escapes skip : Bool) : List Char → Option (List Char × List Char)
  | [] => none
  | c :: rest =>
    if c = quote && !skip && rest.take 2 = [quote, quote] then
      let extra := ((rest.drop 2).take 2).takeWhile (· = quote)
      some (extra, rest.drop (2 + extra.length))
    else
      (upToQuotes quote escapes (escapes && c = '\\' && !skip) rest).map fun (body, after) =>
        (c :: body, after)

/-- A text without the line end that it begins with. -/
def dropLineEnd : List Char → List Char
  | '\n' :: rest => rest
  | '\r' :: '\n' :: rest => rest
  | cs => cs

/-- The text that a string stands for. -/
def decode (quote : Char) (manyLines : Bool) (body : List Char) : Option String :=
  let chars := if quote = '"' then unescape manyLines .plain body else literal manyLines body
  chars.map String.ofList

/-- A string on one line, from its first quote on, and what follows it. -/
def quotedLine : List Char → Option (String × List Char)
  | [] => none
  | quote :: rest =>
    if quote = '"' || quote = '\'' then do
      let (body, after) ← upToQuote quote (quote = '"') false rest
      return (← decode quote false body, after)
    else none

/-- A string, from its first quote on, and what follows it. -/
def quoted : List Char → Option (String × List Char)
  | [] => none
  | quote :: rest =>
    if rest.take 2 = [quote, quote] && (quote = '"' || quote = '\'') then do
      let (body, after) ← upToQuotes quote (quote = '"') false (dropLineEnd (rest.drop 2))
      return (← decode quote true body, after)
    else quotedLine (quote :: rest)

end Bpf.Toml
