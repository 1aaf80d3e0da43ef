import Bpf.Toml.Numbers
import Bpf.Toml.Value

/-!
# TOML documents

`Toml.parse?` reads a document: lines that hold a key and a value, below headers that name tables.
Values may be nested, up to a depth that no sensible document reaches.
-/

namespace Bpf.Toml

/-! ### Blanks -/

/-- What follows blanks, line ends and comments, each comment up to the end of its line. -/
def skipBlank (inComment : Bool) : List Char → Option (List Char)
  | [] => some []
  | '\n' :: rest => skipBlank false rest
  | '\r' :: '\n' :: rest => skipBlank false rest
  | c :: rest =>
    if inComment then if isPlain c then skipBlank true rest else none
    else if isSpace c then skipBlank false rest
    else if c = '#' then skipBlank true rest
    else some (c :: rest)

/-- What follows the end of a line, with blanks and a comment before it. -/
def endLine (inComment : Bool) : List Char → Option (List Char)
  | [] => some []
  | '\n' :: rest => some rest
  | '\r' :: '\n' :: rest => some rest
  | c :: rest =>
    if inComment then if isPlain c then endLine true rest else none
    else if isSpace c then endLine false rest
    else if c = '#' then endLine true rest
    else none

/-- What follows blanks on the line. -/
def skipSpace (cs : List Char) : List Char := cs.dropWhile isSpace

/-! ### Keys -/

/-- A character of a key without quotes. -/
def isBareKey (c : Char) : Bool := c.isAlphanum || c = '_' || c = '-'

/-- One part of a key, and what follows it. -/
def keyPart (cs : List Char) : Option (String × List Char) :=
  match cs.span isBareKey with
  | ([], _) => quotedLine cs
  | (bare, rest) => some (String.ofList bare, rest)

/-- How many parts a key may have. -/
def maxKeyParts : Nat := 80

/-- The parts of a key, with points between them, at most `more` behind the first one, and what
follows the blanks behind the key. -/
def keyParts (more : Nat) (cs : List Char) : Option (List String × List Char) := do
  let (part, rest) ← keyPart (skipSpace cs)
  match more, skipSpace rest with
  | more + 1, '.' :: rest =>
    let (parts, rest) ← keyParts more rest
    return (part :: parts, rest)
  | _, rest => return ([part], rest)

/-- The parts of a key, and what follows the blanks behind it. -/
def key (cs : List Char) : Option (List String × List Char) := keyParts (maxKeyParts - 1) cs

/-! ### Values -/

/-- A character that does not end a word. -/
def isWordChar (c : Char) : Bool := !"=,[]\x7b\x7d \t#\r\n".toList.contains c

/-- A text that begins with a quote. -/
def startsQuoted (cs : List Char) : Bool := cs.head?.any fun c => c = '"' || c = '\''

/-- The word that a value is, and what follows it.  Blanks belong to the word if more of it follows,
which does not begin with a quote. -/
def word : List Char → List Char × List Char
  | [] => ([], [])
  | c :: rest =>
    if isWordChar c then
      let (more, after) := word rest
      (c :: more, after)
    else if isSpace c && !startsQuoted rest then
      match word rest with
      | ([], _) => ([], c :: rest)
      | (more, after) => (c :: more, after)
    else ([], c :: rest)

/-- The value that a word spells. -/
def ofWord? (w : List Char) : Option Value :=
  if w = "true".toList then some (.bool true)
  else if w = "false".toList then some (.bool false)
  else
    match number? w with
    | some n => some (.number n)
    | none => if isDate w then some .date else none

/-- How deep values may be nested. -/
def maxDepth : Nat := 80

mutual
/-- A value, and what follows it. -/
def value (depth : Nat) (cs : List Char) : Option (Value × List Char) :=
  match depth, cs with
  | depth + 1, '[' :: rest => do
    let (items, rest) ← items depth rest.length rest
    return (.array items, rest)
  | depth + 1, '\x7b' :: rest => do
    let (entries, rest) ← members depth rest.length [] rest
    return (.table .inline entries, rest)
  | _, '"' :: rest => (quoted ('"' :: rest)).map fun (s, rest) => (.string s, rest)
  | _, '\'' :: rest => (quoted ('\'' :: rest)).map fun (s, rest) => (.string s, rest)
  | _, cs =>
    let (w, rest) := word cs
    (ofWord? w).map fun v => (v, rest)
termination_by (depth, 0)

/-- The elements of an array up to its bracket, and what follows it; `fuel` bounds their number. -/
def items (depth fuel : Nat) (cs : List Char) : Option (List Value × List Char) := do
  match ← skipBlank false cs with
  | ']' :: rest => return ([], rest)
  | cs =>
    let (item, rest) ← value depth cs
    match fuel, ← skipBlank false rest with
    | fuel + 1, ',' :: rest =>
      let (more, rest) ← items depth fuel rest
      return (item :: more, rest)
    | _, ']' :: rest => return ([item], rest)
    | _, _ => none
termination_by (depth, fuel + 1)

/-- The entries of a table up to its brace, added to those before them, and what follows it; `fuel`
bounds their number.  Lines may end before the equals sign of an entry and behind it. -/
def members (depth fuel : Nat) (entries : Entries) (cs : List Char) :
    Option (Entries × List Char) := do
  match ← skipBlank false cs with
  | '\x7d' :: rest => return (entries, rest)
  | cs =>
    let (path, rest) ← key cs
    let rest ← after? '=' (← skipBlank false rest)
    let (item, rest) ← value depth (← skipBlank false rest)
    let entries ← Entries.assign item path entries
    match fuel, ← skipBlank false rest with
    | fuel + 1, ',' :: rest => members depth fuel entries rest
    | _, '\x7d' :: rest => return (entries, rest)
    | _, _ => none
termination_by (depth, fuel + 1)
end

/-! ### Lines -/

/-- A document as far as it has been read: the entries, and the header that the next line is
below. -/
structure Draft where
  entries : Entries
  header : List String

/-- What a header names, behind its brackets, and what follows its line. -/
def header (closing : List Char) (cs : List Char) : Option (List String × List Char) := do
  let (path, rest) ← key cs
  if closing.isPrefixOf rest then
    return (path, ← endLine false (rest.drop closing.length))
  else none

/-- Reads one line that is not blank. -/
def line (draft : Draft) (cs : List Char) : Option (Draft × List Char) := do
  match cs with
  | '[' :: '[' :: rest =>
    let (path, rest) ← header "]]".toList rest
    return (⟨← Entries.openHeader Entries.repeated path draft.entries, path⟩, rest)
  | '[' :: rest =>
    let (path, rest) ← header "]".toList rest
    return (⟨← Entries.openHeader Entries.headed path draft.entries, path⟩, rest)
  | cs =>
    let (path, rest) ← key cs
    let (item, rest) ← value maxDepth (skipSpace (← after? '=' rest))
    let rest ← endLine false rest
    let entries ← Entries.below (Entries.assign item path) draft.header draft.entries
    return (⟨entries, draft.header⟩, rest)

/-- Reads lines up to the end of the document; `fuel` bounds their number. -/
def lines (fuel : Nat) (draft : Draft) (cs : List Char) : Option Entries := do
  match fuel, ← skipBlank false cs with
  | _, [] => return draft.entries
  | 0, _ => none
  | fuel + 1, cs =>
    let (draft, rest) ← line draft cs
    lines fuel draft rest

/-- The entries of a document, with a byte order mark before it or not. -/
def parse? (text : String) : Option Entries :=
  let cs :=
    match text.toList with
    | '\ufeff' :: rest => rest
    | cs => cs
  lines (cs.length + 1) ⟨[], []⟩ cs

end Bpf.Toml
