/-!
# Paths

A `Path` is the text of a path, and `Path.components` the names on it: repeated and trailing slashes
and the component `.` do not count, except for a `.` at the beginning.  Two paths are the same place
to a table of pins if they have the same components.  `Path.join` resolves a path against a
directory.
-/

namespace Bpf

/-- The text of a path. -/
structure Path where
  text : String
deriving DecidableEq

namespace Path

/-- The pieces of a text between the slashes, `current` being the beginning of the first piece in
reverse. -/
def pieces (current : List Char) : List Char → List (List Char)
  | [] => [current.reverse]
  | c :: rest =>
    if c = '/' then current.reverse :: pieces [] rest else pieces (c :: current) rest

/-- The path is empty. -/
def isEmpty (p : Path) : Bool := p.text.toList.isEmpty

/-- The path begins at the root. -/
def isAbsolute (p : Path) : Bool := p.text.toList.head? = some '/'

/-- The names on the path, after a slash if it begins at the root and after a point if it begins
with one. -/
def components (p : Path) : List String :=
  let all := pieces [] p.text.toList
  let names := (all.filter fun piece => piece ≠ [] && piece ≠ ['.']).map String.ofList
  if p.isAbsolute then "/" :: names
  else if all.head? = some ['.'] then "." :: names
  else names

/-- Two paths with the same names on them. -/
def same (p q : Path) : Bool := p.components = q.components

/-- The path as seen from a directory; one that begins at the root stays as it is. -/
def join (directory p : Path) : Path :=
  if p.isAbsolute then p
  else if directory.isEmpty || directory.text.toList.getLast? = some '/' then
    ⟨directory.text ++ p.text⟩
  else ⟨directory.text ++ "/" ++ p.text⟩

end Path

end Bpf
