/-!
# Lines

`lines` cuts a text after each line feed and drops the line ends: a line feed, with the carriage
return before it if there is one.  `contains` looks for a phrase in a line.
-/

namespace Bpf.Text

/-- A line without the carriage return at its end. -/
def dropReturn (line : List Char) : List Char :=
  match line.reverse with
  | '\r' :: rest => rest.reverse
  | _ => line

/-- The lines of a text, `current` being the beginning of the first one in reverse.  What follows
the last line feed is a line only if it is not empty, and keeps a carriage return at its end. -/
def linesFrom (current : List Char) : List Char → List (List Char)
  | [] => if current.isEmpty then [] else [current.reverse]
  | c :: rest =>
    if c = '\n' then dropReturn current.reverse :: linesFrom [] rest
    else linesFrom (c :: current) rest

/-- The lines of a text, without their ends. -/
def lines (s : String) : List String := (linesFrom [] s.toList).map String.ofList

/-- `phrase` occurs in `text`. -/
def occurs (phrase : List Char) : List Char → Bool
  | [] => phrase.isEmpty
  | c :: rest => phrase.isPrefixOf (c :: rest) || occurs phrase rest

/-- `phrase` occurs in `line`. -/
def contains (line phrase : String) : Bool := occurs phrase.toList line.toList

end Bpf.Text
