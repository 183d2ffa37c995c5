/-!
# Lines

A text is a sequence of lines ended by a line feed or by a carriage return and a line feed.  The last
line needs no end; a carriage return at its end belongs to it.
-/

namespace Changelog.Text

/-- The line without the carriage return before its line feed. -/
def stripReturn (line : List Char) : List Char :=
  if line.getLast? = some '\r' then line.dropLast else line

/-- The lines of a text whose pieces between line feeds are given: all but the last were ended. -/
def linesOfPieces : List (List Char) → List (List Char)
  | [] => []
  | [[]] => []
  | [last] => [last]
  | piece :: rest => stripReturn piece :: linesOfPieces rest

def lines (s : List Char) : List (List Char) := linesOfPieces (s.splitOn '\n')

def lineEnds (s : List Char) : Nat := s.count '\n'

@[simp] theorem lineEnds_append (s t : List Char) : lineEnds (s ++ t) = lineEnds s + lineEnds t :=
  List.count_append

example : lines "a\r\n\nb\r".toList = [['a'], [], ['b', '\r']] := by decide
example : lines "".toList = [] := by decide

end Changelog.Text
