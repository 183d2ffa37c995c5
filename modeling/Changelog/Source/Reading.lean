/-!
# Reading steps

A step reads one construct at the start of a text.  Its result names the text it started from, so that
what is left is known to be shorter and a loop of steps ends.
-/

namespace Changelog.Source

/-- Why reading stops for good, with the text at the place where it does. -/
inductive Fault
  | unexpected (rest : List Char)
  | outOfRange (rest : List Char)

/-- What reading one construct at the start of `s` gives. -/
inductive Reading (α : Type) (s : List Char)
  /-- The construct stands there, and `rest` follows it. -/
  | found (value : α) (rest : List Char) (shorter : rest.length < s.length)
  /-- Something else stands there, which another step may read. -/
  | absent
  /-- No other step may try. -/
  | fault (f : Fault)

/-- What reading a repetition at the start of `s` gives; it may read nothing. -/
inductive Run (α : Type) (s : List Char)
  | read (value : α) (rest : List Char) (noLonger : rest.length ≤ s.length)
  | fault (f : Fault)

end Changelog.Source
