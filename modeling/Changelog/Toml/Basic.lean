namespace Changelog

/-- How a table came to be, which decides whether more may be written into it. -/
inductive Toml.TableKind
  /-- Passed through by the header of a table inside it. -/
  | passed
  | dotted
  | opened
  /-- Written in braces, and closed for good. -/
  | closed
deriving DecidableEq, Repr

inductive Toml
  | string (text : String)
  | integer (i : Int)
  | float (x : Float)
  | boolean (b : Bool)
  /-- A date, a time of day or both, as it is written. -/
  | moment (text : String)
  | array (items : List Toml)
  /-- The tables that headers in double brackets have opened, the newest first. -/
  | tables (newestFirst : List (List (String × Toml)))
  | table (kind : Toml.TableKind) (entries : List (String × Toml))

namespace Toml

def asString? : Toml → Option String
  | .string text => some text
  | _ => none

/-- The items of an array, however it is written. -/
def asItems? : Toml → Option (List Toml)
  | .array items => some items
  | .tables newestFirst => some (newestFirst.reverse.map (.table .opened))
  | _ => none

def asEntries? : Toml → Option (List (String × Toml))
  | .table _ entries => some entries
  | _ => none

end Toml

end Changelog
