import Changelog.Pattern.Marked
import Changelog.Pattern.Reader

/-!
# Resource filters

A filter decides which files of a directory are included.  Filters are known by name, and the names are
kept in order.
-/

namespace Changelog

/-- A choice among paths. -/
structure PathFilter where
  accepts : String → Bool

namespace PathFilter

/-- Accepts the paths in which the first pattern is found and the second is not, as far as they are
given. -/
def ofPatterns (wanted unwanted : Option Pattern) : PathFilter where
  accepts := fun path => wanted.all (·.found path) && !unwanted.any (·.found path)

def standsIn (part : List Char) : List Char → Bool
  | [] => part.isEmpty
  | c :: rest => part.isPrefixOf (c :: rest) || standsIn part rest

/-- Accepts the paths that contain a text, or with `negate` those that do not. -/
def containing (text : String) (negate : Bool) : PathFilter where
  accepts := fun path => standsIn text.toList path.toList != negate

/-- The filter of two written patterns; the first text that writes none is the error. -/
def read (wanted unwanted : Option String) : Except PatternError PathFilter := do
  let w ← wanted.mapM Pattern.read
  let u ← unwanted.mapM Pattern.read
  return ofPatterns w u

end PathFilter

/-- Filters by name, in the order of their names. -/
structure FilterRegistry where
  entries : List (String × PathFilter)

namespace FilterRegistry

def empty : FilterRegistry := ⟨[]⟩

def get? (filters : FilterRegistry) (name : String) : Option PathFilter := filters.entries.lookup name

def names (filters : FilterRegistry) : List String := filters.entries.map Prod.fst

def place (name : String) (filter : PathFilter) :
    List (String × PathFilter) → List (String × PathFilter)
  | [] => [(name, filter)]
  | e :: rest =>
    if e.1 = name then (name, filter) :: rest
    else if name < e.1 then (name, filter) :: e :: rest
    else e :: place name filter rest

def register (filters : FilterRegistry) (name : String) (filter : PathFilter) : FilterRegistry :=
  ⟨place name filter filters.entries⟩

def hexDigits (n : Nat) : List Char := Nat.toDigits 16 n

/-- How a character of a name is shown between quotes: quote, backslash and the common control
characters by a backslash and a letter, other characters that cannot be seen by their number. -/
def shownChar (c : Char) : List Char :=
  if c = '"' then ['\\', '"']
  else if c = '\\' then ['\\', '\\']
  else if c = '\n' then ['\\', 'n']
  else if c = '\r' then ['\\', 'r']
  else if c = '\t' then ['\\', 't']
  else if c = '\x00' then ['\\', '0']
  else if Text.isExtender c || !Text.isPrintable c then
    '\\' :: 'u' :: '\x7b' :: hexDigits c.toNat ++ ['\x7d']
  else [c]

def shownName (name : String) : List Char := '"' :: name.toList.flatMap shownChar ++ ['"']

def shown (filters : FilterRegistry) : String :=
  String.ofList
    ('\x7b' :: [',', ' '].intercalate (filters.names.map shownName) ++ ['\x7d'])

end FilterRegistry

end Changelog
