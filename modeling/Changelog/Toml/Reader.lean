import Changelog.Toml.Scalar
import Changelog.Toml.Table
import Changelog.Toml.Text

/-!
# Reading TOML

A document is a sequence of statements, each on a line of its own.  The steps of the reader are counted
by a number that the length of the text always covers.
-/

namespace Changelog.Toml

mutual

/-- The value at the start of a text, read in at most `fuel` steps, and the text after it. -/
def value? : Nat → List Char → Option (Toml × List Char)
  | 0, _ => none
  | fuel + 1, s =>
    match s with
    | '[' :: rest => do
      let (items, rest) ← items? fuel (← skipBlanks false rest)
      some (.array items, rest)
    | '\x7b' :: rest => do
      let (members, rest) ← members? fuel (← skipBlanks false rest)
      some (← closedTable? members, rest)
    | c :: rest =>
      if c = '"' ∨ c = '\'' then
        (string? (c :: rest)).map fun p => (.string (String.ofList p.1), p.2)
      else scalar? (c :: rest)
    | [] => none

def items? : Nat → List Char → Option (List Toml × List Char)
  | 0, _ => none
  | _ + 1, ']' :: rest => some ([], rest)
  | fuel + 1, s => do
    let (item, rest) ← value? fuel s
    match ← skipBlanks false rest with
    | ']' :: rest => some ([item], rest)
    | ',' :: rest => do
      let (items, rest) ← items? fuel (← skipBlanks false rest)
      some (item :: items, rest)
    | _ => none

def members? : Nat → List Char → Option (List (List String × Toml) × List Char)
  | 0, _ => none
  | _ + 1, '\x7d' :: rest => some ([], rest)
  | fuel + 1, s => do
    let (path, rest) ← keys? s.length s
    let (value, rest) ← value? fuel (skipSpaces (← after? '=' rest))
    match ← skipBlanks false rest with
    | '\x7d' :: rest => some ([(path, value)], rest)
    | ',' :: rest => do
      let (members, rest) ← members? fuel (← skipBlanks false rest)
      some ((path, value) :: members, rest)
    | _ => none

end

def header? (close : List Char) (s : List Char) : Option (List String × List Char) := do
  let (path, rest) ← keys? s.length s
  if close.isPrefixOf rest then some (path, rest.drop close.length) else none

def statement? (s : List Char) : Option (Statement × List Char) :=
  match s with
  | '[' :: '[' :: rest => (header? [']', ']'] rest).map fun p => (.header true p.1, p.2)
  | '[' :: rest => (header? [']'] rest).map fun p => (.header false p.1, p.2)
  | s => do
    let (path, rest) ← keys? s.length s
    let rest := skipSpaces (← after? '=' rest)
    let (value, rest) ← value? (2 * rest.length + 2) rest
    some (.entry path value, rest)

def statements? : Nat → Draft → List Char → Option Draft
  | 0, _, _ => none
  | fuel + 1, draft, s => do
    match ← skipBlanks false s with
    | [] => some draft
    | s => do
      let (statement, rest) ← statement? s
      statements? fuel (← draft.add statement) (← endLine? rest)

def dropMark : List Char → List Char
  | c :: rest => if c.toNat = 0xFEFF then rest else c :: rest
  | [] => []

def read? (text : String) : Option Entries :=
  let s := dropMark text.toList
  (statements? (s.length + 1) ⟨[], []⟩ s).map Draft.entries

end Changelog.Toml
