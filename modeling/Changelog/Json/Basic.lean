import Changelog.Json.Quoted
import Changelog.Value.Attributes

/-!
# JSON texts

A JSON value with its members in order, and its two layouts: on one line, and indented by two spaces a
level.  A number that is not finite is written as `null`.
-/

namespace Changelog

/-- A JSON value; the members of an object keep their order. -/
inductive Json
  | null
  | bool (b : Bool)
  | int (i : Int)
  | float (x : Float)
  | string (s : String)
  | array (items : List Json)
  | object (members : List (String × Json))
deriving Inhabited

namespace Json

/-- Numbers always show a point or an exponent, and an exponent from 1e16 on and below 1e-5. -/
def numberStyle : Decimal.Style where
  positional := fun leading => -5 ≤ leading && leading < 16
  pointZero := true
  tie := .toEven
  nan := "null"
  infinity := "null"
  negativeInfinity := "null"

def enclosed (first last : Char) (texts : List (List Char)) : List Char :=
  first :: [','].intercalate texts ++ [last]

mutual

def compactChars : Json → List Char
  | .null => "null".toList
  | .bool true => "true".toList
  | .bool false => "false".toList
  | .int i => (toString i).toList
  | .float x => (numberStyle.text x).toList
  | .string s => quote s.toList
  | .array items => enclosed '[' ']' (compactItems items)
  | .object members => enclosed '\x7b' '\x7d' (compactMembers members)

def compactItems : List Json → List (List Char)
  | [] => []
  | v :: rest => compactChars v :: compactItems rest

def compactMembers : List (String × Json) → List (List Char)
  | [] => []
  | (key, v) :: rest => (quote key.toList ++ ':' :: compactChars v) :: compactMembers rest

end

def compact (v : Json) : String := String.ofList v.compactChars

def newLine (depth : Nat) : List Char := '\n' :: List.replicate (2 * depth) ' '

/-- Texts between two brackets, each on a line of its own one level deeper. -/
def indented (depth : Nat) (first last : Char) : List (List Char) → List Char
  | [] => [first, last]
  | texts =>
    first :: newLine (depth + 1) ++ (',' :: newLine (depth + 1)).intercalate texts ++
      newLine depth ++ [last]

mutual

def prettyChars (depth : Nat) : Json → List Char
  | .null => "null".toList
  | .bool true => "true".toList
  | .bool false => "false".toList
  | .int i => (toString i).toList
  | .float x => (numberStyle.text x).toList
  | .string s => quote s.toList
  | .array items => indented depth '[' ']' (prettyItems (depth + 1) items)
  | .object members => indented depth '\x7b' '\x7d' (prettyMembers (depth + 1) members)

def prettyItems (depth : Nat) : List Json → List (List Char)
  | [] => []
  | v :: rest => prettyChars depth v :: prettyItems depth rest

def prettyMembers (depth : Nat) : List (String × Json) → List (List Char)
  | [] => []
  | (key, v) :: rest =>
    (quote key.toList ++ ':' :: ' ' :: prettyChars depth v) :: prettyMembers depth rest

end

def pretty (v : Json) : String := String.ofList (v.prettyChars 0)

mutual

def ofValue : Value → Json
  | .null => .null
  | .bool b => .bool b
  | .int i => .int i.toInt
  | .float x => .float x
  | .string s => .string s
  | .list items => .array (ofValues items)

def ofValues : List Value → List Json
  | [] => []
  | v :: rest => ofValue v :: ofValues rest

end

def ofAttributes (a : Attributes) : Json := .object (a.entries.map fun e => (e.1, ofValue e.2))

end Json

end Changelog
