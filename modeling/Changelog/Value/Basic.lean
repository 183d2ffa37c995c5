import Changelog.Decimal.Style

namespace Changelog

/-- A value as written: its kind is kept until an element asks for one of its own. -/
inductive Value
  | null
  | bool (b : Bool)
  | int (i : Int64)
  | float (x : Float)
  | string (s : String)
  | list (items : List Value)
deriving Inhabited

namespace Value

/-- Shown numbers have no exponent and no `.0`; of two equally short texts the greater is taken. -/
def numberStyle : Decimal.Style where
  positional := fun _ => true
  pointZero := false
  tie := .up
  nan := "NaN"
  infinity := "inf"
  negativeInfinity := "-inf"

mutual

def display : Value → String
  | .null => "null"
  | .bool b => if b then "true" else "false"
  | .int i => toString i.toInt
  | .float x => numberStyle.text x
  | .string s => s
  | .list items => "[" ++ displayItems items ++ "]"

def displayItems : List Value → String
  | [] => ""
  | [v] => display v
  | v :: w :: rest => display v ++ ", " ++ displayItems (w :: rest)

end

def string? : Value → Option String
  | .string s => some s
  | _ => none

def isNull : Value → Bool
  | .null => true
  | _ => false

theorem string?_eq_some {v : Value} {s : String} (h : v.string? = some s) : v = .string s := by
  cases v <;> simp_all [string?]

end Value

end Changelog
