import Changelog.Value.Basic
import Changelog.Text.CommaList
import Changelog.Text.AsciiCase

/-!
# What a value is taken for

An element that wants a truth value, a text or a list of names accepts any value; the rules are the same
for all elements.
-/

namespace Changelog.Value

def truthWords : List String := ["1", "y", "true"]

/-- The truth of a value: a missing or null one has the default, a number is false when it is zero, a
string is true when it is a truth word, and a list is false. -/
def truth (value : Option Value) (default : Bool) : Bool :=
  match value with
  | none => default
  | some .null => default
  | some (.bool b) => b
  | some (.int i) => i != 0
  | some (.float x) => x != 0.0
  | some (.string s) => truthWords.any (Text.sameIgnoringCase s ·)
  | some (.list _) => false

/-- The text of a value; `null` has none. -/
def text? : Value → Option String
  | .null => none
  | v => some v.display

mutual

/-- The names that a value lists: the items of its text, and for a list those of its members. -/
def names : Value → List String
  | .null => []
  | .list items => namesAll items
  | v => Text.splitItems v.display

def namesAll : List Value → List String
  | [] => []
  | v :: rest => names v ++ namesAll rest

end

@[simp] theorem text?_string (s : String) : text? (.string s) = some s := by
  simp [text?, display]

theorem text?_eq_none_iff (v : Value) : v.text? = none ↔ v = .null := by
  cases v <;> simp [text?]

end Changelog.Value
