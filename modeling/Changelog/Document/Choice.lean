/-!
# Named choices

A kind of element, or an option with a fixed set of answers, is known by name.  The names are matched
exactly.
-/

namespace Changelog

class Named (α : Type) where
  /-- The members, in the order they are listed to the user. -/
  all : List α
  name : α → String

namespace Named

variable {α : Type} [Named α]

/-- The member with exactly the given name. -/
def ofName? (text : String) : Option α := (Named.all (α := α)).find? fun a => Named.name a == text

def nameList (α : Type) [Named α] : String :=
  ", ".intercalate ((Named.all (α := α)).map Named.name)

theorem name_of_ofName? {text : String} {a : α} (h : ofName? text = some a) : Named.name a = text := by
  simpa using List.find?_some h

end Named

end Changelog
