import Changelog.Value.Attributes

namespace Changelog

structure Element where
  name : String
  attributes : Attributes
  /-- The unnamed values, such as the SQL of `sql "..."`. -/
  args : List Value
  children : List Element
  /-- The line the element begins on, counted from one; zero for an element not read from text. -/
  line : Nat
deriving Inhabited

namespace Element

def text? (e : Element) : Option String := e.args.head?.bind Value.string?

end Element

end Changelog
