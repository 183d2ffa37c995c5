import Changelog.Property.Scope
import Changelog.Property.Expansion

/-!
# The property table

Bindings are kept in the order they are made, and of those that apply the first one counts: a property
does not change once it is set.
-/

namespace Changelog

/-- The bindings of a run, in the order they were made. -/
structure PropertyTable where
  bindings : List Binding
deriving DecidableEq

namespace PropertyTable

def empty : PropertyTable := ⟨[]⟩

def define (table : PropertyTable) (binding : Binding) : PropertyTable :=
  ⟨table.bindings ++ [binding]⟩

def defineAll (table : PropertyTable) (bindings : List Binding) : PropertyTable :=
  ⟨table.bindings ++ bindings⟩

def visible (document : String) (scope : Scope) (binding : Binding) : Bool :=
  (binding.global || binding.sourceDocument == document) && scope.admits binding

def lookup (table : PropertyTable) (name document : String) (scope : Scope) : Option String :=
  (table.bindings.find? fun b => b.name == name && visible document scope b).map Binding.value

theorem lookup_defineAll_of_some {table : PropertyTable} {name document value : String} {scope : Scope}
    (more : List Binding) (h : table.lookup name document scope = some value) :
    (table.defineAll more).lookup name document scope = some value := by
  obtain ⟨b, hb, rfl⟩ := Option.map_eq_some_iff.1 h
  simp [lookup, defineAll, List.find?_append, hb]

end PropertyTable

/-- A table as seen from one document of a run: what texts are expanded with. -/
structure Expander where
  table : PropertyTable
  document : String
  scope : Scope

namespace Expander

def value? (e : Expander) (name : String) : Option String := e.table.lookup name e.document e.scope

def text (e : Expander) (s : String) : String := Expansion.expandText e.value? s

def value (e : Expander) (v : Value) : Value := Expansion.mapStrings e.text v

def attributes (e : Expander) (a : Attributes) : Attributes := a.mapValues e.value

end Expander

end Changelog
