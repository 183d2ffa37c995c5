import Changelog.Property.Binding
import Changelog.Text.CommaList
import Changelog.Text.AsciiCase

/-!
# The scope of a run

A run is made for some contexts, labels and a database.  A binding that declares others does not apply;
what is not declared, or not selected, fits all.
-/

namespace Changelog

/-- What a run is made for. -/
structure Scope where
  contexts : List String
  labels : List String
  database : Option String
deriving DecidableEq, Repr

namespace Scope

def any : Scope := ⟨[], [], none⟩

/-- Whether a declared comma list and a selection have a member in common, up to the case of letters;
where one of them is empty they do. -/
def overlaps (declared : Option String) (active : List String) : Bool :=
  match declared with
  | none => true
  | some text =>
    active.isEmpty || (Text.splitItems text).isEmpty ||
      (Text.splitItems text).any fun d => active.any fun a => Text.sameIgnoringCase a d

inductive DatabaseItem
  | only (name : String)
  | except (name : String)
deriving DecidableEq, Repr

/-- An item that begins with `!` excludes the database it names. -/
def DatabaseItem.ofChars : List Char → DatabaseItem
  | '!' :: rest => .except (String.ofList (Text.trim rest))
  | item => .only (String.ofList item)

def databaseItems (declared : String) : List DatabaseItem :=
  (Text.commaItems declared.toList).map DatabaseItem.ofChars

/-- Whether the items, read in order, let a database in: the first that names it decides, `all` names
every database, and where none does a list of exclusions only lets it in. -/
def allows (database : String) : Bool → List DatabaseItem → Bool
  | named, [] => !named
  | named, .except name :: rest =>
    if Text.sameIgnoringCase name database then false else allows database named rest
  | _, .only name :: rest =>
    if Text.sameIgnoringCase name database || Text.sameIgnoringCase name "all" then true
    else allows database true rest

def databaseMatches (declared : Option String) (database : Option String) : Bool :=
  match declared, database with
  | some items, some name => allows name false (databaseItems items)
  | _, _ => true

def admits (scope : Scope) (binding : Binding) : Bool :=
  overlaps binding.context scope.contexts && overlaps binding.labels scope.labels &&
    databaseMatches binding.dbms scope.database

end Scope

end Changelog
