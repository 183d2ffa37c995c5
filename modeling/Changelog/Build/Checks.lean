import Changelog.Error
import Changelog.Document.Choice
import Changelog.Value.Coercion

/-!
# Checks on elements

What every element is asked before it is taken into a document: that it has only attributes it knows,
that it has no positional values if it takes none, and that required and chosen values are there.
-/

namespace Changelog.Build

def checkAttributes (element : String) (attributes : Attributes) (allowed : List String)
    (context : String) : Except ChangelogError Unit :=
  match attributes.keys.find? fun key => !allowed.contains key with
  | some key => .error (.unknownAttribute element key context)
  | none => .ok ()

def rejectRenamed (element : String) (attributes : Attributes) (old replacement context : String) :
    Except ChangelogError Unit :=
  if attributes.contains old then .error (.renamedAttribute element old replacement context)
  else .ok ()

def rejectPositional (element : String) (args : List Value) (context : String) :
    Except ChangelogError Unit :=
  if args.isEmpty then .ok () else .error (.invalidValue (.positional element) context)

def choice (α : Type) [Named α] (key : String) (value : Value) (context : String) :
    Except ChangelogError α :=
  match Named.ofName? (α := α) value.display with
  | some a => .ok a
  | none => .error (.invalidChoice key value.display (Named.nameList α) context)

def optionalChoice (α : Type) [Named α] (attributes : Attributes) (key context : String) :
    Except ChangelogError (Option α) :=
  match attributes.get? key with
  | none => .ok none
  | some .null => .ok none
  | some value => (choice α key value context).map some

def textOf? (attributes : Attributes) (key : String) : Option String :=
  (attributes.get? key).bind Value.text?

def truthOf (attributes : Attributes) (key : String) (default : Bool) : Bool :=
  Value.truth (attributes.get? key) default

def namesOf (attributes : Attributes) (key : String) : List String :=
  match attributes.get? key with
  | some value => value.names
  | none => []

def requiredText (attributes : Attributes) (element key context : String) :
    Except ChangelogError String :=
  match textOf? attributes key with
  | some text => .ok text
  | none => .error (.missingAttribute element key context)

theorem checkAttributes_eq_ok_iff (element : String) (attributes : Attributes)
    (allowed : List String) (context : String) :
    checkAttributes element attributes allowed context = .ok () ↔
      ∀ key ∈ attributes.keys, key ∈ allowed := by
  unfold checkAttributes
  split
  · next key h =>
    have hp := List.find?_some h
    have hm := List.mem_of_find?_eq_some h
    simp only [reduceCtorEq, false_iff]
    intro hall
    have := hall key hm
    simp_all
  · next h =>
    rw [List.find?_eq_none] at h
    simp only [true_iff]
    intro key hk
    have := h key hk
    simpa using this

end Changelog.Build
