import Changelog.Proofs.Property.Visibility

/-!
# Selections that mean the same

What a run is made for is given by lists of names.  Their order, repetitions and the case of their letters
do not decide which bindings apply.
-/

namespace Changelog

namespace Text

def lowered (s : String) : List Char := asciiLower s.toList

theorem sameIgnoringCase_eq_decide (s t : String) :
    sameIgnoringCase s t = decide (lowered s = lowered t) := by
  rw [Bool.eq_iff_iff, sameIgnoringCase_iff, decide_eq_true_iff]
  rfl

end Text

namespace Scope

def SameNames (a b : List String) : Prop :=
  ∀ name, name ∈ a.map Text.lowered ↔ name ∈ b.map Text.lowered

structure Same (a b : Scope) : Prop where
  contexts : SameNames a.contexts b.contexts
  labels : SameNames a.labels b.labels
  database : a.database.map Text.lowered = b.database.map Text.lowered

theorem isEmpty_of_sameNames {a b : List String} (h : SameNames a b) : a.isEmpty = b.isEmpty := by
  cases a with
  | nil =>
    cases b with
    | nil => rfl
    | cons s rest => exact absurd ((h _).2 (List.mem_cons_self ..)) List.not_mem_nil
  | cons s rest =>
    cases b with
    | nil => exact absurd ((h _).1 (List.mem_cons_self ..)) List.not_mem_nil
    | cons t others => rfl

theorem any_of_sameNames {a b : List String} (h : SameNames a b) (d : String) :
    (a.any fun s => Text.sameIgnoringCase s d) = b.any fun s => Text.sameIgnoringCase s d := by
  have hmem : ∀ names : List String, (names.any fun s => Text.sameIgnoringCase s d) = true ↔
      Text.lowered d ∈ names.map Text.lowered := by
    intro names
    simp only [List.any_eq_true, Text.sameIgnoringCase_eq_decide, decide_eq_true_eq, List.mem_map]
  rw [Bool.eq_iff_iff, hmem, hmem]
  exact h _

theorem overlaps_of_sameNames {a b : List String} (h : SameNames a b) (declared : Option String) :
    overlaps declared a = overlaps declared b := by
  cases declared with
  | none => rfl
  | some text =>
    unfold overlaps
    simp only [isEmpty_of_sameNames h, any_of_sameNames h]

theorem allows_of_lowered {database other : String} (h : Text.lowered database = Text.lowered other)
    (items : List DatabaseItem) (named : Bool) :
    allows database named items = allows other named items := by
  have hname : ∀ name, Text.sameIgnoringCase name database = Text.sameIgnoringCase name other := by
    intro name
    rw [Text.sameIgnoringCase_eq_decide, Text.sameIgnoringCase_eq_decide, h]
  induction items generalizing named with
  | nil => rfl
  | cons item rest ih =>
    cases item with
    | only name => rw [allows, allows, hname, ih]
    | except name => rw [allows, allows, hname, ih]

theorem databaseMatches_of_lowered {database other : Option String}
    (h : database.map Text.lowered = other.map Text.lowered) (declared : Option String) :
    databaseMatches declared database = databaseMatches declared other := by
  cases database with
  | none =>
    obtain rfl : other = none := Option.map_eq_none_iff.1 h.symm
    rfl
  | some name =>
    obtain ⟨name', rfl, hname⟩ := Option.map_eq_some_iff.1 h.symm
    cases declared with
    | none => rfl
    | some items => exact allows_of_lowered hname.symm _ _

theorem admits_of_same {a b : Scope} (h : a.Same b) (binding : Binding) :
    a.admits binding = b.admits binding := by
  rw [admits, admits, overlaps_of_sameNames h.contexts, overlaps_of_sameNames h.labels,
    databaseMatches_of_lowered h.database]

theorem seen_of_same {a b : Scope} (h : a.Same b) (table : PropertyTable) (document : String) :
    table.seen document a = table.seen document b := by
  refine List.filter_congr fun binding _ => ?_
  rw [PropertyTable.visible, PropertyTable.visible, admits_of_same h]

end Scope

end Changelog
