import Changelog.Proofs.Build.Lines
import Changelog.Proofs.Property.Visibility

/-!
# Hidden bindings

A binding that a document does not see has no part in what is built in that document: no text is expanded
otherwise, and no change set or container of preconditions comes out otherwise or is refused otherwise.
-/

namespace Changelog.Build

/-- What is looked up, expanded and built in a document is the same with another table. -/
structure Unchanged (own other : Expander) : Prop where
  lookup : ∀ name, other.value? name = own.value? name
  text : ∀ s, other.text s = own.text s
  value : ∀ v, other.value v = own.value v
  attributes : ∀ a, other.attributes a = own.attributes a
  changeSet : ∀ d e, changeSet other d e = changeSet own d e
  container : ∀ context e, container ⟨other, context⟩ e = container ⟨own, context⟩ e

theorem unchanged_of_seen {own other : Expander}
    (h : own.table.seen own.document own.scope = other.table.seen other.document other.scope) :
    Unchanged own other := by
  have htext : own.text = other.text := Expander.text_of_seen h
  constructor
  · intro name
    rw [Expander.value?, Expander.value?, PropertyTable.lookup_eq_seen, PropertyTable.lookup_eq_seen, h]
  · intro s
    rw [htext]
  · intro v
    rw [Expander.value_of_text htext]
  · intro a
    rw [Expander.attributes_of_text htext]
  · intro d e
    exact changeSet_of_lines htext rfl d
  · intro context e
    exact container_of_lines htext rfl rfl

/-- A local binding of another document, or one that does not apply in the run, changes nothing wherever in
the table it is put, not even before a binding of the same name that is seen; no other binding is so. -/
theorem hidden_iff_unchanged (document : String) (scope : Scope) (binding : Binding) :
    ((binding.global = false ∧ binding.sourceDocument ≠ document) ∨ scope.admits binding = false) ↔
      ∀ before after : List Binding, Unchanged ⟨⟨before ++ after⟩, document, scope⟩
        ⟨⟨before ++ binding :: after⟩, document, scope⟩ := by
  rw [← PropertyTable.visible_eq_false_iff]
  constructor
  · intro h before after
    exact unchanged_of_seen (PropertyTable.seen_insert h before after).symm
  · intro h
    have hlookup := (h [] []).lookup binding.name
    have hnone : Expander.value? ⟨⟨[]⟩, document, scope⟩ binding.name = none := rfl
    rw [List.nil_append, List.nil_append, hnone] at hlookup
    by_contra hseen
    simp [Expander.value?, PropertyTable.lookup, hseen] at hlookup

def foreignTable : Binding := ⟨"table", "users", none, none, none, false, "other"⟩

def ownTable : Binding := ⟨"table", "orders", none, none, none, true, "main"⟩

def dropElement : Element where
  name := "changeSet"
  attributes := .ofList [("id", .string "drop-$\x7btable\x7d")]
  args := []
  children := [
    { name := "dropTable", attributes := .ofList [("tableName", .string "$\x7btable\x7d")], args := []
      children := [], line := 2 }]
  line := 1

theorem hidden_iff_unchanged_foreignTable :
    (foreignTable.global = false ∧ foreignTable.sourceDocument ≠ "main") ∧
    ∃ c, changeSet ⟨⟨[ownTable]⟩, "main", .any⟩ (.ofPath "main") dropElement = .ok c ∧
      changeSet ⟨⟨[foreignTable, ownTable]⟩, "main", .any⟩ (.ofPath "main") dropElement = .ok c ∧
      c.id = "drop-orders" := by
  have hhidden : foreignTable.global = false ∧ foreignTable.sourceDocument ≠ "main" := by decide
  have hbuilt : ∃ c, changeSet ⟨⟨[ownTable]⟩, "main", .any⟩ (.ofPath "main") dropElement = .ok c ∧
      c.id = "drop-orders" := by
    with_unfolding_all exact ⟨_, rfl, rfl⟩
  obtain ⟨c, hc, hid⟩ := hbuilt
  have hunchanged := (hidden_iff_unchanged "main" .any foreignTable).1 (.inl hhidden) [] [ownTable]
  exact ⟨hhidden, c, hc, (hunchanged.changeSet _ _).trans hc, hid⟩

end Changelog.Build
