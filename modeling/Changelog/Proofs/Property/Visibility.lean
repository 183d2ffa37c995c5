import Changelog.Property.Table

/-!
# Bindings in sight

A look-up goes over the bindings that its document sees in its run, and over no others.  What leaves these
as they are, in their order, leaves every look-up and every expansion as it is.
-/

namespace Changelog

namespace PropertyTable

/-- The bindings that are seen from a document of a run, in the order they were made. -/
def seen (table : PropertyTable) (document : String) (scope : Scope) : List Binding :=
  table.bindings.filter (visible document scope)

theorem lookup_eq_seen (table : PropertyTable) (name document : String) (scope : Scope) :
    table.lookup name document scope =
      ((table.seen document scope).find? fun b => b.name == name).map Binding.value := by
  rw [lookup, seen, List.find?_filter]
  simp only [Bool.and_comm, Bool.decide_and, Bool.decide_eq_true]

theorem visible_eq_false_iff {document : String} {scope : Scope} {binding : Binding} :
    visible document scope binding = false ↔
      (binding.global = false ∧ binding.sourceDocument ≠ document) ∨ scope.admits binding = false := by
  rw [visible, Bool.and_eq_false_iff, Bool.or_eq_false_iff, beq_eq_false_iff_ne]

theorem seen_insert {document : String} {scope : Scope} {binding : Binding}
    (h : visible document scope binding = false) (before after : List Binding) :
    seen ⟨before ++ binding :: after⟩ document scope = seen ⟨before ++ after⟩ document scope := by
  simp only [seen, List.filter_append]
  rw [List.filter_cons_of_neg (by simp [h])]

theorem seen_of_global {table : PropertyTable} (h : ∀ b ∈ table.bindings, b.global = true)
    (document other : String) (scope : Scope) : table.seen document scope = table.seen other scope := by
  refine List.filter_congr fun b hb => ?_
  simp only [visible, h b hb, Bool.true_or]

end PropertyTable

namespace Expander

variable {own other : Expander}

theorem text_of_lookup
    (h : ∀ name, own.table.lookup name own.document own.scope =
      other.table.lookup name other.document other.scope) : own.text = other.text := by
  have hvalue : own.value? = other.value? := funext h
  funext s
  rw [text, text, hvalue]

theorem text_of_seen
    (h : own.table.seen own.document own.scope = other.table.seen other.document other.scope) :
    own.text = other.text := by
  refine text_of_lookup fun name => ?_
  rw [PropertyTable.lookup_eq_seen, PropertyTable.lookup_eq_seen, h]

theorem value_of_text (h : own.text = other.text) : own.value = other.value := by
  funext v
  rw [value, value, h]

theorem attributes_of_text (h : own.text = other.text) : own.attributes = other.attributes := by
  funext a
  rw [attributes, attributes, value_of_text h]

end Expander

end Changelog
