import Changelog.Proofs.Document.Writing

/-!
# The schema

What the schema asks of a document, whichever files its change sets come from: names that are allowed and
distinct, and parts on the kinds that take them.
-/

namespace Changelog

/-- Names that are distinct and allowed. -/
structure Attributes.Follow (a : Attributes) (allowed : List String) : Prop where
  distinct : a.keys.Nodup
  within : a.Within allowed

theorem Attributes.Within.follow {a : Attributes} {allowed : List String} (h : a.Within allowed) :
    a.Follow allowed :=
  ⟨a.keys_nodup, h⟩

structure Column.Valid (kind : ChangeKind) (c : Column) : Prop where
  attributes : c.attributes.Follow kind.columnAttributes
  constraints : ∀ a ∈ c.constraints, a.Follow constraintAttributes

structure Change.Valid (c : Change) : Prop where
  attributes : c.attributes.Follow c.kind.attributes
  columns : c.columns ≠ [] →
    c.kind ∈ [.createTable, .addColumn, .createIndex, .dropColumn, .insert, .update, .loadData,
      .loadUpdateData]
  column : ∀ column ∈ c.columns, column.Valid c.kind
  condition : c.condition.isSome = true → c.kind = .update ∨ c.kind = .delete
  params : c.params ≠ [] → c.kind = .customChange
  args : c.args ≠ [] → c.kind = .executeCommand
  comment : c.comment.isSome = true → c.kind = .sql
  text : c.text.isSome = true → c.kind ∈ [.sql, .createProcedure, .createView, .stop, .output]

structure Check.Valid (c : Check) : Prop where
  attributes : c.attributes.Follow c.kind.attributes
  sql : c.sql.isSome = true ↔ c.kind = .sqlCheck
  params : c.params ≠ [] → c.kind = .customPrecondition

/-- The checks of a container are valid at every depth; combinations have neither attributes nor texts. -/
def Preconditions.Valid (p : Preconditions) : Prop :=
  ∀ c ∈ Precondition.checksOfAll p.nested, c.Valid

theorem Precondition.checksOfAll_append (ps more : List Precondition) :
    checksOfAll (ps ++ more) = checksOfAll ps ++ checksOfAll more := by
  induction ps with
  | nil => rfl
  | cons p rest ih => rw [List.cons_append, checksOfAll, ih, checksOfAll, List.append_assoc]

structure ChangeSet.Valid (c : ChangeSet) : Prop where
  dbms : ∀ s ∈ c.dbms, IsItem s
  labels : ∀ s ∈ c.labels, IsItem s
  preconditions : ∀ p ∈ c.preconditions, p.Valid
  changes : ∀ change ∈ c.changes, change.Valid
  rollback : ∀ change ∈ c.rollback, change.Valid
  sqlAdjustments : ∀ a ∈ c.sqlAdjustments, a.Fits

structure Document.Valid (d : Document) : Prop where
  preconditions : ∀ p ∈ d.preconditions, p.Valid
  changeSets : ∀ c ∈ d.changeSets, c.Valid

theorem ChangeKind.mem_of_takesColumns {kind : ChangeKind} (h : kind.takesColumns = true) :
    kind ∈ [.createTable, .addColumn, .createIndex, .dropColumn, .insert, .update, .loadData,
      .loadUpdateData] := by
  have hall : ∀ k ∈ ChangeKind.all, k.takesColumns = true →
      k ∈ [.createTable, .addColumn, .createIndex, .dropColumn, .insert, .update, .loadData,
        .loadUpdateData] := by
    decide
  exact hall kind kind.mem_all h

theorem ChangeKind.eq_of_takesCondition {kind : ChangeKind} (h : kind.takesCondition = true) :
    kind = .update ∨ kind = .delete := by
  have hall : ∀ k ∈ ChangeKind.all, k.takesCondition = true → k = .update ∨ k = .delete := by
    decide
  exact hall kind kind.mem_all h

theorem ChangeKind.mem_of_takesText {kind : ChangeKind} (h : kind.takesText = true) :
    kind ∈ [.sql, .createProcedure, .createView, .stop, .output] := by
  have hall : ∀ k ∈ ChangeKind.all, k.takesText = true →
      k ∈ [.sql, .createProcedure, .createView, .stop, .output] := by
    decide
  exact hall kind kind.mem_all h

theorem Change.Fits.valid {c : Change} (h : c.Fits) : c.Valid where
  attributes := h.attributes.follow
  columns := by
    intro hne
    obtain ⟨column, hcolumn⟩ := List.exists_mem_of_ne_nil _ hne
    exact ChangeKind.mem_of_takesColumns (h.columns column hcolumn).1
  column := by
    intro column hcolumn
    have hfits := (h.columns column hcolumn).2
    exact ⟨hfits.attributes.follow, fun a ha => (hfits.constraints a ha).follow⟩
  condition := by
    intro hsome
    obtain ⟨t, ht⟩ := Option.isSome_iff_exists.1 hsome
    exact ChangeKind.eq_of_takesCondition (h.condition t ht)
  params := by
    intro hne
    obtain ⟨p, hp⟩ := List.exists_mem_of_ne_nil _ hne
    exact beq_iff_eq.1 (h.params p hp)
  args := by
    intro hne
    obtain ⟨a, ha⟩ := List.exists_mem_of_ne_nil _ hne
    exact beq_iff_eq.1 (h.args a ha)
  comment := by
    intro hsome
    obtain ⟨t, ht⟩ := Option.isSome_iff_exists.1 hsome
    exact beq_iff_eq.1 (h.comment t ht)
  text := by
    intro hsome
    obtain ⟨t, ht⟩ := Option.isSome_iff_exists.1 hsome
    exact ChangeKind.mem_of_takesText (h.text t ht)

theorem Check.Fits.valid {c : Check} (h : c.Fits) : c.Valid where
  attributes := h.attributes.follow
  sql := h.sql
  params := by
    intro hne
    obtain ⟨p, hp⟩ := List.exists_mem_of_ne_nil _ hne
    exact h.params p hp

end Changelog
