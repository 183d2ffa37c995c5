import Changelog.Property.Scope
import Changelog.Proofs.Text.CommaList

/-!
# Lists of databases

A list of databases says which ones it lets in and which it keeps out.  It is read in order, and the first
item that says something of the database of a run decides, so that its order counts where one item lets the
database in and another keeps it out.
-/

namespace Changelog.Scope

namespace DatabaseItem

/-- An item lets a database in that it names, and `all` lets in every one. -/
def Includes (database : String) : DatabaseItem → Prop
  | .only name => Text.sameIgnoringCase name database = true ∨ Text.sameIgnoringCase name "all" = true
  | .except _ => False

def Excludes (database : String) : DatabaseItem → Prop
  | .only _ => False
  | .except name => Text.sameIgnoringCase name database = true

def IsException : DatabaseItem → Prop
  | .only _ => False
  | .except _ => True

theorem not_excludes_of_includes {database : String} {item : DatabaseItem} (h : item.Includes database) :
    ¬item.Excludes database := by
  cases item with
  | only name => exact not_false
  | except name => exact absurd h not_false

end DatabaseItem

/-- What a list says as a set: it lets a database in that no item keeps out, if some item lets it in or
all of them are exceptions. -/
def LetsIn (database : String) (items : List DatabaseItem) : Prop :=
  (∀ item ∈ items, ¬item.Excludes database) ∧
    ((∃ item ∈ items, item.Includes database) ∨ ∀ item ∈ items, item.IsException)

def Contradicts (database : String) (items : List DatabaseItem) : Prop :=
  (∃ item ∈ items, item.Includes database) ∧ ∃ item ∈ items, item.Excludes database

def IncludedFirst (database : String) (items : List DatabaseItem) : Prop :=
  ∃ before item after, items = before ++ item :: after ∧ item.Includes database ∧
    ∀ other ∈ before, ¬other.Excludes database

def ExcludedLate (database : String) (items : List DatabaseItem) : Prop :=
  IncludedFirst database items ∧ ∃ item ∈ items, item.Excludes database

section Items

variable {database : String} {items others : List DatabaseItem}

theorem letsIn_of_perm (h : items.Perm others) : LetsIn database items ↔ LetsIn database others := by
  simp only [LetsIn, h.mem_iff]

theorem contradicts_of_perm (h : items.Perm others) :
    Contradicts database items ↔ Contradicts database others := by
  simp only [Contradicts, h.mem_iff]

theorem IncludedFirst.exists_includes (h : IncludedFirst database items) :
    ∃ item ∈ items, item.Includes database := by
  obtain ⟨before, item, after, rfl, hitem, -⟩ := h
  exact ⟨item, List.mem_append_right _ (List.mem_cons_self ..), hitem⟩

theorem ExcludedLate.contradicts (h : ExcludedLate database items) : Contradicts database items :=
  ⟨h.1.exists_includes, h.2⟩

theorem includedFirst_cons (item : DatabaseItem) :
    IncludedFirst database (item :: items) ↔
      item.Includes database ∨ ¬item.Excludes database ∧ IncludedFirst database items := by
  constructor
  · rintro ⟨before, decisive, after, heq, hincludes, hbefore⟩
    cases before with
    | nil =>
      obtain ⟨rfl, rfl⟩ := List.cons.inj heq
      exact .inl hincludes
    | cons first before =>
      obtain ⟨rfl, rfl⟩ := List.cons.inj heq
      exact .inr ⟨hbefore item (List.mem_cons_self ..), before, decisive, after, rfl, hincludes,
        fun other hother => hbefore other (List.mem_cons_of_mem _ hother)⟩
  · rintro (hincludes | ⟨hitem, before, decisive, after, rfl, hincludes, hbefore⟩)
    · exact ⟨[], item, items, rfl, hincludes, nofun⟩
    · exact ⟨item :: before, decisive, after, rfl, hincludes, List.forall_mem_cons.2 ⟨hitem, hbefore⟩⟩

theorem includedFirst_of_not_excluded (hnone : ∀ item ∈ items, ¬item.Excludes database)
    (hsome : ∃ item ∈ items, item.Includes database) : IncludedFirst database items := by
  obtain ⟨item, hmem, hitem⟩ := hsome
  obtain ⟨before, after, rfl⟩ := List.append_of_mem hmem
  exact ⟨before, item, after, rfl, hitem, fun other hother => hnone other (List.mem_append_left _ hother)⟩

/-! ### Reading in order -/

/-- `named` says whether an item that is no exception has been read before. -/
theorem allows_iff (named : Bool) :
    allows database named items = true ↔
      IncludedFirst database items ∨
        named = false ∧ (∀ item ∈ items, ¬item.Excludes database) ∧ ∀ item ∈ items, item.IsException := by
  induction items generalizing named with
  | nil =>
    have hempty : ¬IncludedFirst database [] := by
      rintro ⟨before, item, after, heq, -⟩
      exact absurd heq.symm (by simp)
    simp [allows, hempty]
  | cons item rest ih =>
    rw [includedFirst_cons]
    cases item with
    | only name =>
      rw [allows]
      by_cases hname : (Text.sameIgnoringCase name database || Text.sameIgnoringCase name "all") = true
      · have hincludes : (DatabaseItem.only name).Includes database := by
          simpa [DatabaseItem.Includes] using hname
        simp [hname, hincludes]
      · have hincludes : ¬(DatabaseItem.only name).Includes database := by
          simpa [DatabaseItem.Includes] using hname
        rw [if_neg hname, ih true]
        simp [hincludes, DatabaseItem.Excludes, DatabaseItem.IsException]
    | except name =>
      rw [allows]
      by_cases hname : Text.sameIgnoringCase name database = true
      · simp [hname, DatabaseItem.Includes, DatabaseItem.Excludes]
      · rw [if_neg hname, ih named]
        simp [hname, DatabaseItem.Includes, DatabaseItem.Excludes, DatabaseItem.IsException]

/-- Reading in order gives what the list says as a set, unless an exception comes too late. -/
theorem allows_iff_letsIn :
    (allows database false items = true ↔ LetsIn database items) ↔ ¬ExcludedLate database items := by
  rw [allows_iff]
  constructor
  · rintro h ⟨hfirst, item, hitem, hexcludes⟩
    exact (h.1 (.inl hfirst)).1 item hitem hexcludes
  · intro hlate
    constructor
    · rintro (hfirst | ⟨-, hnone, hall⟩)
      · have hnone : ∀ item ∈ items, ¬item.Excludes database := fun item hitem hexcludes =>
          hlate ⟨hfirst, item, hitem, hexcludes⟩
        exact ⟨hnone, .inl hfirst.exists_includes⟩
      · exact ⟨hnone, .inr hall⟩
    · rintro ⟨hnone, hsome | hall⟩
      · exact .inl (includedFirst_of_not_excluded hnone hsome)
      · exact .inr ⟨rfl, hnone, hall⟩

theorem allows_of_perm (hclear : ¬Contradicts database items) (h : items.Perm others) :
    allows database false items = allows database false others := by
  have hclear' : ¬Contradicts database others := (contradicts_of_perm h).not.1 hclear
  rw [Bool.eq_iff_iff, allows_iff_letsIn.2 fun hlate => hclear hlate.contradicts,
    allows_iff_letsIn.2 fun hlate => hclear' hlate.contradicts]
  exact letsIn_of_perm h

theorem allows_cons_of_includes {item : DatabaseItem} (h : item.Includes database)
    (rest : List DatabaseItem) : allows database false (item :: rest) = true :=
  (allows_iff false).2 (.inl ((includedFirst_cons item).2 (.inl h)))

theorem allows_cons_of_excludes {item : DatabaseItem} (h : item.Excludes database)
    (rest : List DatabaseItem) : allows database false (item :: rest) = false := by
  rw [← Bool.not_eq_true, allows_iff, includedFirst_cons]
  rintro ((hincludes | ⟨hexcludes, -⟩) | ⟨-, hnone, -⟩)
  · exact DatabaseItem.not_excludes_of_includes hincludes h
  · exact hexcludes h
  · exact hnone item (List.mem_cons_self ..) h

end Items

/-- The same items in another order; the blanks beside the commas are no part of an item. -/
def Reordered (declared other : String) : Prop :=
  (Text.commaItems declared.toList).Perm (Text.commaItems other.toList)

instance (declared other : String) : Decidable (Reordered declared other) :=
  inferInstanceAs (Decidable (List.Perm _ _))

theorem databaseItems_of_reordered {declared other : String} (h : Reordered declared other) :
    (databaseItems declared).Perm (databaseItems other) := h.map DatabaseItem.ofChars

theorem exists_reordered_cons {declared : String} {item : DatabaseItem}
    (h : item ∈ databaseItems declared) :
    ∃ other rest, Reordered declared other ∧ databaseItems other = item :: rest := by
  obtain ⟨first, hfirst, rfl⟩ := List.mem_map.1 h
  obtain ⟨rest, hperm⟩ : ∃ rest, (Text.commaItems declared.toList).Perm (first :: rest) :=
    ⟨_, List.perm_cons_erase hfirst⟩
  have hitems : ∀ item ∈ first :: rest, IsItem (String.ofList item) := fun item hitem =>
    Text.isItem_of_mem_commaItems (hperm.mem_iff.2 hitem)
  refine ⟨Text.joinItems (first :: rest), rest.map DatabaseItem.ofChars, ?_, ?_⟩
  · rw [Reordered, Text.commaItems_joinItems hitems]
    exact hperm
  · rw [databaseItems, Text.commaItems_joinItems hitems, List.map_cons]

/-- In whatever order the items of a declared list are written, it lets the same runs in, exactly if no
item lets the database of the run in that another one keeps out.  What it says as a set is what counts,
exactly if no item keeps the database out after another one has let it in. -/
theorem databaseMatches_of_order (declared : String) (database : Option String) :
    ((∀ other, Reordered declared other →
        databaseMatches (some other) database = databaseMatches (some declared) database) ↔
      ∀ name ∈ database, ¬Contradicts name (databaseItems declared)) ∧
    ((databaseMatches (some declared) database = true ↔
        ∀ name ∈ database, LetsIn name (databaseItems declared)) ↔
      ∀ name ∈ database, ¬ExcludedLate name (databaseItems declared)) := by
  cases database with
  | none => simp [databaseMatches]
  | some name =>
    simp only [Option.mem_some_iff, forall_eq', databaseMatches]
    refine ⟨⟨?_, fun hclear other hother => ?_⟩, allows_iff_letsIn⟩
    · rintro hsame ⟨⟨inclusion, hinclusion, hincludes⟩, exclusion, hexclusion, hexcludes⟩
      obtain ⟨included, rest, hincluded, heq⟩ := exists_reordered_cons hinclusion
      obtain ⟨excluded, rest', hexcluded, heq'⟩ := exists_reordered_cons hexclusion
      have htrue := hsame included hincluded
      have hfalse := hsame excluded hexcluded
      rw [heq, allows_cons_of_includes hincludes] at htrue
      rw [heq', allows_cons_of_excludes hexcludes, ← htrue] at hfalse
      exact Bool.false_ne_true hfalse
    · exact (allows_of_perm hclear (databaseItems_of_reordered hother)).symm

/-- An exception of one database counts before `all` and not after it. -/
theorem databaseMatches_all_except_ne :
    Reordered "all, !oracle" "!oracle, all" ∧
    databaseMatches (some "all, !oracle") (some "oracle") = true ∧
    databaseMatches (some "!oracle, all") (some "oracle") = false := by
  decide +kernel

end Changelog.Scope
