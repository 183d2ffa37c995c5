import Changelog.Schema.ChangeSet
import Changelog.Schema.Precondition

namespace Changelog

namespace Named

variable {α : Type} [Named α]

/-- Every member is listed, and no two of them share a name. -/
class Lawful (α : Type) [Named α] : Prop where
  mem_all : ∀ a : α, a ∈ Named.all (α := α)
  nodup : ((Named.all (α := α)).map Named.name).Nodup

theorem find?_name {members : List α} (hnodup : (members.map Named.name).Nodup) {a : α}
    (ha : a ∈ members) : members.find? (fun b => Named.name b == Named.name a) = some a := by
  induction members with
  | nil => nomatch ha
  | cons b rest ih =>
    obtain ⟨hb, hrest⟩ := List.nodup_cons.1 hnodup
    rcases List.mem_cons.1 ha with rfl | ha
    · rw [List.find?_cons_of_pos]
      exact beq_self_eq_true _
    · have hne : Named.name b ≠ Named.name a := fun heq => hb (heq ▸ List.mem_map_of_mem ha)
      rw [List.find?_cons_of_neg (by simpa using hne)]
      exact ih hrest ha

theorem ofName?_name [Lawful α] (a : α) : ofName? (α := α) (Named.name a) = some a :=
  find?_name Lawful.nodup (Lawful.mem_all a)

theorem ofName?_eq_none {text : String} (h : text ∉ (Named.all (α := α)).map Named.name) :
    ofName? (α := α) text = none := by
  refine List.find?_eq_none.2 fun b hb => ?_
  have hne : Named.name b ≠ text := fun heq => h (heq ▸ List.mem_map_of_mem hb)
  simpa using hne

instance : Lawful ChangeKind := ⟨ChangeKind.mem_all, by decide +kernel⟩

instance : Lawful CheckKind := ⟨CheckKind.mem_all, by decide +kernel⟩

instance : Lawful Combinator := ⟨fun how => by cases how <;> decide, by decide⟩

instance : Lawful SqlEditKind := ⟨fun kind => by cases kind <;> decide, by decide⟩

instance : Lawful ChangePart := ⟨fun part => by cases part <;> decide, by decide⟩

instance : Lawful ValidationFailure := ⟨fun a => by cases a <;> decide, by decide⟩

instance : Lawful QuotingStrategy := ⟨fun a => by cases a <;> decide, by decide⟩

instance : Lawful FailOption := ⟨fun a => by cases a <;> decide, by decide⟩

instance : Lawful SqlOutputOption := ⟨fun a => by cases a <;> decide, by decide⟩

end Named

theorem ChangeKind.name_not_part (kind : ChangeKind) :
    Named.ofName? (α := ChangeSetPart) kind.name = none := by
  have hall : ∀ k ∈ ChangeKind.all,
      k.name ∉ (Named.all (α := ChangeSetPart)).map Named.name := by
    decide +kernel
  exact Named.ofName?_eq_none (hall kind kind.mem_all)

theorem CheckKind.name_not_combinator (kind : CheckKind) :
    Named.ofName? (α := Combinator) kind.name = none := by
  have hall : ∀ k ∈ CheckKind.all, k.name ∉ (Named.all (α := Combinator)).map Named.name := by
    decide +kernel
  exact Named.ofName?_eq_none (hall kind kind.mem_all)

end Changelog
