import Changelog.Build.ChangeSet
import Changelog.Proofs.Document.Writing
import Changelog.Proofs.Property.Expansion
import Changelog.Proofs.Steps

namespace Changelog.Build

theorem checkAttributes_of_within {a : Attributes} {allowed : List String} (h : a.Within allowed)
    (element context : String) : checkAttributes element a allowed context = .ok () :=
  (checkAttributes_eq_ok_iff element a allowed context).2 h

theorem within_empty (allowed : List String) : Attributes.empty.Within allowed := by
  intro key h
  nomatch h

theorem within_ofFields {fields : List (String × Option Value)} {allowed : List String}
    (h : fields.map Prod.fst = allowed) : (Attributes.ofFields fields).Within allowed :=
  fun _ hkey => h ▸ Attributes.mem_keys_ofFields hkey

theorem rejectPositional_nil (element context : String) : rejectPositional element [] context = .ok () :=
  rfl

theorem rejectPositional_eq_ok_iff (element : String) (args : List Value) (context : String) :
    rejectPositional element args context = .ok () ↔ args = [] := by
  cases args with
  | nil => simp [rejectPositional]
  | cons v rest => simp [rejectPositional]

theorem rejectRenamed_eq_ok_iff (element : String) (a : Attributes) (old replacement context : String) :
    rejectRenamed element a old replacement context = .ok () ↔ old ∉ a.keys := by
  rw [rejectRenamed, Attributes.contains]
  by_cases hold : old ∈ a.keys
  · simp [hold]
  · simp [hold]

theorem requiredText_eq_ok_iff (a : Attributes) (element key context text : String) :
    requiredText a element key context = .ok text ↔ textOf? a key = some text := by
  unfold requiredText
  cases textOf? a key with
  | none => simp
  | some own => simp

theorem get?_field {fields : List (String × Option Value)} {allowed : List String}
    (h : fields.map Prod.fst = allowed) (hnodup : allowed.Nodup) (key : String)
    {value : Option Value} (hkey : fields.lookup key = some value) :
    (Attributes.ofFields fields).get? key = value := by
  rw [Attributes.get?_ofFields (h ▸ hnodup), hkey]
  rfl

section Values

variable {a : Attributes} {key : String}

theorem textOf?_of_get? {text : Option String} (h : a.get? key = text.map .string) :
    textOf? a key = text := by
  rw [textOf?, h]
  cases text <;> rfl

theorem requiredText_of_get? {text : String} (h : a.get? key = some (.string text))
    (element context : String) : requiredText a element key context = .ok text := by
  have htext : textOf? a key = some text := textOf?_of_get? h
  rw [requiredText, htext]

theorem truthOf_of_get? {b : Bool} (h : a.get? key = some (.bool b)) (default : Bool) :
    truthOf a key default = b := by
  rw [truthOf, h]
  rfl

theorem optionalChoice_of_get? {α : Type} [Named α] [Named.Lawful α] {choice : Option α}
    (h : a.get? key = Value.ofChoice choice) (context : String) :
    optionalChoice α a key context = .ok choice := by
  rw [optionalChoice, h]
  cases choice with
  | none => rfl
  | some c =>
    show (Build.choice α key (.string (Named.name c)) context).map some = _
    rw [Build.choice, Value.display, Named.ofName?_name]
    rfl

theorem splitItems_item {s : String} (h : IsItem s) : Text.splitItems s = [s] := by
  obtain ⟨htrim, hne, hcomma⟩ := h
  have hnotEmpty : s.toList.isEmpty = false := List.isEmpty_eq_false_iff.2 hne
  rw [Text.splitItems, Text.commaItems, List.splitOn_eq_singleton hcomma]
  simp [htrim, hnotEmpty]

theorem namesAll_items {names : List String} (h : ∀ s ∈ names, IsItem s) :
    Value.namesAll (names.map .string) = names := by
  induction names with
  | nil => rfl
  | cons s rest ih =>
    rw [List.map_cons, Value.namesAll, ih fun t ht => h t (List.mem_cons_of_mem _ ht)]
    show Text.splitItems s ++ rest = _
    rw [splitItems_item (h s (List.mem_cons_self ..))]
    rfl

theorem namesOf_of_get? {names : List String} (h : a.get? key = some (.ofNames names))
    (hitems : ∀ s ∈ names, IsItem s) : namesOf a key = names := by
  rw [namesOf, h]
  exact namesAll_items hitems

end Values

end Changelog.Build
