import Changelog.Property.Table
import Changelog.Proofs.Value.Attributes

/-!
# Expansion of tokens

Where no name has a value, expansion changes nothing, and neither does it where no token begins.
-/

namespace Changelog

namespace Expansion

theorem eq_append_of_dropWhile {inside after : List Char} {c : Char}
    (h : inside.dropWhile (· != '\x7d') = c :: after) :
    inside = inside.takeWhile (· != '\x7d') ++ '\x7d' :: after := by
  have hc : c = '\x7d' := by
    have hhead := List.head?_dropWhile_not (· != '\x7d') inside
    rw [h] at hhead
    simpa using hhead
  have hsplit : inside.takeWhile (· != '\x7d') ++ inside.dropWhile (· != '\x7d') = inside :=
    List.takeWhile_append_dropWhile
  rw [h, hc] at hsplit
  exact hsplit.symm

theorem expandChars_of_none {value? : List Char → Option (List Char)} (h : ∀ name, value? name = none)
    (s : List Char) : expandChars value? s = s := by
  fun_induction expandChars value? s with
  | case1 => rfl
  | case2 inside name c after hdrop hname ih => rw [ih]
  | case3 inside name c after hdrop hname ih =>
    have hsplit : inside = name ++ '\x7d' :: after := eq_append_of_dropWhile hdrop
    rw [ih, h, Option.getD_none, hsplit]
    simp [token]
  | case4 inside hdrop ih => rw [ih]
  | case5 c rest _ ih => rw [ih]

/-- A text in which no token begins. -/
def Plain (s : String) : Prop := ¬['$', '\x7b'] <:+: s.toList

instance (s : String) : Decidable (Plain s) := inferInstanceAs (Decidable (¬_ <:+: _))

theorem plain_of_not_mem {s : String} (h : '$' ∉ s.toList) : Plain s :=
  fun hbegun => h (hbegun.subset (List.mem_cons_self ..))

theorem expandChars_of_not_infix {value? : List Char → Option (List Char)} {s : List Char}
    (h : ¬['$', '\x7b'] <:+: s) : expandChars value? s = s := by
  have hbegins : ∀ inside, ['$', '\x7b'] <:+: '$' :: '\x7b' :: inside := fun inside => ⟨[], inside, rfl⟩
  fun_induction expandChars value? s with
  | case1 => rfl
  | case2 inside name c after hdrop hname ih => exact absurd (hbegins inside) h
  | case3 inside name c after hdrop hname ih => exact absurd (hbegins inside) h
  | case4 inside hdrop ih => exact absurd (hbegins inside) h
  | case5 c rest _ ih => rw [ih fun hbegun => h (List.infix_cons hbegun)]

theorem expandChars_of_not_mem {value? : List Char → Option (List Char)} {s : List Char}
    (h : '$' ∉ s) : expandChars value? s = s :=
  expandChars_of_not_infix fun hbegun => h (hbegun.subset (List.mem_cons_self ..))

theorem expandText_of_plain {value? : String → Option String} {s : String} (h : Plain s) :
    expandText value? s = s := by
  rw [expandText, expandChars_of_not_infix h, String.ofList_toList]

theorem expandText_of_not_mem {value? : String → Option String} {s : String} (h : '$' ∉ s.toList) :
    expandText value? s = s := by
  rw [expandText, expandChars_of_not_mem h, String.ofList_toList]

theorem expandText_of_none {value? : String → Option String} (h : ∀ name, value? name = none)
    (s : String) : expandText value? s = s := by
  rw [expandText, expandChars_of_none, String.ofList_toList]
  intro name
  rw [h, Option.map_none]

mutual

theorem mapStrings_of_id {f : String → String} (h : ∀ s, f s = s) : ∀ v, mapStrings f v = v
  | .null => rfl
  | .bool _ => rfl
  | .int _ => rfl
  | .float _ => rfl
  | .string s => by rw [mapStrings, h]
  | .list items => by rw [mapStrings, mapStringsAll_of_id h items]

theorem mapStringsAll_of_id {f : String → String} (h : ∀ s, f s = s) :
    ∀ items, mapStringsAll f items = items
  | [] => rfl
  | v :: rest => by rw [mapStringsAll, mapStrings_of_id h v, mapStringsAll_of_id h rest]

end

end Expansion

namespace Expander

variable {e : Expander}

theorem text_of_empty (h : e.table = .empty) (s : String) : e.text s = s := by
  refine Expansion.expandText_of_none (fun name => ?_) s
  rw [value?, h]
  rfl

theorem value_of_plain (e : Expander) {s : String} (h : Expansion.Plain s) :
    e.value (.string s) = .string s := by
  rw [value, Expansion.mapStrings, text, Expansion.expandText_of_plain h]

theorem get?_attributes (e : Expander) (a : Attributes) (key : String) :
    (e.attributes a).get? key = (a.get? key).map e.value :=
  Attributes.get?_mapValues e.value a key

theorem attributes_of_empty (h : e.table = .empty) (a : Attributes) : e.attributes a = a := by
  apply Attributes.ext
  show a.entries.map (fun entry => (entry.1, e.value entry.2)) = a.entries
  refine (List.map_congr_left fun entry _ => ?_).trans (List.map_id a.entries)
  rw [value, Expansion.mapStrings_of_id (text_of_empty h)]
  rfl

end Expander

end Changelog
