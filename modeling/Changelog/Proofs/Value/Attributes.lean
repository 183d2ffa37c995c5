import Changelog.Value.Attributes
import Mathlib.Data.List.Dedup
import Mathlib.Data.List.Induction

/-!
# Attributes as an ordered map

What a list of written entries comes to: each name once, where it is first written, with the value that
is written last.
-/

namespace Changelog.Attributes

theorem lookup_cons_eq (e : String × Value) (rest : List (String × Value)) (key : String) :
    (e :: rest).lookup key = if key = e.1 then some e.2 else rest.lookup key := by
  obtain ⟨name, value⟩ := e
  rw [List.lookup_cons]
  by_cases h : key = name
  · simp [h]
  · simp [h, beq_eq_false_iff_ne.2 h]

theorem lookup_replaced_self {entries : List (String × Value)} {key : String} (value : Value)
    (h : key ∈ entries.map Prod.fst) : (replaced entries key value).lookup key = some value := by
  induction entries with
  | nil => simp at h
  | cons e rest ih =>
    by_cases he : e.1 = key
    · simp [replaced, he]
    · have hrest : key ∈ rest.map Prod.fst := by
        simpa [Ne.symm he] using h
      have hcons : replaced (e :: rest) key value = e :: replaced rest key value := by
        simp [replaced, he]
      rw [hcons, lookup_cons_eq, if_neg (Ne.symm he), ih hrest]

theorem lookup_replaced_of_ne {entries : List (String × Value)} {key other : String} (value : Value)
    (h : other ≠ key) : (replaced entries key value).lookup other = entries.lookup other := by
  induction entries with
  | nil => rfl
  | cons e rest ih =>
    have hcons : replaced (e :: rest) key value =
        (if e.1 = key then (key, value) else e) :: replaced rest key value := rfl
    rw [hcons, lookup_cons_eq, lookup_cons_eq, ih]
    by_cases he : e.1 = key
    · rw [if_pos he, he, if_neg h, if_neg h]
    · rw [if_neg he]

theorem get?_insert (a : Attributes) (key : String) (value : Value) (other : String) :
    (a.insert key value).get? other = if other = key then some value else a.get? other := by
  unfold insert get?
  split
  · next hmem =>
    split
    · next ho =>
      subst ho
      exact lookup_replaced_self value hmem
    · next ho => exact lookup_replaced_of_ne value ho
  · next hmem =>
    rw [List.lookup_append]
    split
    · next ho =>
      subst ho
      have hnone : a.entries.lookup other = none := by
        rw [List.lookup_eq_none_iff]
        intro e he
        have hne : e.1 ≠ other := fun heq => hmem (heq ▸ List.mem_map_of_mem he)
        simpa using Ne.symm hne
      simp [hnone]
    · next ho =>
      rw [lookup_cons_eq, if_neg ho]
      simp

theorem entries_eq_map (a : Attributes) :
    a.entries = a.keys.map fun key => (key, (a.get? key).getD .null) := by
  have key : ∀ entries : List (String × Value), (entries.map Prod.fst).Nodup →
      entries = (entries.map Prod.fst).map fun key => (key, (entries.lookup key).getD .null) := by
    intro entries
    induction entries with
    | nil => intro _; rfl
    | cons e rest ih =>
      intro h
      obtain ⟨hnot, hrest⟩ := List.nodup_cons.1 h
      have htail : rest = (rest.map Prod.fst).map fun key =>
          (key, ((e :: rest).lookup key).getD .null) := by
        refine (ih hrest).trans (List.map_congr_left fun key hkey => ?_)
        have hne : key ≠ e.1 := fun heq => hnot (heq ▸ hkey)
        rw [lookup_cons_eq, if_neg hne]
      rw [List.map_cons, List.map_cons, ← htail, lookup_cons_eq, if_pos rfl]
      rfl
  exact key a.entries a.nodup

theorem ext_get? {a b : Attributes} (hkeys : a.keys = b.keys)
    (hget : ∀ key, a.get? key = b.get? key) : a = b := by
  apply ext
  rw [entries_eq_map a, entries_eq_map b, hkeys]
  exact List.map_congr_left fun key _ => by rw [hget key]

/-- Names without the later ones of equal names: a name that comes last counts only if it is new. -/
theorem reverse_dedup_append_singleton (names : List String) (name : String) :
    (names ++ [name]).reverse.dedup.reverse =
      if name ∈ names then names.reverse.dedup.reverse else names.reverse.dedup.reverse ++ [name] := by
  rw [List.reverse_append, List.reverse_cons, List.reverse_nil, List.nil_append,
    List.singleton_append]
  by_cases h : name ∈ names
  · rw [if_pos h, List.dedup_cons_of_mem (List.mem_reverse.2 h)]
  · rw [if_neg h, List.dedup_cons_of_notMem fun hmem => h (List.mem_reverse.1 hmem),
      List.reverse_cons]

/-! ### Written entries -/

/-- The names of entries, each at the place where it is first written. -/
def firstNames (entries : List (String × Value)) : List String :=
  (entries.map Prod.fst).reverse.dedup.reverse

def lastValue? (entries : List (String × Value)) (key : String) : Option Value :=
  entries.reverse.lookup key

theorem nodup_firstNames (entries : List (String × Value)) : (firstNames entries).Nodup :=
  List.nodup_reverse.2 (List.nodup_dedup _)

/-- Entries as an ordered map: a name written again keeps its place and takes the later value. -/
def merged (entries : List (String × Value)) : Attributes where
  entries := (firstNames entries).map fun key => (key, (lastValue? entries key).getD .null)
  nodup := by simpa [Function.comp_def] using nodup_firstNames entries

theorem mem_firstNames {entries : List (String × Value)} {key : String} :
    key ∈ firstNames entries ↔ key ∈ entries.map Prod.fst := by
  rw [firstNames, List.mem_reverse, List.mem_dedup, List.mem_reverse]

theorem firstNames_append_singleton (entries : List (String × Value)) (e : String × Value) :
    firstNames (entries ++ [e]) =
      if e.1 ∈ firstNames entries then firstNames entries else firstNames entries ++ [e.1] := by
  simp only [mem_firstNames]
  rw [firstNames, List.map_append, List.map_cons, List.map_nil, reverse_dedup_append_singleton]
  rfl

theorem lastValue?_append_singleton (entries : List (String × Value)) (e : String × Value)
    (key : String) :
    lastValue? (entries ++ [e]) key = if key = e.1 then some e.2 else lastValue? entries key := by
  rw [lastValue?, List.reverse_append, List.reverse_singleton, List.singleton_append, lookup_cons_eq]
  rfl

theorem insertAll_append (a : Attributes) (entries more : List (String × Value)) :
    a.insertAll (entries ++ more) = (a.insertAll entries).insertAll more :=
  List.foldl_append

theorem insertAll_append_singleton (a : Attributes) (entries : List (String × Value))
    (e : String × Value) : a.insertAll (entries ++ [e]) = (a.insertAll entries).insert e.1 e.2 :=
  insertAll_append a entries [e]

theorem keys_insertAll (a : Attributes) (entries : List (String × Value)) :
    (a.insertAll entries).keys = a.keys ++ (firstNames entries).filter (· ∉ a.keys) := by
  induction entries using List.reverseRecOn with
  | nil => exact (List.append_nil _).symm
  | append_singleton entries e ih =>
    have hmem : e.1 ∈ (a.insertAll entries).keys ↔ e.1 ∈ a.keys ∨ e.1 ∈ firstNames entries := by
      rw [ih, List.mem_append, List.mem_filter, decide_eq_true_eq]
      tauto
    rw [insertAll_append_singleton, firstNames_append_singleton]
    by_cases hfirst : e.1 ∈ firstNames entries
    · rw [keys_insert_of_mem e.2 (hmem.2 (.inr hfirst)), if_pos hfirst, ih]
    · rw [if_neg hfirst, List.filter_append]
      by_cases hkey : e.1 ∈ a.keys
      · rw [keys_insert_of_mem e.2 (hmem.2 (.inl hkey)), ih,
          List.filter_cons_of_neg (by simpa using hkey), List.filter_nil, List.append_nil]
      · have hnot : e.1 ∉ (a.insertAll entries).keys := fun h => (hmem.1 h).elim hkey hfirst
        rw [keys_insert_of_not_mem e.2 hnot, ih, List.filter_cons_of_pos (by simpa using hkey),
          List.filter_nil, List.append_assoc]

theorem get?_insertAll (a : Attributes) (entries : List (String × Value)) (key : String) :
    (a.insertAll entries).get? key = (lastValue? entries key).or (a.get? key) := by
  induction entries using List.reverseRecOn with
  | nil => rfl
  | append_singleton entries e ih =>
    rw [insertAll_append_singleton, get?_insert, ih, lastValue?_append_singleton]
    split <;> rfl

theorem keys_ofList (entries : List (String × Value)) : (ofList entries).keys = firstNames entries := by
  rw [ofList, keys_insertAll, keys_empty, List.nil_append]
  exact List.filter_eq_self.2 fun key _ => by simp

theorem get?_ofList (entries : List (String × Value)) (key : String) :
    (ofList entries).get? key = lastValue? entries key :=
  (get?_insertAll empty entries key).trans Option.or_none

theorem ofList_eq_merged (entries : List (String × Value)) : ofList entries = merged entries := by
  apply ext
  rw [entries_eq_map, keys_ofList]
  exact List.map_congr_left fun key _ => by rw [get?_ofList]

/-! ### Fields -/

def fieldEntries (fields : List (String × Option Value)) : List (String × Value) :=
  fields.filterMap fun field => field.2.map fun value => (field.1, value)

/-- The attributes with the given values; a name without a value is left out. -/
def ofFields (fields : List (String × Option Value)) : Attributes := ofList (fieldEntries fields)

theorem mem_fields_of_mem_entries {fields : List (String × Option Value)} {key : String}
    (h : key ∈ (fieldEntries fields).map Prod.fst) : key ∈ fields.map Prod.fst := by
  obtain ⟨entry, hentry, rfl⟩ := List.mem_map.1 h
  obtain ⟨field, hfield, heq⟩ := List.mem_filterMap.1 hentry
  obtain ⟨value, -, rfl⟩ := Option.map_eq_some_iff.1 heq
  exact List.mem_map_of_mem hfield

theorem mem_keys_ofFields {fields : List (String × Option Value)} {key : String}
    (h : key ∈ (ofFields fields).keys) : key ∈ fields.map Prod.fst := by
  rw [ofFields, keys_ofList, mem_firstNames] at h
  exact mem_fields_of_mem_entries h

theorem lookup_eq_none_of_not_mem {entries : List (String × Value)} {key : String}
    (h : key ∉ entries.map Prod.fst) : entries.lookup key = none := by
  induction entries with
  | nil => rfl
  | cons e rest ih =>
    rw [List.map_cons, List.mem_cons, not_or] at h
    rw [lookup_cons_eq, if_neg h.1, ih h.2]

theorem lastValue?_of_nodup {entries : List (String × Value)} (h : (entries.map Prod.fst).Nodup)
    (key : String) : lastValue? entries key = entries.lookup key := by
  induction entries with
  | nil => rfl
  | cons e rest ih =>
    obtain ⟨hnot, hrest⟩ := List.nodup_cons.1 h
    have hlast := ih hrest
    unfold lastValue? at hlast ⊢
    rw [List.reverse_cons, List.lookup_append, hlast, lookup_cons_eq, lookup_cons_eq]
    by_cases hkey : key = e.1
    · rw [if_pos hkey, if_pos hkey, hkey, lookup_eq_none_of_not_mem hnot]
      rfl
    · rw [if_neg hkey, if_neg hkey]
      exact Option.or_none

theorem nodup_fieldEntries {fields : List (String × Option Value)}
    (h : (fields.map Prod.fst).Nodup) : ((fieldEntries fields).map Prod.fst).Nodup := by
  induction fields with
  | nil => exact List.nodup_nil
  | cons field rest ih =>
    obtain ⟨key, value⟩ := field
    obtain ⟨hnot, hrest⟩ := List.nodup_cons.1 h
    cases value with
    | none => exact ih hrest
    | some value =>
      exact List.nodup_cons.2 ⟨fun hmem => hnot (mem_fields_of_mem_entries hmem), ih hrest⟩

theorem lookup_fieldEntries {fields : List (String × Option Value)}
    (h : (fields.map Prod.fst).Nodup) (key : String) :
    (fieldEntries fields).lookup key = (fields.lookup key).join := by
  induction fields with
  | nil => rfl
  | cons field rest ih =>
    obtain ⟨name, value⟩ := field
    obtain ⟨hnot, hrest⟩ := List.nodup_cons.1 h
    rw [List.lookup_cons]
    by_cases hkey : key = name
    · subst hkey
      rw [beq_self_eq_true]
      cases value with
      | none =>
        exact lookup_eq_none_of_not_mem fun hmem => hnot (mem_fields_of_mem_entries hmem)
      | some value => exact List.lookup_cons_self
    · rw [beq_eq_false_iff_ne.2 hkey]
      cases value with
      | none => exact ih hrest
      | some value =>
        show List.lookup key ((name, value) :: fieldEntries rest) = _
        rw [lookup_cons_eq, if_neg hkey]
        exact ih hrest

theorem get?_ofFields {fields : List (String × Option Value)} (h : (fields.map Prod.fst).Nodup)
    (key : String) : (ofFields fields).get? key = (fields.lookup key).join := by
  rw [ofFields, get?_ofList, lastValue?_of_nodup (nodup_fieldEntries h), lookup_fieldEntries h]

def erase (a : Attributes) (key : String) : Attributes :=
  ⟨a.entries.filter fun e => e.1 != key, a.nodup.sublist (List.filter_sublist.map Prod.fst)⟩

theorem keys_erase (a : Attributes) (key : String) : (a.erase key).keys = a.keys.filter (· != key) := by
  rw [keys, keys, List.filter_map]
  rfl

theorem get?_erase_of_ne (a : Attributes) {key other : String} (h : other ≠ key) :
    (a.erase key).get? other = a.get? other := by
  show (a.entries.filter fun e => e.1 != key).lookup other = a.entries.lookup other
  induction a.entries with
  | nil => rfl
  | cons e rest ih =>
    by_cases he : e.1 = key
    · have hother : other ≠ e.1 := he ▸ h
      rw [List.filter_cons_of_neg (by simp [he]), ih, lookup_cons_eq, if_neg hother]
    · rw [List.filter_cons_of_pos (by simp [he]), lookup_cons_eq, lookup_cons_eq, ih]

theorem contains_erase_of_ne (a : Attributes) {key other : String} (h : other ≠ key) :
    (a.erase key).contains other = a.contains other := by
  rw [contains, contains, keys_erase, Bool.eq_iff_iff, List.contains_iff_mem, List.contains_iff_mem,
    List.mem_filter]
  simp [h]

theorem get?_erase_self (a : Attributes) (key : String) : (a.erase key).get? key = none := by
  apply lookup_eq_none_of_not_mem
  intro hmem
  have hkey : key ∈ a.keys.filter (· != key) := keys_erase a key ▸ hmem
  simp at hkey

theorem erase_insert_self (a : Attributes) (key : String) (value : Value) :
    (a.insert key value).erase key = a.erase key := by
  apply ext_get?
  · rw [keys_erase, keys_erase]
    by_cases h : key ∈ a.keys
    · rw [keys_insert_of_mem value h]
    · rw [keys_insert_of_not_mem value h, List.filter_append]
      simp
  · intro other
    by_cases hother : other = key
    · rw [hother, get?_erase_self, get?_erase_self]
    · rw [get?_erase_of_ne _ hother, get?_erase_of_ne _ hother, get?_insert, if_neg hother]

/-! ### One map after another -/

theorem firstNames_entries (a : Attributes) : firstNames a.entries = a.keys := by
  rw [firstNames, (List.nodup_reverse.2 a.nodup).dedup, List.reverse_reverse]
  rfl

theorem keys_extend (a b : Attributes) :
    (a.extend b).keys = a.keys ++ b.keys.filter (· ∉ a.keys) := by
  rw [extend, keys_insertAll, firstNames_entries]

theorem get?_extend (a b : Attributes) (key : String) :
    (a.extend b).get? key = (b.get? key).or (a.get? key) := by
  rw [extend, get?_insertAll, lastValue?_of_nodup b.nodup]
  rfl

theorem ofList_entries (a : Attributes) : ofList a.entries = a := by
  refine ext_get? ?_ fun key => ?_
  · rw [keys_ofList, firstNames_entries]
  · rw [get?_ofList, lastValue?_of_nodup a.nodup]
    rfl

theorem extend_empty (a : Attributes) : empty.extend a = a := ofList_entries a

/-- Names that are merged in a map of their own first come out at the same places. -/
theorem extend_ofList (a : Attributes) (entries : List (String × Value)) :
    a.extend (ofList entries) = a.insertAll entries :=
  ext_get? (by rw [keys_extend, keys_insertAll, keys_ofList])
    fun key => by rw [get?_extend, get?_insertAll, get?_ofList]

theorem extend_assoc (a b c : Attributes) : (a.extend b).extend c = a.extend (b.extend c) := by
  calc (a.extend b).extend c
      = a.insertAll (b.entries ++ c.entries) := (insertAll_append a b.entries c.entries).symm
    _ = a.extend (ofList (b.entries ++ c.entries)) := (extend_ofList a _).symm
    _ = a.extend ((ofList b.entries).extend c) :=
        congrArg a.extend (insertAll_append empty b.entries c.entries)
    _ = a.extend (b.extend c) := by rw [ofList_entries]

theorem get?_mapValues (f : Value → Value) (a : Attributes) (key : String) :
    (a.mapValues f).get? key = (a.get? key).map f := by
  show (a.entries.map fun e => (e.1, f e.2)).lookup key = (a.entries.lookup key).map f
  induction a.entries with
  | nil => rfl
  | cons e rest ih =>
    rw [List.map_cons, lookup_cons_eq, lookup_cons_eq, ih]
    split <;> rfl

theorem mapValues_insert (f : Value → Value) (a : Attributes) (key : String) (value : Value) :
    (a.insert key value).mapValues f = (a.mapValues f).insert key (f value) := by
  apply ext_get?
  · rw [keys_mapValues]
    by_cases h : key ∈ a.keys
    · rw [keys_insert_of_mem value h, keys_insert_of_mem, keys_mapValues]
      rwa [keys_mapValues]
    · rw [keys_insert_of_not_mem value h, keys_insert_of_not_mem, keys_mapValues]
      rwa [keys_mapValues]
  · intro other
    rw [get?_mapValues, get?_insert, get?_insert, get?_mapValues]
    split <;> rfl

theorem mapValues_insertAll (f : Value → Value) (a : Attributes) (entries : List (String × Value)) :
    (a.insertAll entries).mapValues f =
      (a.mapValues f).insertAll (entries.map fun e => (e.1, f e.2)) := by
  induction entries generalizing a with
  | nil => rfl
  | cons e rest ih =>
    show ((a.insert e.1 e.2).insertAll rest).mapValues f = _
    rw [ih, mapValues_insert]
    rfl

theorem mapValues_extend (f : Value → Value) (a b : Attributes) :
    (a.extend b).mapValues f = (a.mapValues f).extend (b.mapValues f) :=
  mapValues_insertAll f a b.entries

end Changelog.Attributes
