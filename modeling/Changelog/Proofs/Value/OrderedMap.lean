import Changelog.Proofs.Json.Layout
import Changelog.Proofs.Value.Attributes

/-!
# Attributes from writes

Attributes come about by writing one name after the other, and by taking in attributes that came about in
the same way.  All that can be seen of them is determined by the names and values written, in order.
-/

namespace Changelog.Attributes

/-- What attributes are after names and values were written in order. -/
structure Records (a : Attributes) (written : List (String × Value)) : Prop where
  distinct : a.keys.Nodup
  /-- A name stands where it was first written. -/
  order : a.keys.Pairwise fun key later =>
    (written.map Prod.fst).idxOf key < (written.map Prod.fst).idxOf later
  contains : ∀ key, a.contains key = true ↔ key ∈ written.map Prod.fst
  /-- The value of a name is the one that was written last. -/
  value : ∀ key value, a.get? key = some value ↔
    ∃ before after, written = before ++ (key, value) :: after ∧ key ∉ after.map Prod.fst
  size : a.size = (written.map Prod.fst).dedup.length
  isEmpty : a.isEmpty = true ↔ a.size = 0

theorem pairwise_firstNames (entries : List (String × Value)) :
    (firstNames entries).Pairwise fun key later =>
      (entries.map Prod.fst).idxOf key < (entries.map Prod.fst).idxOf later := by
  induction entries using List.reverseRecOn with
  | nil => exact .nil
  | append_singleton entries e ih =>
    -- The place of a name does not change when more is written after it.
    have hplace : ∀ key ∈ firstNames entries, ((entries ++ [e]).map Prod.fst).idxOf key =
        (entries.map Prod.fst).idxOf key := fun key hkey => by
      rw [List.map_append, List.idxOf_append_of_mem (mem_firstNames.1 hkey)]
    have hold : (firstNames entries).Pairwise fun key later =>
        ((entries ++ [e]).map Prod.fst).idxOf key < ((entries ++ [e]).map Prod.fst).idxOf later :=
      ih.imp_of_mem fun hkey hlater h => by rwa [hplace _ hkey, hplace _ hlater]
    rw [firstNames_append_singleton]
    split
    · exact hold
    · next hnew =>
      refine List.pairwise_append.2 ⟨hold, List.pairwise_singleton .., ?_⟩
      intro key hkey later hlater
      obtain rfl := List.mem_singleton.1 hlater
      have hfirst : (entries.map Prod.fst).idxOf key < (entries.map Prod.fst).length :=
        List.idxOf_lt_length_of_mem (mem_firstNames.1 hkey)
      have hnot : e.1 ∉ entries.map Prod.fst := fun h => hnew (mem_firstNames.2 h)
      rw [hplace key hkey, List.map_append, List.idxOf_append_of_notMem hnot]
      omega

theorem lastValue?_eq_some_iff {entries : List (String × Value)} {key : String} {value : Value} :
    lastValue? entries key = some value ↔
      ∃ before after, entries = before ++ (key, value) :: after ∧ key ∉ after.map Prod.fst := by
  rw [lastValue?, List.lookup_eq_some_iff]
  constructor
  · rintro ⟨after, before, heq, hafter⟩
    refine ⟨before.reverse, after.reverse, ?_, ?_⟩
    · simpa using congrArg List.reverse heq
    · rw [List.map_reverse, List.mem_reverse]
      rintro hmem
      obtain ⟨e, he, rfl⟩ := List.mem_map.1 hmem
      simpa using hafter e he
  · rintro ⟨before, after, rfl, hafter⟩
    refine ⟨after.reverse, before.reverse, by simp, fun e he => ?_⟩
    have hne : key ≠ e.1 := fun heq => hafter (heq ▸ List.mem_map_of_mem (List.mem_reverse.1 he))
    exact bne_iff_ne.2 hne

theorem records_ofList (written : List (String × Value)) : (ofList written).Records written where
  distinct := (ofList written).keys_nodup
  order := by
    rw [keys_ofList]
    exact pairwise_firstNames written
  contains key := by rw [contains, keys_ofList, List.contains_iff_mem, mem_firstNames]
  value key value := by rw [get?_ofList, lastValue?_eq_some_iff]
  size := by
    have hsize : (ofList written).size = (firstNames written).length := by
      rw [← keys_ofList, keys, List.length_map, size]
    rw [hsize, firstNames, List.length_reverse]
    exact (List.reverse_perm _).dedup.length_eq
  isEmpty := by rw [isEmpty, size, List.isEmpty_iff, List.length_eq_zero_iff]

/-! ### Writes -/

/-- A value for a name, or attributes that were written themselves. -/
inductive Write
  | insert (key : String) (value : Value)
  | extend (operand : List Write)

mutual

def Write.apply (a : Attributes) : Write → Attributes
  | .insert key value => a.insert key value
  | .extend operand => a.extend (applyAll empty operand)

def applyAll (a : Attributes) : List Write → Attributes
  | [] => a
  | w :: rest => applyAll (w.apply a) rest

end

mutual

/-- The names and values that a write brings, those of an operand in the order they came to it. -/
def Write.entries : Write → List (String × Value)
  | .insert key value => [(key, value)]
  | .extend operand => writtenBy operand

def writtenBy : List Write → List (String × Value)
  | [] => []
  | w :: rest => w.entries ++ writtenBy rest

end

mutual

theorem apply_eq (a : Attributes) (w : Write) : w.apply a = a.insertAll w.entries := by
  cases w with
  | insert key value => rfl
  | extend operand =>
    rw [Write.apply, Write.entries, applyAll_eq empty operand]
    exact extend_ofList a (writtenBy operand)

theorem applyAll_eq (a : Attributes) (writes : List Write) :
    applyAll a writes = a.insertAll (writtenBy writes) := by
  cases writes with
  | nil => rfl
  | cons w rest => rw [applyAll, applyAll_eq (w.apply a) rest, apply_eq a w, writtenBy, insertAll_append]

end

def built (writes : List Write) : Attributes := applyAll empty writes

theorem built_eq (writes : List Write) : built writes = ofList (writtenBy writes) :=
  applyAll_eq empty writes

theorem writtenBy_append (writes more : List Write) :
    writtenBy (writes ++ more) = writtenBy writes ++ writtenBy more := by
  induction writes with
  | nil => rfl
  | cons w rest ih => rw [List.cons_append, writtenBy, ih, writtenBy, List.append_assoc]

theorem writtenBy_inserts (entries : List (String × Value)) :
    writtenBy (entries.map fun e => .insert e.1 e.2) = entries := by
  induction entries with
  | nil => rfl
  | cons e rest ih =>
    rw [List.map_cons, writtenBy, ih]
    rfl

/-- Taking in the attributes of other writes is going on with an insertion for each of their entries. -/
theorem extend_eq_built (writes : List Write) (b : Attributes) :
    (built writes).extend b = built (writes ++ b.entries.map fun e => .insert e.1 e.2) := by
  rw [built_eq, built_eq, writtenBy_append, writtenBy_inserts]
  exact (insertAll_append empty (writtenBy writes) b.entries).symm

theorem prettyChars_ofAttributes (a : Attributes) (depth : Nat) :
    (Json.ofAttributes a).prettyChars depth =
      Json.indented depth '\x7b' '\x7d' (a.keys.map fun key =>
        Json.memberText (depth + 1) (key, Json.ofValue ((a.get? key).getD .null))) := by
  rw [Json.ofAttributes, Json.prettyChars, Json.prettyMembers_eq]
  congr 1
  conv_lhs => rw [entries_eq_map]
  rw [List.map_map, List.map_map]
  rfl

theorem quote_injective : Function.Injective fun key : String => Json.quote key.toList := by
  intro key other h
  have hends : Json.quote key.toList ++ [] = Json.quote other.toList ++ [] := by
    rw [List.append_nil, List.append_nil]
    exact h
  exact (Json.quote_inj hends).1

/-- Attributes that came about by any writes hold each name that was ever written, once and where it was
first written, with the value that was written last; attributes of other writes are taken in entry by
entry, in whatever way three of them are put together.  So the object written for them has a member for
each name, in that order. -/
theorem records_built (writes operand more : List Write) :
    (built writes).Records (writtenBy writes) ∧
    (built writes).extend (built operand) =
      built (writes ++ (built operand).entries.map fun e => .insert e.1 e.2) ∧
    ((built writes).extend (built operand)).extend (built more) =
      (built writes).extend ((built operand).extend (built more)) ∧
    ((built writes).keys.map fun key => Json.quote key.toList).Nodup ∧
    ∀ depth, (Json.ofAttributes (built writes)).prettyChars depth =
      Json.indented depth '\x7b' '\x7d' ((built writes).keys.map fun key =>
        Json.quote key.toList ++ ':' :: ' ' ::
          (Json.ofValue (((built writes).get? key).getD .null)).prettyChars (depth + 1)) := by
  refine ⟨?_, extend_eq_built writes (built operand), extend_assoc _ _ _, ?_,
    prettyChars_ofAttributes (built writes)⟩
  · rw [built_eq]
    exact records_ofList (writtenBy writes)
  · exact (built writes).keys_nodup.map quote_injective

end Changelog.Attributes
