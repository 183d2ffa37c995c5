import Changelog.Value.Basic

/-!
# Attributes

The named values of an element, in the order their names were first written.  Writing a name again
replaces its value and leaves its place.
-/

namespace Changelog

/-- An ordered map from names to values. -/
structure Attributes where
  entries : List (String × Value)
  nodup : (entries.map Prod.fst).Nodup

namespace Attributes

@[ext] theorem ext {a b : Attributes} (h : a.entries = b.entries) : a = b := by
  cases a
  cases b
  cases h
  rfl

def empty : Attributes := ⟨[], List.nodup_nil⟩

instance : Inhabited Attributes := ⟨empty⟩

def keys (a : Attributes) : List String := a.entries.map Prod.fst

def get? (a : Attributes) (key : String) : Option Value := a.entries.lookup key

def contains (a : Attributes) (key : String) : Bool := a.keys.contains key

def size (a : Attributes) : Nat := a.entries.length

def isEmpty (a : Attributes) : Bool := a.entries.isEmpty

def replaced (entries : List (String × Value)) (key : String) (value : Value) :
    List (String × Value) :=
  entries.map fun e => if e.1 = key then (key, value) else e

theorem fst_replaced (entries : List (String × Value)) (key : String) (value : Value) :
    (replaced entries key value).map Prod.fst = entries.map Prod.fst := by
  rw [replaced, List.map_map]
  apply List.map_congr_left
  intro e _
  simp only [Function.comp_apply]
  split
  · next h => exact h.symm
  · rfl

/-- Sets the value of `key`: in place if the name is there, else at the end. -/
def insert (a : Attributes) (key : String) (value : Value) : Attributes :=
  if h : key ∈ a.keys then
    ⟨replaced a.entries key value, by rw [fst_replaced]; exact a.nodup⟩
  else
    ⟨a.entries ++ [(key, value)], by
      rw [List.map_append, List.nodup_append]
      refine ⟨a.nodup, by simp, ?_⟩
      intro x hx y hy
      simp only [List.map_cons, List.map_nil, List.mem_singleton] at hy
      rintro rfl
      exact h (hy ▸ hx)⟩

def insertAll (a : Attributes) (entries : List (String × Value)) : Attributes :=
  entries.foldl (fun acc e => acc.insert e.1 e.2) a

/-- All of `a`, then all of `b`, whose values win. -/
def extend (a b : Attributes) : Attributes := a.insertAll b.entries

def ofList (entries : List (String × Value)) : Attributes := empty.insertAll entries

def mapValues (f : Value → Value) (a : Attributes) : Attributes :=
  ⟨a.entries.map fun e => (e.1, f e.2), by
    rw [List.map_map]
    exact a.nodup⟩

@[simp] theorem keys_empty : empty.keys = [] := rfl

@[simp] theorem keys_mapValues (f : Value → Value) (a : Attributes) :
    (a.mapValues f).keys = a.keys := by
  simp [keys, mapValues]

theorem keys_nodup (a : Attributes) : a.keys.Nodup := a.nodup

theorem keys_insert_of_mem {a : Attributes} {key : String} (value : Value) (h : key ∈ a.keys) :
    (a.insert key value).keys = a.keys := by
  rw [insert, dif_pos h]
  exact fst_replaced a.entries key value

theorem keys_insert_of_not_mem {a : Attributes} {key : String} (value : Value) (h : key ∉ a.keys) :
    (a.insert key value).keys = a.keys ++ [key] := by
  rw [insert, dif_neg h]
  simp [keys]

end Attributes

end Changelog
