import Changelog.Toml.Basic

/-!
# Filling TOML tables

Tables are filled by entries and opened by headers.  A key is written once; a table is opened once, and
one made by a key with dots, or written in braces, is not opened at all.
-/

namespace Changelog.Toml

abbrev Entries := List (String × Toml)

def put (key : String) (value : Toml) : Entries → Entries
  | [] => [(key, value)]
  | e :: rest => if e.1 = key then (key, value) :: rest else e :: put key value rest

/-- The table that keys lead to, changed by `change`.  Tables that are missing on the way are made; a
key with dots does not lead through a table that has a header of its own. -/
def alter (dotted : Bool) (change : TableKind → Entries → Option (TableKind × Entries)) :
    List String → TableKind → Entries → Option (TableKind × Entries)
  | [], kind, entries => change kind entries
  | key :: path, kind, entries =>
    match entries.lookup key with
    | none => do
      let (k, es) ← alter dotted change path (if dotted then .dotted else .passed) []
      some (kind, put key (.table k es) entries)
    | some (.table k es) =>
      if k = .closed ∨ (dotted ∧ k = .opened) then none
      else do
        let (k, es) ← alter dotted change path k es
        some (kind, put key (.table k es) entries)
    | some (.tables (newest :: older)) => do
      let (_, es) ← alter dotted change path .opened newest
      some (kind, put key (.tables (es :: older)) entries)
    | some _ => none

/-- A new entry; one with dots in its key goes only into a table that such keys have made. -/
def addValue (dotted : Bool) (key : String) (value : Toml) (kind : TableKind) (entries : Entries) :
    Option (TableKind × Entries) :=
  if (kind == .dotted) != dotted ∨ (entries.lookup key).isSome then none
  else some (kind, put key value entries)

def addEntry (path : List String) (value : Toml) (kind : TableKind) (entries : Entries) :
    Option (TableKind × Entries) :=
  match path.getLast? with
  | none => none
  | some key =>
    let dotted := path.length > 1
    alter dotted (addValue dotted key value) path.dropLast kind entries

def openTable (key : String) (kind : TableKind) (entries : Entries) :
    Option (TableKind × Entries) :=
  match entries.lookup key with
  | none => some (kind, put key (.table .opened []) entries)
  | some (.table .passed inside) => some (kind, put key (.table .opened inside) entries)
  | some _ => none

def pushTable (key : String) (kind : TableKind) (entries : Entries) :
    Option (TableKind × Entries) :=
  match entries.lookup key with
  | none => some (kind, put key (.tables [[]]) entries)
  | some (.tables newestFirst) => some (kind, put key (.tables ([] :: newestFirst)) entries)
  | some _ => none

inductive Statement
  /-- The header of a table, or with `many` of one more table of a list. -/
  | header (many : Bool) (path : List String)
  | entry (path : List String) (value : Toml)

/-- A document as far as it is read: the keys of the table that entries go into, and the entries of the
root. -/
structure Draft where
  path : List String
  entries : Entries

def Draft.add (draft : Draft) : Statement → Option Draft
  | .header many path => do
    let key ← path.getLast?
    let change := if many then pushTable key else openTable key
    let (_, entries) ← alter false change path.dropLast .opened draft.entries
    some ⟨path, entries⟩
  | .entry path value => do
    let (_, entries) ← alter false (addEntry path value) draft.path .opened draft.entries
    some { draft with entries := entries }

def closedTable? (members : List (List String × Toml)) : Option Toml := do
  let (_, entries) ← members.foldlM (fun t m => addEntry m.1 m.2 t.1 t.2) (TableKind.opened, [])
  some (.table .closed entries)

end Changelog.Toml
