import Changelog.Settings.Basic
import Changelog.Toml.Reader

/-!
# Reading settings

Settings are read from a TOML document.  A section is a table, or an array with its members in a fixed
order; what is missing has its default, and what is not known is left aside.
-/

namespace Changelog.Settings

inductive Section
  | table (entries : List (String × Toml))
  | row (items : List Toml)

namespace Section

/-- The section that a value is; a moment is one with no member that is known. -/
def ofValue? (value : Toml) : Option Section :=
  match value with
  | .moment _ => some (.table [])
  | .table _ entries => some (.table entries)
  | value => value.asItems?.map .row

/-- The member with a key, which is at a fixed place of a row. -/
def get? (key : String) (place : Nat) : Section → Option Toml
  | .table entries => entries.lookup key
  | .row items => items[place]?

def withDefault {α : Type} (s : Section) (key : String) (place : Nat) (default : α)
    (read : Toml → Option α) : Option α :=
  match s.get? key place with
  | some value => read value
  | none => some default

/-- A text that may be missing from a table; a row is long enough to have it. -/
def text? (s : Section) (key : String) (place : Nat) : Option (Option String) :=
  match s.get? key place, s with
  | some value, _ => value.asString?.map some
  | none, .table _ => some none
  | none, .row _ => none

end Section

def texts? (value : Toml) : Option (List String) := do
  (← value.asItems?).mapM Toml.asString?

def readSettings? (value : Toml) : Option ReadSettings := do
  let s ← Section.ofValue? value
  let searchPath ← s.withDefault "search_path" 0 "." Toml.asString?
  let contexts ← s.withDefault "contexts" 1 [] texts?
  let labels ← s.withDefault "labels" 2 [] texts?
  let database ← s.text? "database" 3
  let extension ← s.withDefault "extension" 4 defaultExtension Toml.asString?
  return ⟨searchPath, contexts, labels, database, extension⟩

def filterSettings? (value : Toml) : Option FilterSettings := do
  let s ← Section.ofValue? value
  let wanted ← s.text? "include" 0
  let unwanted ← s.text? "exclude" 1
  return ⟨wanted, unwanted⟩

def filters? (value : Toml) : Option (List (String × FilterSettings)) := do
  let entries ← value.asEntries?
  let filters ← entries.mapM fun e => (filterSettings? e.2).map fun f => (e.1, f)
  return filters.mergeSort fun a b => a.1 ≤ b.1

def reportSettings? (value : Toml) : Option ReportSettings := do
  let s ← Section.ofValue? value
  let format ← s.withDefault "format" 0 "text" Toml.asString?
  let directory ← s.text? "dir" 1
  return ⟨format, directory⟩

def ofEntries? (entries : Toml.Entries) : Option Settings := do
  let root := Section.table entries
  let reading ← root.withDefault "parser" 0 {} readSettings?
  let filters ← root.withDefault "filters" 1 [] filters?
  let report ← root.withDefault "output" 2 {} reportSettings?
  return ⟨reading, filters, report⟩

def ofText (text : String) : Except SettingsError Settings := do
  match (Toml.read? text).bind ofEntries? with
  | none => .error .malformed
  | some settings =>
    settings.validate
    return settings

def load (content : Except ResourceError String) : Except SettingsError Settings :=
  match content with
  | .ok text => ofText text
  | .error cause => .error (.unreadable cause)

end Changelog.Settings
