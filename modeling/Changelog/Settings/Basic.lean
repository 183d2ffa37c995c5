import Changelog.Resource.Accessor
import Changelog.Workspace

namespace Changelog

structure ReadSettings where
  searchPath : String := "."
  contexts : List String := []
  labels : List String := []
  database : Option String := none
  extension : String := defaultExtension
deriving DecidableEq

/-- The patterns of a filter: one that has to be found in a path and one that must not. -/
structure FilterSettings where
  wanted : Option String
  unwanted : Option String
deriving DecidableEq

structure ReportSettings where
  format : String := "text"
  /-- The directory that the report goes to instead of the terminal. -/
  directory : Option String := none
deriving DecidableEq

/-- The settings of a run; the filters are in the order of their names. -/
structure Settings where
  reading : ReadSettings := {}
  filters : List (String × FilterSettings) := []
  report : ReportSettings := {}
deriving DecidableEq

inductive SettingsFault
  | unknownFormat (format : String)
  | badExtension (extension : String)
  | badFilter (name : String) (cause : PatternError)
deriving DecidableEq, Repr

inductive SettingsError
  | unreadable (cause : ResourceError)
  | malformed
  | invalid (fault : SettingsFault)
deriving DecidableEq, Repr

def reportFormats : List String := ["text", "json"]

def SettingsFault.message : SettingsFault → String
  | .unknownFormat format =>
    "invalid output format '" ++ format ++ "'. Valid values: " ++ ", ".intercalate reportFormats
  | .badExtension extension =>
    "invalid extension '" ++ extension ++ "'. Give the extension without a leading dot"
  | .badFilter name cause => "filter '" ++ name ++ "': " ++ cause.message

def SettingsError.message : SettingsError → String
  | .unreadable cause => "IO error reading config file: " ++ cause.message
  | .malformed => "TOML parse error"
  | .invalid fault => "Invalid configuration: " ++ fault.message

namespace Settings

def filter (settings : FilterSettings) : Except PatternError PathFilter :=
  PathFilter.read settings.wanted settings.unwanted

def filterFault? (name : String) (settings : FilterSettings) : Option SettingsFault :=
  match filter settings with
  | .ok _ => none
  | .error cause => some (.badFilter name cause)

def fault? (settings : Settings) : Option SettingsFault :=
  let format := settings.report.format
  let extension := settings.reading.extension
  if !reportFormats.contains format then some (.unknownFormat format)
  else if extension = "" ∨ extension.toList.head? = some '.' then some (.badExtension extension)
  else settings.filters.findSome? fun f => filterFault? f.1 f.2

def validate (settings : Settings) : Except SettingsError Unit :=
  match settings.fault? with
  | some fault => .error (.invalid fault)
  | none => .ok ()

def options (settings : Settings) : Options where
  scope := ⟨settings.reading.contexts, settings.reading.labels, settings.reading.database⟩
  extension := settings.reading.extension

def registry (settings : Settings) : FilterRegistry :=
  settings.filters.foldl
    (fun filters f =>
      match filter f.2 with
      | .ok filter => filters.register f.1 filter
      | .error _ => filters)
    .empty

end Settings

end Changelog
