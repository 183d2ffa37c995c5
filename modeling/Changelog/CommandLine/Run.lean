import Changelog.CommandLine.Arguments
import Changelog.Loading
import Changelog.Report.Json
import Changelog.Report.Outline
import Changelog.Resource.FileTree
import Changelog.Settings.Reader

/-!
# Running a command line

The changelog is loaded under the settings of a file and of the command line, and reported on.  What is
said of errors names each cause after the error it is the cause of.
-/

namespace Changelog.CommandLine

inductive Failure
  | settingsMissing (path : String)
  | settingsUnusable (error : SettingsError)
  | optionsInvalid (error : SettingsError)
  | changelogUnusable (path : String) (error : ChangelogError)
  | reportUnwritable (format : String) (cause : ResourceError)

/-- What is said of settings: an error of the system is named once more, as its own cause. -/
def settingsReason : SettingsError → String
  | .unreadable cause => (SettingsError.unreadable cause).message ++ ": " ++ cause.message
  | error => error.message

def changelogReason (error : ChangelogError) : String :=
  match error.cause? with
  | some cause => error.message ++ ": " ++ cause.message
  | none => error.message

def Failure.message : Failure → String
  | .settingsMissing path => "Config file not found: " ++ path
  | .settingsUnusable error => "Failed to load configuration: " ++ settingsReason error
  | .optionsInvalid error => "Invalid command-line options: " ++ settingsReason error
  | .changelogUnusable path error =>
    "Failed to parse changelog " ++ path ++ ": " ++ changelogReason error
  | .reportUnwritable format cause =>
    "Failed to write " ++ format ++ " report: IO error writing report: " ++ cause.message ++ ": " ++
      cause.message

def defaultSettingsPath : String := "changelog-dsl.toml"

/-- The settings of the file that the command line names, or of the default one. -/
def fileSettings (tree : FileTree) (config : Option String) : Except Failure Settings :=
  match config with
  | some path =>
    if tree.has path then (Settings.load (tree.read path)).mapError .settingsUnusable
    else .error (.settingsMissing path)
  | none =>
    if tree.has defaultSettingsPath then
      (Settings.load (tree.read defaultSettingsPath)).mapError .settingsUnusable
    else .ok {}

/-- Settings with what the command line gives in their place. -/
def override (settings : Settings) (a : Arguments) : Settings :=
  { settings with
    reading :=
      { settings.reading with
        contexts := (a.contexts.map Text.splitItems).getD settings.reading.contexts
        labels := (a.labels.map Text.splitItems).getD settings.reading.labels
        database := a.database.or settings.reading.database }
    report := { settings.report with format := a.format.getD settings.report.format } }

def settingsOf (tree : FileTree) (a : Arguments) : Except Failure Settings := do
  let settings := override (← fileSettings tree a.config) a
  settings.validate.mapError .optionsInvalid
  return settings

structure Outcome where
  exit : UInt32
  output : String
  messages : String
  tree : FileTree

def reportOf (format : String) (document : Document) : String × String :=
  if format = "json" then (jsonReport document, "changelog.json")
  else (Outline.text document, "changelog.txt")

def prepare (tree : FileTree) (settings : Settings) : Except ResourceError FileTree :=
  match settings.report.directory with
  | some directory => tree.makeDirectory directory
  | none => .ok tree

def deliver (tree : FileTree) (settings : Settings) (document : Document) :
    Except ResourceError (String × FileTree) :=
  let (text, name) := reportOf settings.report.format document
  match settings.report.directory with
  | some directory => (tree.write (FileTree.join directory name) text).map ("", ·)
  | none => .ok (text, tree)

def failed (tree : FileTree) (failure : Failure) : Outcome :=
  ⟨2, "", "Error: " ++ failure.message ++ "\n", tree⟩

def summary (document : Document) : String :=
  "changelog-dsl: " ++ toString document.changeSets.length ++ " change set(s) from " ++
    document.physicalPath ++ "\n"

def documentOf (tree : FileTree) (settings : Settings) (path : String) :
    Except Failure Document :=
  let workspace : Workspace :=
    ⟨tree.accessor settings.reading.searchPath, settings.registry, settings.options⟩
  (workspace.load path).mapError (.changelogUnusable path)

def report (tree : FileTree) (settings : Settings) (document : Document) : Outcome :=
  let unwritable := Failure.reportUnwritable settings.report.format
  match prepare tree settings with
  | .error cause => failed tree (unwritable cause)
  | .ok ready =>
    match deliver ready settings document with
    | .error cause => failed ready (unwritable cause)
    | .ok (output, written) => ⟨0, output, summary document, written⟩

def runOn (tree : FileTree) (a : Arguments) (path : String) : Outcome :=
  let prepared : Except Failure (Settings × Document) := do
    let settings ← settingsOf tree a
    return (settings, ← documentOf tree settings path)
  match prepared with
  | .error failure => failed tree failure
  | .ok (settings, document) => report tree settings document

def usage : String := "Usage: changelog-dsl [OPTIONS] <CHANGELOG>\n"

/-- Runs a command line in a tree; `database` is the database that the environment names. -/
def run (tree : FileTree) (database : Option String) (args : List String) : Outcome :=
  match read database args with
  | .error .help => ⟨0, usage, "", tree⟩
  | .error .misuse => ⟨2, "", usage, tree⟩
  | .ok a => runOn tree a (a.changelog.getD "")

end Changelog.CommandLine
