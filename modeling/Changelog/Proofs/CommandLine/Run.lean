import Changelog.CommandLine.Run
import Changelog.Proofs.Loading.Machine
import Changelog.Proofs.Resource.FileTree
import Changelog.Proofs.Source.Document

/-!
# What a run leaves

A run that stops before its report leaves all files as they were.  A run that comes to its end has said
or written the report of the document, and has written nothing else.
-/

namespace Changelog.CommandLine

def workspaceOf (tree : FileTree) (settings : Settings) : Workspace :=
  ⟨tree.accessor settings.reading.searchPath, settings.registry, settings.options⟩

/-- A run stops before its report: at the file of settings, at the settings with what the command line
gives in their place, at a filter, or at the changelog. -/
inductive Stopped (tree : FileTree) (a : Arguments) (path : String) : Prop
  | file {failure : Failure} (h : fileSettings tree a.config = .error failure)
  | options {base : Settings} {error : SettingsError} (hbase : fileSettings tree a.config = .ok base)
      (h : (override base a).validate = .error error)
  | filters {base : Settings} {f : String × FilterSettings} {cause : PatternError}
      (hbase : fileSettings tree a.config = .ok base) (hf : f ∈ (override base a).filters)
      (h : Settings.filter f.2 = .error cause)
  | changelog {base : Settings} {error : ChangelogError}
      (hbase : fileSettings tree a.config = .ok base)
      (h : (workspaceOf tree (override base a)).load path = .error error)

/-- A run comes to its report: the settings are in order, and so is the changelog under them. -/
structure Loaded (tree : FileTree) (a : Arguments) (path : String) (settings : Settings)
    (document : Document) : Prop where
  base : ∃ base, fileSettings tree a.config = .ok base ∧ settings = override base a
  valid : settings.validate = .ok ()
  document : (workspaceOf tree settings).load path = .ok document

theorem Loaded.unique {tree : FileTree} {a : Arguments} {path : String} {settings other : Settings}
    {document found : Document} (h : Loaded tree a path settings document)
    (hother : Loaded tree a path other found) : settings = other ∧ document = found := by
  obtain ⟨⟨base, hbase, rfl⟩, -, hdocument⟩ := h
  obtain ⟨⟨again, hagain, rfl⟩, -, hfound⟩ := hother
  obtain rfl : base = again := Except.ok.inj (hbase.symm.trans hagain)
  exact ⟨rfl, Except.ok.inj (hdocument.symm.trans hfound)⟩

theorem filter_of_validate {settings : Settings} (h : settings.validate = .ok ())
    {f : String × FilterSettings} (hf : f ∈ settings.filters) :
    ∃ filter, Settings.filter f.2 = .ok filter := by
  have hfault : settings.fault? = none := by
    unfold Settings.validate at h
    split at h
    · cases h
    · assumption
  have hfilters : settings.filters.findSome? (fun f => Settings.filterFault? f.1 f.2) = none := by
    unfold Settings.fault? at hfault
    dsimp only at hfault
    split at hfault
    · cases hfault
    · split at hfault
      · cases hfault
      · exact hfault
  have hnone := List.findSome?_eq_none_iff.1 hfilters f hf
  unfold Settings.filterFault? at hnone
  split at hnone
  · next filter hfilter => exact ⟨filter, hfilter⟩
  · cases hnone

theorem settingsOf_of_invalid {tree : FileTree} {a : Arguments} {base : Settings}
    {error : SettingsError} (hbase : fileSettings tree a.config = .ok base)
    (h : (override base a).validate = .error error) :
    settingsOf tree a = .error (.optionsInvalid error) := by
  rw [settingsOf, hbase]
  show ((override base a).validate.mapError Failure.optionsInvalid >>= fun _ => _) = _
  rw [h]
  rfl

theorem settingsOf_of_valid {tree : FileTree} {a : Arguments} {base : Settings}
    (hbase : fileSettings tree a.config = .ok base) (h : (override base a).validate = .ok ()) :
    settingsOf tree a = .ok (override base a) := by
  rw [settingsOf, hbase]
  show ((override base a).validate.mapError Failure.optionsInvalid >>= fun _ => _) = _
  rw [h]
  rfl

theorem loaded_or_stopped (tree : FileTree) (a : Arguments) (path : String) :
    (∃ settings document, Loaded tree a path settings document) ∨ Stopped tree a path := by
  cases hbase : fileSettings tree a.config with
  | error failure => exact Or.inr (.file hbase)
  | ok base =>
    cases hvalid : (override base a).validate with
    | error error => exact Or.inr (.options hbase hvalid)
    | ok valid =>
      cases hload : (workspaceOf tree (override base a)).load path with
      | error error => exact Or.inr (.changelog hbase hload)
      | ok document => exact Or.inl ⟨_, document, ⟨base, hbase, rfl⟩, hvalid, hload⟩

/-! ### Runs that stop -/

/-- A run that has failed without saying or writing anything but why. -/
structure Untouched (tree : FileTree) (outcome : Outcome) : Prop where
  exit : outcome.exit = 2
  output : outcome.output = ""
  tree : outcome.tree = tree

theorem untouched_failed (tree : FileTree) (failure : Failure) : Untouched tree (failed tree failure) :=
  ⟨rfl, rfl, rfl⟩

theorem runOn_of_settings_error {tree : FileTree} {a : Arguments} {failure : Failure}
    (h : settingsOf tree a = .error failure) (path : String) :
    runOn tree a path = failed tree failure := by
  rw [runOn, h]
  rfl

theorem runOn_of_settings {tree : FileTree} {a : Arguments} {settings : Settings}
    (h : settingsOf tree a = .ok settings) (path : String) :
    runOn tree a path =
      match (workspaceOf tree settings).load path with
      | .error error => failed tree (.changelogUnusable path error)
      | .ok document => report tree settings document := by
  have hdocument : documentOf tree settings path =
      ((workspaceOf tree settings).load path).mapError (.changelogUnusable path) := rfl
  rw [runOn, h]
  show (match (documentOf tree settings path >>= fun document => _) with
    | .error failure => failed tree failure
    | .ok (settings, document) => report tree settings document) = _
  rw [hdocument]
  cases (workspaceOf tree settings).load path <;> rfl

theorem untouched_of_stopped {tree : FileTree} {a : Arguments} {path : String}
    (h : Stopped tree a path) : Untouched tree (runOn tree a path) := by
  have hinvalid : ∀ {base error}, fileSettings tree a.config = .ok base →
      (override base a).validate = .error error → Untouched tree (runOn tree a path) := by
    intro base error hbase hvalid
    rw [runOn_of_settings_error (settingsOf_of_invalid hbase hvalid)]
    exact untouched_failed tree _
  cases h with
  | @file failure h =>
    have hsettings : settingsOf tree a = .error failure := by
      rw [settingsOf, h]
      rfl
    rw [runOn_of_settings_error hsettings]
    exact untouched_failed tree _
  | options hbase h => exact hinvalid hbase h
  | @filters base f cause hbase hf h =>
    -- A filter that is none makes the settings invalid, so the run stops one stage before it.
    cases hvalid : (override base a).validate with
    | error error => exact hinvalid hbase hvalid
    | ok valid =>
      obtain ⟨filter, hfilter⟩ := filter_of_validate hvalid hf
      rw [h] at hfilter
      cases hfilter
  | @changelog base error hbase h =>
    cases hvalid : (override base a).validate with
    | error error => exact hinvalid hbase hvalid
    | ok valid =>
      rw [runOn_of_settings (settingsOf_of_valid hbase hvalid), h]
      exact untouched_failed tree _

/-! ### Runs that come to their end -/

/-- The report of a document, and nothing else, is in a file of a directory. -/
structure Placed (before after : FileTree) (directory name text : String) : Prop where
  file : ∃ inside, after.directoryPlace directory = .ok inside ∧
    after.item? (inside ++ [name]) = some (.text text) ∧
    ∀ place, place ≠ inside ++ [name] → after.item? place = before.item? place ∨
      (before.item? place = none ∧ after.item? place = some .directory)
  working : after.working = before.working

/-- What is said and written of a document: its report, once. -/
def Reported (tree : FileTree) (settings : Settings) (document : Document) (outcome : Outcome) : Prop :=
  match settings.report.directory with
  | none =>
    outcome.output = (reportOf settings.report.format document).1 ∧ outcome.tree = tree
  | some directory =>
    outcome.output = "" ∧
      Placed tree outcome.tree directory (reportOf settings.report.format document).2
        (reportOf settings.report.format document).1

theorem isName_reportOf (format : String) (document : Document) :
    FileTree.IsName (reportOf format document).2 := by
  have hjson : FileTree.IsName "changelog.json" := by constructor <;> decide
  have htext : FileTree.IsName "changelog.txt" := by constructor <;> decide
  unfold reportOf
  split
  · exact hjson
  · exact htext

theorem runOn_of_loaded {tree : FileTree} {a : Arguments} {path : String} {settings : Settings}
    {document : Document} (h : Loaded tree a path settings document) :
    runOn tree a path = report tree settings document := by
  obtain ⟨⟨base, hbase, rfl⟩, hvalid, hload⟩ := h
  rw [runOn_of_settings (settingsOf_of_valid hbase hvalid), hload]

theorem deliver_of_directory {tree : FileTree} {settings : Settings} {directory : String}
    (h : settings.report.directory = some directory) (document : Document) :
    deliver tree settings document =
      (tree.write (FileTree.join directory (reportOf settings.report.format document).2)
        (reportOf settings.report.format document).1).map ("", ·) := by
  unfold deliver
  rw [h]

theorem placed_of_write {tree ready after : FileTree} {directory name text : String}
    (hname : FileTree.IsName name) (hready : FileTree.Grown tree ready)
    (h : ready.write (FileTree.join directory name) text = .ok after) :
    Placed tree after directory name text := by
  obtain ⟨inside, hinside, hfile, hsame, hworking⟩ := FileTree.write_join hname h
  refine ⟨⟨inside, hinside, hfile, fun place hplace => ?_⟩, hworking.trans hready.working⟩
  rw [hsame place hplace]
  exact hready.item place

theorem reported_of_exit {tree : FileTree} {settings : Settings} {document : Document}
    (h : (report tree settings document).exit = 0) :
    Reported tree settings document (report tree settings document) := by
  have hfailed : ∀ tree failure, (failed tree failure).exit ≠ 0 := fun _ _ =>
    show (2 : UInt32) ≠ 0 by decide
  unfold Reported
  cases hdirectory : settings.report.directory with
  | none =>
    have hprepare : prepare tree settings = .ok tree := by rw [prepare, hdirectory]
    have hdeliver : deliver tree settings document =
        .ok ((reportOf settings.report.format document).1, tree) := by
      unfold deliver
      rw [hdirectory]
    simp only [report, hprepare, hdeliver, and_self]
  | some directory =>
    -- Neither the directory nor the file may have failed, since the run then exits otherwise.
    cases hprepare : prepare tree settings with
    | error cause =>
      simp only [report, hprepare] at h
      exact absurd h (hfailed _ _)
    | ok ready =>
      have hgrown : FileTree.Grown tree ready := by
        rw [prepare, hdirectory] at hprepare
        exact FileTree.grown_makeDirectory hprepare
      have hdeliver := @deliver_of_directory ready settings directory hdirectory document
      cases hwrite : ready.write
          (FileTree.join directory (reportOf settings.report.format document).2)
          (reportOf settings.report.format document).1 with
      | error cause =>
        rw [hwrite] at hdeliver
        simp only [report, hprepare, hdeliver, Except.map] at h
        exact absurd h (hfailed _ _)
      | ok after =>
        rw [hwrite] at hdeliver
        simp only [report, hprepare, hdeliver, Except.map]
        exact ⟨trivial, placed_of_write (isName_reportOf _ document) hgrown hwrite⟩

/-! ### All runs -/

theorem changelog_of_read {database : Option String} {args : List String} {a : Arguments}
    (h : read database args = .ok a) : ∃ path, a.changelog = some path := by
  obtain ⟨b, -, hchecked⟩ := bind_eq_ok h
  split at hchecked
  · cases hchecked
  · next hsome =>
    obtain ⟨path, hpath⟩ := Option.ne_none_iff_exists'.1 (by simpa using hsome)
    obtain rfl := Except.ok.inj hchecked
    exact ⟨path, hpath⟩

theorem run_of_read (tree : FileTree) {database : Option String} {args : List String} {a : Arguments}
    {path : String} (h : read database args = .ok a) (hpath : a.changelog = some path) :
    run tree database args = runOn tree a path := by
  rw [run, h]
  show runOn tree a (a.changelog.getD "") = _
  rw [hpath]
  rfl

/-- A run that stops before its report leaves everything as it was and prints nothing; one that
succeeds prints the report or writes it to its directory, and changes no other file. -/
theorem run_leaves (tree : FileTree) {database : Option String} {args : List String} {a : Arguments}
    (h : read database args = .ok a) :
    ∃ path, a.changelog = some path ∧
      (Stopped tree a path → Untouched tree (run tree database args)) ∧
      ((run tree database args).exit = 0 → ∃ settings document,
        Loaded tree a path settings document ∧
          Reported tree settings document (run tree database args)) := by
  obtain ⟨path, hpath⟩ := changelog_of_read h
  have hrun := run_of_read tree h hpath
  refine ⟨path, hpath, ?_, ?_⟩
  · intro hstopped
    rw [hrun]
    exact untouched_of_stopped hstopped
  · intro hexit
    rw [hrun] at hexit ⊢
    obtain ⟨settings, document, hloaded⟩ | hstopped := loaded_or_stopped tree a path
    · rw [runOn_of_loaded hloaded] at hexit ⊢
      exact ⟨settings, document, hloaded, reported_of_exit hexit⟩
    · rw [(untouched_of_stopped hstopped).exit] at hexit
      exact absurd hexit (by decide)

def bareText : String := "databaseChangeLog \x7b\x7d"

def bareTree : FileTree where
  entries := [(["w"], .directory), (["w", "main"], .text bareText),
    (["w", "changelog.json"], .text "earlier")]
  working := ["w"]

def reportingTree : FileTree where
  entries := [(["w"], .directory), (["w", "main"], .text bareText),
    (["w", "changelog-dsl.toml"], .text "output.dir = \"out\"")]
  working := ["w"]

def bareSource : Written.Document where
  before := []
  inside := .last (.node (.ofString "databaseChangeLog") .none (.braces [false] [] .nil []))
  after := []

theorem load_of_bareText {workspace : Workspace}
    (hread : workspace.accessor.read "main" = .ok bareText) :
    workspace.load "main" = .ok (.ofPath "main") := by
  have htext : bareSource.text = bareText.toList := by decide
  have helements := Written.readElements_of_text htext (by decide)
  rw [Workspace.load, Loading.loadFile_of_read (by decide) hread, Build.documentOfSource, helements]
  with_unfolding_all rfl

theorem loaded_bareTree :
    Loaded bareTree { changelog := some "main" } "main" {} (.ofPath "main") where
  base := ⟨{}, by with_unfolding_all rfl, rfl⟩
  valid := by with_unfolding_all rfl
  document := load_of_bareText (by with_unfolding_all rfl)

theorem fileSettings_reportingTree :
    fileSettings reportingTree none = .ok { report := { directory := some "out" } } := by
  have hoption : (fileSettings reportingTree none).toOption =
      some { report := { directory := some "out" } } := by
    decide +kernel
  cases h : fileSettings reportingTree none with
  | error failure =>
    rw [h] at hoption
    cases hoption
  | ok settings =>
    rw [h] at hoption
    rw [Option.some.inj hoption]

theorem loaded_reportingTree :
    Loaded reportingTree { changelog := some "main", format := some "json" } "main"
      { report := { directory := some "out", format := "json" } } (.ofPath "main") where
  base := ⟨_, fileSettings_reportingTree, rfl⟩
  valid := by with_unfolding_all rfl
  document := load_of_bareText (by with_unfolding_all rfl)

theorem run_leaves_bareTree :
    Untouched bareTree (run bareTree none ["main", "--config=absent"]) ∧
      ((run bareTree none ["main"]).exit = 0 ∧
        (run bareTree none ["main"]).output = "databaseChangeLog main\n" ∧
        (run bareTree none ["main"]).tree = bareTree) ∧
      (run reportingTree none ["main", "--format=json"]).exit = 0 ∧
      (run reportingTree none ["main", "--format=json"]).output = "" ∧
      Placed reportingTree (run reportingTree none ["main", "--format=json"]).tree "out" "changelog.json"
        ("\x7b\n  \"logicalFilePath\": \"main\",\n  \"physicalFilePath\": \"main\",\n" ++
          "  \"changeSets\": []\n\x7d\n") := by
  have habsent : fileSettings bareTree (some "absent") = .error (.settingsMissing "absent") := by
    with_unfolding_all rfl
  have hstops : read none ["main", "--config=absent"] =
      .ok { config := some "absent", changelog := some "main" } := by
    with_unfolding_all rfl
  have hprints : read none ["main"] = .ok { changelog := some "main" } := by
    with_unfolding_all rfl
  have hwrites : read none ["main", "--format=json"] =
      .ok { changelog := some "main", format := some "json" } := by
    with_unfolding_all rfl
  have hprinted : (run bareTree none ["main"]).exit = 0 := by
    rw [run_of_read bareTree hprints rfl, runOn_of_loaded loaded_bareTree]
    rfl
  have hwritten : (run reportingTree none ["main", "--format=json"]).exit = 0 := by
    rw [run_of_read reportingTree hwrites rfl, runOn_of_loaded loaded_reportingTree]
    decide +kernel
  obtain ⟨path, hpath, hstopped, -⟩ := run_leaves bareTree hstops
  have huntouched := hstopped (.file habsent)
  obtain ⟨path, hpath, -, hreported⟩ := run_leaves bareTree hprints
  obtain rfl : "main" = path := Option.some.inj hpath
  obtain ⟨settings, document, hloaded, hreport⟩ := hreported hprinted
  obtain ⟨rfl, rfl⟩ := hloaded.unique loaded_bareTree
  obtain ⟨path, hpath, -, hreported⟩ := run_leaves reportingTree hwrites
  obtain rfl : "main" = path := Option.some.inj hpath
  obtain ⟨settings, document, hloaded, hfile⟩ := hreported hwritten
  obtain ⟨rfl, rfl⟩ := hloaded.unique loaded_reportingTree
  have houtline : (reportOf "text" (.ofPath "main")).1 = "databaseChangeLog main\n" := by
    decide +kernel
  have hjson : (reportOf "json" (.ofPath "main")).1 =
      "\x7b\n  \"logicalFilePath\": \"main\",\n  \"physicalFilePath\": \"main\",\n" ++
        "  \"changeSets\": []\n\x7d\n" := by
    decide +kernel
  refine ⟨huntouched, ⟨hprinted, hreport.1.trans houtline, hreport.2⟩, hwritten, hfile.1, ?_⟩
  rw [← hjson]
  exact hfile.2

end Changelog.CommandLine
