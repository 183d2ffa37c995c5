import Changelog.Build.Inclusion
import Changelog.Proofs.Build.Checks

/-!
# What inclusions pick up

An inclusion names a file, or a directory and a filter.  It picks up the file, or the files of the directory
that pass the filter, in the order of their paths.
-/

namespace Changelog.Build

/-- An inclusion of a file that passes its checks, with the path that it names. -/
structure NamesFile (site : Site) (e : Element) (path : String) : Prop where
  name : e.name = "include"
  within : e.attributes.Within includeAttributes
  args : e.args = []
  path : ∃ written, textOf? (site.expander.attributes e.attributes) "file" = some written ∧
    placeOf (site.expander.attributes e.attributes) site.expander.document written = path

def fileOf (site : Site) (e : Element) : Except ChangelogError String := do
  rejectRenamed "include" e.attributes "path" "includeAll" site.context
  checkAttributes "include" e.attributes includeAttributes site.context
  rejectPositional e.name e.args site.context
  let attributes := site.expander.attributes e.attributes
  let written ← requiredText attributes "include" "file" site.context
  return placeOf attributes site.expander.document written

theorem fileOf_eq_ok_iff {site : Site} {e : Element} {path : String} (hname : e.name = "include") :
    fileOf site e = .ok path ↔ NamesFile site e path := by
  constructor
  · intro h
    obtain ⟨_, -, h⟩ := bind_eq_ok h
    obtain ⟨_, hwithin, h⟩ := bind_eq_ok h
    obtain ⟨_, hargs, h⟩ := bind_eq_ok h
    obtain ⟨written, hwritten, h⟩ := bind_eq_ok h
    exact ⟨hname, (checkAttributes_eq_ok_iff _ _ _ _).1 hwithin, (rejectPositional_eq_ok_iff _ _ _).1 hargs,
      written, (requiredText_eq_ok_iff _ _ _ _ _).1 hwritten, Except.ok.inj h⟩
  · intro h
    obtain ⟨written, hwritten, rfl⟩ := h.path
    have hrequired := (requiredText_eq_ok_iff _ "include" "file" site.context written).2 hwritten
    have hold : "path" ∉ e.attributes.keys := fun hmem => absurd (h.within "path" hmem) (by decide)
    unfold fileOf
    rw [(rejectRenamed_eq_ok_iff _ _ _ _ _).2 hold, ok_bind, checkAttributes_of_within h.within, h.args,
      ok_bind, rejectPositional_nil, ok_bind]
    dsimp only
    rw [hrequired]
    rfl

theorem includedFile_eq (accessor : Accessor) (site : Site) (e : Element) :
    includedFile accessor site e = (fileOf site e >>= fun path =>
      let required := truthOf (site.expander.attributes e.attributes) "errorIfMissing" true
      .ok (if !required && !accessor.has path then [] else [path])) := by
  unfold includedFile fileOf
  simp only [bind_assoc, pure_bind]
  rfl

/-- An inclusion of a directory that passes its checks, with the directory and the filter that it names. -/
structure NamesDirectory (filters : FilterRegistry) (site : Site) (e : Element) (directory : String)
    (filter : PathFilter) : Prop where
  name : e.name = "includeAll"
  within : e.attributes.Within includeAllAttributes
  args : e.args = []
  path : ∃ written, textOf? (site.expander.attributes e.attributes) "path" = some written ∧
    placeOf (site.expander.attributes e.attributes) site.expander.document written = directory
  filter : namedFilter filters site (site.expander.attributes e.attributes) = .ok filter

def directoryOf (filters : FilterRegistry) (site : Site) (e : Element) :
    Except ChangelogError (String × PathFilter) := do
  checkAttributes "includeAll" e.attributes includeAllAttributes site.context
  rejectPositional e.name e.args site.context
  let attributes := site.expander.attributes e.attributes
  let written ← requiredText attributes "includeAll" "path" site.context
  let filter ← namedFilter filters site attributes
  return (placeOf attributes site.expander.document written, filter)

theorem directoryOf_eq_ok_iff {filters : FilterRegistry} {site : Site} {e : Element} {directory : String}
    {filter : PathFilter} (hname : e.name = "includeAll") :
    directoryOf filters site e = .ok (directory, filter) ↔
      NamesDirectory filters site e directory filter := by
  constructor
  · intro h
    obtain ⟨_, hwithin, h⟩ := bind_eq_ok h
    obtain ⟨_, hargs, h⟩ := bind_eq_ok h
    obtain ⟨written, hwritten, h⟩ := bind_eq_ok h
    obtain ⟨named, hfilter, h⟩ := bind_eq_ok h
    obtain ⟨rfl, rfl⟩ := Prod.mk.inj (Except.ok.inj h)
    exact ⟨hname, (checkAttributes_eq_ok_iff _ _ _ _).1 hwithin, (rejectPositional_eq_ok_iff _ _ _).1 hargs,
      ⟨written, (requiredText_eq_ok_iff _ _ _ _ _).1 hwritten, rfl⟩, hfilter⟩
  · intro h
    obtain ⟨written, hwritten, rfl⟩ := h.path
    have hrequired := (requiredText_eq_ok_iff _ "includeAll" "path" site.context written).2 hwritten
    unfold directoryOf
    rw [checkAttributes_of_within h.within, h.args, ok_bind, rejectPositional_nil, ok_bind]
    dsimp only
    rw [hrequired, ok_bind, h.filter]
    rfl

/-- The files of a listing that have the extension of changelogs and pass a filter. -/
def surviving (workspace : Workspace) (filter : PathFilter) (listed : List String) : List String :=
  listed.filter fun path => Path.hasExtension path workspace.options.extension && filter.accepts path

/-- The changelogs of a directory, in the order of their paths; if it has none, that is an error where some
are required. -/
def filesIn (workspace : Workspace) (required : Bool) (directory : String) (filter : PathFilter) :
    Except ChangelogError (List String) :=
  match workspace.accessor.list directory with
  | .error _ => if required then .error (.nothingToInclude directory true) else .ok []
  | .ok listed =>
    let files := changelogsOf workspace.options.extension filter listed
    if files.isEmpty && required then .error (.nothingToInclude directory false) else .ok files

theorem includedFiles_eq (workspace : Workspace) (site : Site) (e : Element) :
    includedFiles workspace site e = (directoryOf workspace.filters site e >>= fun named =>
      filesIn workspace (truthOf (site.expander.attributes e.attributes) "errorIfMissingOrEmpty" true)
        named.1 named.2) := by
  unfold includedFiles directoryOf
  simp only [bind_assoc, pure_bind]
  rfl

theorem sorted_changelogsOf (extension : String) (filter : PathFilter) (listed : List String) :
    (changelogsOf extension filter listed).Pairwise (· ≤ ·) := by
  have htrans : ∀ a b c : String, decide (a ≤ b) → decide (b ≤ c) → decide (a ≤ c) := by
    intro a b c hab hbc
    exact decide_eq_true (String.le_trans (of_decide_eq_true hab) (of_decide_eq_true hbc))
  have htotal : ∀ a b : String, decide (a ≤ b) || decide (b ≤ a) := by
    intro a b
    rw [← Bool.decide_or]
    exact decide_eq_true (String.le_total a b)
  exact (List.pairwise_mergeSort htrans htotal _).imp of_decide_eq_true

section Files

variable {workspace : Workspace} {directory : String} {filter : PathFilter}

theorem includedFiles_of_namesDirectory {site : Site} {e : Element}
    (h : NamesDirectory workspace.filters site e directory filter) :
    includedFiles workspace site e =
      filesIn workspace (truthOf (site.expander.attributes e.attributes) "errorIfMissingOrEmpty" true)
        directory filter := by
  rw [includedFiles_eq, (directoryOf_eq_ok_iff h.name).2 h, ok_bind]

theorem changelogsOf_perm (workspace : Workspace) (filter : PathFilter) (listed : List String) :
    (changelogsOf workspace.options.extension filter listed).Perm (surviving workspace filter listed) :=
  List.mergeSort_perm _ _

theorem changelogsOf_eq {listed files : List String} (hsorted : files.Pairwise (· ≤ ·))
    (hperm : files.Perm (surviving workspace filter listed)) :
    changelogsOf workspace.options.extension filter listed = files :=
  List.Perm.eq_of_pairwise (fun _ _ _ _ hab hba => String.le_antisymm hab hba)
    (sorted_changelogsOf _ _ _) hsorted
    ((changelogsOf_perm workspace filter listed).trans hperm.symm)

theorem filesIn_of_surviving {listed : List String} (hlisted : workspace.accessor.list directory = .ok listed)
    (hsome : surviving workspace filter listed ≠ []) (required : Bool) :
    filesIn workspace required directory filter =
      .ok (changelogsOf workspace.options.extension filter listed) := by
  have hfiles : (changelogsOf workspace.options.extension filter listed).isEmpty = false := by
    rw [List.isEmpty_eq_false_iff]
    intro hnil
    have hperm := changelogsOf_perm workspace filter listed
    rw [hnil] at hperm
    exact hsome hperm.nil_eq.symm
  rw [filesIn, hlisted]
  dsimp only
  rw [hfiles]
  rfl

theorem filesIn_of_none_surviving {listed : List String}
    (hlisted : workspace.accessor.list directory = .ok listed)
    (hnone : surviving workspace filter listed = []) (required : Bool) :
    filesIn workspace required directory filter =
      if required then .error (.nothingToInclude directory false) else .ok [] := by
  have hfiles : changelogsOf workspace.options.extension filter listed = [] := by
    have hperm := changelogsOf_perm workspace filter listed
    rw [hnone] at hperm
    exact hperm.eq_nil
  rw [filesIn, hlisted]
  dsimp only
  rw [hfiles]
  rfl

theorem filesIn_of_unlisted {cause : ResourceError}
    (hlisted : workspace.accessor.list directory = .error cause) (required : Bool) :
    filesIn workspace required directory filter =
      if required then .error (.nothingToInclude directory true) else .ok [] := by
  rw [filesIn, hlisted]

theorem filesIn_eq_ok_iff {required : Bool} {files : List String} :
    filesIn workspace required directory filter = .ok files ↔
      (∃ listed, workspace.accessor.list directory = .ok listed ∧ files.Pairwise (· ≤ ·) ∧
        files.Perm (surviving workspace filter listed) ∧ files ≠ []) ∨
      (required = false ∧ files = [] ∧
        ∀ listed, workspace.accessor.list directory = .ok listed → surviving workspace filter listed = []) := by
  -- A directory that cannot be listed and one without survivors end alike.
  have hlenient : ∀ {missing}, (if required then .error (.nothingToInclude directory missing) else .ok []) =
      (.ok files : Except ChangelogError (List String)) ↔ required = false ∧ files = [] := by
    intro missing
    cases required with
    | true => simp
    | false => simp [eq_comm]
  cases hlisted : workspace.accessor.list directory with
  | error cause =>
    rw [filesIn_of_unlisted hlisted, hlenient]
    simp
  | ok listed =>
    by_cases hnone : surviving workspace filter listed = []
    · rw [filesIn_of_none_surviving hlisted hnone, hlenient]
      simp [hnone]
    · rw [filesIn_of_surviving hlisted hnone]
      have hperm := changelogsOf_perm workspace filter listed
      constructor
      · intro h
        obtain rfl := Except.ok.inj h
        refine .inl ⟨listed, rfl, sorted_changelogsOf _ _ _, hperm, fun hnil => hnone ?_⟩
        rw [hnil] at hperm
        exact hperm.nil_eq.symm
      · rintro (⟨other, hother, hsorted, hfiles, -⟩ | ⟨-, -, hnothing⟩)
        · obtain rfl := Except.ok.inj hother
          rw [changelogsOf_eq hsorted hfiles]
        · exact absurd (hnothing listed rfl) hnone

end Files

/-- The files that an inclusion picks up: the one that it names, or those left of the directory that it names.
It picks up none if it may, where the file is missing, or the directory cannot be listed or has none left. -/
inductive PicksUp (workspace : Workspace) (site : Site) (e : Element) : List String → Prop
  | file {path : String} (h : NamesFile site e path)
      (hpresent : truthOf (site.expander.attributes e.attributes) "errorIfMissing" true = true ∨
        workspace.accessor.has path = true) : PicksUp workspace site e [path]
  | noFile {path : String} (h : NamesFile site e path)
      (hlenient : truthOf (site.expander.attributes e.attributes) "errorIfMissing" true = false)
      (habsent : workspace.accessor.has path = false) : PicksUp workspace site e []
  | directory {directory : String} {filter : PathFilter} {listed files : List String}
      (h : NamesDirectory workspace.filters site e directory filter)
      (hlisted : workspace.accessor.list directory = .ok listed) (hsorted : files.Pairwise (· ≤ ·))
      (hperm : files.Perm (surviving workspace filter listed)) (hsome : files ≠ []) :
      PicksUp workspace site e files
  | noDirectory {directory : String} {filter : PathFilter}
      (h : NamesDirectory workspace.filters site e directory filter)
      (hlenient : truthOf (site.expander.attributes e.attributes) "errorIfMissingOrEmpty" true = false)
      (hnone : ∀ listed, workspace.accessor.list directory = .ok listed →
        surviving workspace filter listed = []) : PicksUp workspace site e []

section PicksUp

variable {workspace : Workspace} {site : Site} {e : Element} {files : List String}

theorem PicksUp.name (h : PicksUp workspace site e files) :
    e.name = "include" ∨ e.name = "includeAll" := by
  cases h with
  | file h => exact .inl h.name
  | noFile h => exact .inl h.name
  | directory h => exact .inr h.name
  | noDirectory h => exact .inr h.name

theorem includedFile_of_namesFile {path : String} (h : NamesFile site e path) :
    includedFile workspace.accessor site e =
      .ok (if !truthOf (site.expander.attributes e.attributes) "errorIfMissing" true &&
        !workspace.accessor.has path then [] else [path]) := by
  rw [includedFile_eq, (fileOf_eq_ok_iff h.name).2 h, ok_bind]

theorem includedFile_eq_ok_iff (hname : e.name = "include") :
    includedFile workspace.accessor site e = .ok files ↔ PicksUp workspace site e files := by
  constructor
  · intro h
    obtain ⟨path, hpath, -⟩ := bind_eq_ok ((includedFile_eq ..).symm.trans h)
    have hfile := (fileOf_eq_ok_iff hname).1 hpath
    rw [includedFile_of_namesFile hfile] at h
    obtain rfl := Except.ok.inj h
    cases hrequired : truthOf (site.expander.attributes e.attributes) "errorIfMissing" true with
    | true => exact .file hfile (.inl hrequired)
    | false =>
      cases hhas : workspace.accessor.has path with
      | true => exact .file hfile (.inr hhas)
      | false => exact .noFile hfile hrequired hhas
  · intro h
    have hother : e.name ≠ "includeAll" := by
      rw [hname]
      decide
    cases h with
    | file hfile hpresent =>
      rw [includedFile_of_namesFile hfile]
      rcases hpresent with hrequired | hhas
      · rw [hrequired]
        rfl
      · rw [hhas, Bool.not_true, Bool.and_false]
        rfl
    | noFile hfile hlenient habsent =>
      rw [includedFile_of_namesFile hfile, hlenient, habsent]
      rfl
    | directory hdirectory => exact absurd hdirectory.name hother
    | noDirectory hdirectory => exact absurd hdirectory.name hother

theorem includedFiles_eq_ok_iff (hname : e.name = "includeAll") :
    includedFiles workspace site e = .ok files ↔ PicksUp workspace site e files := by
  constructor
  · intro h
    obtain ⟨⟨directory, filter⟩, hnamed, hfiles⟩ := bind_eq_ok ((includedFiles_eq ..).symm.trans h)
    have hdirectory := (directoryOf_eq_ok_iff hname).1 hnamed
    obtain ⟨listed, hlisted, hsorted, hperm, hsome⟩ | ⟨hlenient, rfl, hnone⟩ := filesIn_eq_ok_iff.1 hfiles
    · exact .directory hdirectory hlisted hsorted hperm hsome
    · exact .noDirectory hdirectory hlenient hnone
  · intro h
    have hother : e.name ≠ "include" := by
      rw [hname]
      decide
    cases h with
    | file hfile => exact absurd hfile.name hother
    | noFile hfile => exact absurd hfile.name hother
    | directory hdirectory hlisted hsorted hperm hsome =>
      rw [includedFiles_of_namesDirectory hdirectory]
      exact filesIn_eq_ok_iff.2 (.inl ⟨_, hlisted, hsorted, hperm, hsome⟩)
    | noDirectory hdirectory hlenient hnone =>
      rw [includedFiles_of_namesDirectory hdirectory]
      exact filesIn_eq_ok_iff.2 (.inr ⟨hlenient, rfl, hnone⟩)

end PicksUp

end Changelog.Build
