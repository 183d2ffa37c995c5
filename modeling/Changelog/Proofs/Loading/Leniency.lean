import Changelog.Proofs.Loading.DirectoryInclusion

/-!
# Inclusions that may miss their target

A flag of an inclusion says whether a target that is missing or empty is an error.  It decides nothing else:
what goes wrong inside an included file goes wrong with either value of it.
-/

namespace Changelog

namespace Build

structure SameBut (flag : String) (e e' : Element) : Prop where
  name : e.name = e'.name
  args : e.args = e'.args
  others : e.attributes.erase flag = e'.attributes.erase flag

theorem checkAttributes_erase {flag : String} {allowed : List String} (hflag : flag ∈ allowed)
    (element : String) (a : Attributes) (context : String) :
    checkAttributes element (a.erase flag) allowed context = checkAttributes element a allowed context := by
  have hunknown : ∀ key, (key != flag && !allowed.contains key) = !allowed.contains key := by
    intro key
    by_cases hkey : key = flag
    · subst hkey
      simp [hflag]
    · simp [hkey]
  unfold checkAttributes
  rw [Attributes.keys_erase, List.find?_filter]
  simp only [← Bool.and_eq_true, Bool.decide_eq_true, hunknown]

theorem rejectRenamed_erase {flag old : String} (hold : old ≠ flag) (element : String) (a : Attributes)
    (replacement context : String) :
    rejectRenamed element (a.erase flag) old replacement context =
      rejectRenamed element a old replacement context := by
  rw [rejectRenamed, rejectRenamed, Attributes.contains_erase_of_ne _ hold]

theorem SameBut.get? {flag key : String} {e e' : Element} (h : SameBut flag e e') (hkey : key ≠ flag)
    (expander : Expander) :
    (expander.attributes e.attributes).get? key = (expander.attributes e'.attributes).get? key := by
  rw [expander.get?_attributes, expander.get?_attributes, ← e.attributes.get?_erase_of_ne hkey, h.others,
    e'.attributes.get?_erase_of_ne hkey]

/-- Two elements that differ at most in a flag, which is set in the first one and cleared in the second. -/
structure Relaxed (flag : String) (expander : Expander) (strict lenient : Element) : Prop
    extends SameBut flag strict lenient where
  isSet : truthOf (expander.attributes strict.attributes) flag true = true
  isCleared : truthOf (expander.attributes lenient.attributes) flag true = false

theorem placeOf_congr {a b : Attributes}
    (h : a.get? "relativeToChangelogFile" = b.get? "relativeToChangelogFile") (document written : String) :
    placeOf a document written = placeOf b document written := by
  rw [placeOf, placeOf, truthOf, truthOf, h]

theorem requiredText_congr {a b : Attributes} {key : String} (h : a.get? key = b.get? key)
    (element context : String) : requiredText a element key context = requiredText b element key context := by
  rw [requiredText, requiredText, textOf?, textOf?, h]

theorem namedFilter_congr {a b : Attributes} (h : a.get? "resourceFilter" = b.get? "resourceFilter")
    (filters : FilterRegistry) (site : Site) : namedFilter filters site a = namedFilter filters site b := by
  rw [namedFilter, namedFilter, textOf?, textOf?, h]

theorem directoryOf_of_sameBut {e e' : Element} (h : SameBut "errorIfMissingOrEmpty" e e')
    (filters : FilterRegistry) (site : Site) : directoryOf filters site e = directoryOf filters site e' := by
  have hallowed : "errorIfMissingOrEmpty" ∈ includeAllAttributes := by decide
  have hcheck : checkAttributes "includeAll" e.attributes includeAllAttributes site.context =
      checkAttributes "includeAll" e'.attributes includeAllAttributes site.context := by
    rw [← checkAttributes_erase hallowed, h.others, checkAttributes_erase hallowed]
  have hpath := h.get? (show "path" ≠ "errorIfMissingOrEmpty" by decide) site.expander
  have hrelative := h.get? (show "relativeToChangelogFile" ≠ "errorIfMissingOrEmpty" by decide) site.expander
  have hfilter := h.get? (show "resourceFilter" ≠ "errorIfMissingOrEmpty" by decide) site.expander
  unfold directoryOf
  simp only [hcheck, h.name, h.args, requiredText_congr hpath, namedFilter_congr hfilter,
    placeOf_congr hrelative]

theorem fileOf_of_sameBut {e e' : Element} (h : SameBut "errorIfMissing" e e') (site : Site) :
    fileOf site e = fileOf site e' := by
  have hallowed : "errorIfMissing" ∈ includeAttributes := by decide
  have hold : "path" ≠ "errorIfMissing" := by decide
  have hrenamed : rejectRenamed "include" e.attributes "path" "includeAll" site.context =
      rejectRenamed "include" e'.attributes "path" "includeAll" site.context := by
    rw [← rejectRenamed_erase hold, h.others, rejectRenamed_erase hold]
  have hcheck : checkAttributes "include" e.attributes includeAttributes site.context =
      checkAttributes "include" e'.attributes includeAttributes site.context := by
    rw [← checkAttributes_erase hallowed, h.others, checkAttributes_erase hallowed]
  have hfile := h.get? (show "file" ≠ "errorIfMissing" by decide) site.expander
  have hrelative := h.get? (show "relativeToChangelogFile" ≠ "errorIfMissing" by decide) site.expander
  unfold fileOf
  simp only [hrenamed, hcheck, h.name, h.args, requiredText_congr hfile, placeOf_congr hrelative]

end Build

namespace Loading

open Build Workspace

/-! ### Outcomes of an element -/

def goingOn (progress : Progress) (stack : List String) (waiting : List Frame)
    (elements : List Element) : Moment :=
  ⟨progress.table, stack, waiting, .build ⟨progress.document, elements, []⟩⟩

/-- An element is an error, whatever the files hold and wherever it stands in a load. -/
structure Fails (workspace : Workspace) (progress : Progress) (e : Element) (error : ChangelogError) :
    Prop where
  part : ∀ load, addDocumentPart workspace load progress e = .error error
  step : ∀ stack waiting elements, step workspace (goingOn progress stack waiting (e :: elements)) =
    some ⟨progress.table, stack, waiting, .leave (.error error)⟩

/-- An element changes neither the document nor the bindings nor which files are being read. -/
structure Skips (workspace : Workspace) (progress : Progress) (e : Element) : Prop where
  -- A loader hides the stack, which only the steps of the machine show.
  part : ∀ load, addDocumentPart workspace load progress e = .ok progress
  step : ∀ stack waiting elements, step workspace (goingOn progress stack waiting (e :: elements)) =
    some (goingOn progress stack waiting elements)

/-- Two elements have the same outcome: the same document and bindings, or the same error. -/
structure SameOutcome (workspace : Workspace) (progress : Progress) (e e' : Element) : Prop where
  part : ∀ load, addDocumentPart workspace load progress e = addDocumentPart workspace load progress e'
  step : ∀ stack waiting elements, step workspace (goingOn progress stack waiting (e :: elements)) =
    step workspace (goingOn progress stack waiting (e' :: elements))

section Effect

variable {workspace : Workspace} {progress : Progress} {e e' : Element}

theorem fails_of_effect {error : ChangelogError} (h : elementEffect workspace progress e = .error error) :
    Fails workspace progress e error where
  part load := by
    rw [addDocumentPart_eq, h]
    rfl
  step stack waiting elements := by
    rw [goingOn, step]
    dsimp only
    rw [h]

theorem part_of_effect {next : Progress} (h : elementEffect workspace progress e = .ok (next, []))
    (load : Loader) : addDocumentPart workspace load progress e = .ok next := by
  rw [addDocumentPart_eq, h]
  rfl

theorem step_of_effect {next : Progress} (h : elementEffect workspace progress e = .ok (next, []))
    (stack : List String) (waiting : List Frame) (elements : List Element) :
    step workspace (goingOn progress stack waiting (e :: elements)) =
      some (goingOn next stack waiting elements) := by
  rw [goingOn, step]
  dsimp only
  rw [h]
  rfl

theorem skips_of_effect (h : elementEffect workspace progress e = .ok (progress, [])) :
    Skips workspace progress e where
  part := part_of_effect h
  step := step_of_effect h

theorem sameOutcome_of_effect (h : elementEffect workspace progress e = elementEffect workspace progress e') :
    SameOutcome workspace progress e e' where
  part load := by rw [addDocumentPart_eq, addDocumentPart_eq, h]
  step stack waiting elements := by
    rw [goingOn, goingOn, step, step]
    dsimp only
    rw [h]

end Effect

section Directory

variable {workspace : Workspace} {progress : Progress} {strict lenient : Element}
  (h : Relaxed "errorIfMissingOrEmpty" (progress.site workspace.options.scope).expander strict lenient)

include h

section Named

variable {directory : String} {filter : PathFilter}
  (hdirectory : NamesDirectory workspace.filters (progress.site workspace.options.scope) strict directory
    filter)

include hdirectory

theorem namesDirectory_lenient :
    NamesDirectory workspace.filters (progress.site workspace.options.scope) lenient directory filter := by
  have hname : lenient.name = "includeAll" := h.name ▸ hdirectory.name
  rw [← directoryOf_eq_ok_iff hname, ← directoryOf_of_sameBut h.toSameBut]
  exact (directoryOf_eq_ok_iff hdirectory.name).2 hdirectory

theorem sameOutcome_of_surviving {listed : List String}
    (hlisted : workspace.accessor.list directory = .ok listed)
    (hsome : surviving workspace filter listed ≠ []) :
    SameOutcome workspace progress strict lenient := by
  have hlenient := namesDirectory_lenient h hdirectory
  apply sameOutcome_of_effect
  rw [elementEffect_of_includeAll hdirectory.name, elementEffect_of_includeAll hlenient.name,
    includedFiles_of_namesDirectory hdirectory, includedFiles_of_namesDirectory hlenient,
    filesIn_of_surviving hlisted hsome, filesIn_of_surviving hlisted hsome]

theorem outcome_of_nothing {missing : Bool}
    (hfiles : ∀ required, filesIn workspace required directory filter =
      if required then .error (.nothingToInclude directory missing) else .ok []) :
    Fails workspace progress strict (.nothingToInclude directory missing) ∧
      Skips workspace progress lenient := by
  have hlenient := namesDirectory_lenient h hdirectory
  constructor
  · apply fails_of_effect
    rw [elementEffect_of_includeAll hdirectory.name, includedFiles_of_namesDirectory hdirectory, hfiles,
      h.isSet]
    rfl
  · apply skips_of_effect
    rw [elementEffect_of_includeAll hlenient.name, includedFiles_of_namesDirectory hlenient, hfiles,
      h.isCleared]
    rfl

end Named

theorem sameOutcome_of_no_directory (hname : strict.name = "includeAll")
    (hnone : ∀ directory filter,
      ¬NamesDirectory workspace.filters (progress.site workspace.options.scope) strict directory filter) :
    SameOutcome workspace progress strict lenient := by
  have hlenient : lenient.name = "includeAll" := h.name ▸ hname
  apply sameOutcome_of_effect
  rw [elementEffect_of_includeAll hname, elementEffect_of_includeAll hlenient, includedFiles_eq,
    includedFiles_eq, ← directoryOf_of_sameBut h.toSameBut]
  cases hdirectory : directoryOf workspace.filters (progress.site workspace.options.scope) strict with
  | error error => rfl
  | ok named => exact absurd ((directoryOf_eq_ok_iff hname).1 hdirectory) (hnone named.1 named.2)

end Directory

section File

variable {workspace : Workspace} {progress : Progress} {strict lenient : Element}
  (h : Relaxed "errorIfMissing" (progress.site workspace.options.scope).expander strict lenient)

include h

section Named

variable {path : String} (hfile : NamesFile (progress.site workspace.options.scope) strict path)

include hfile

theorem includedFile_strict :
    includedFile workspace.accessor (progress.site workspace.options.scope) strict = .ok [path] := by
  rw [includedFile_of_namesFile hfile, h.isSet]
  rfl

theorem includedFile_lenient :
    includedFile workspace.accessor (progress.site workspace.options.scope) lenient =
      .ok (if workspace.accessor.has path then [path] else []) := by
  rw [includedFile_eq, ← fileOf_of_sameBut h.toSameBut, (fileOf_eq_ok_iff hfile.name).2 hfile, ok_bind]
  dsimp only
  rw [h.isCleared]
  cases workspace.accessor.has path <;> rfl

theorem sameOutcome_of_present (hpresent : workspace.accessor.has path = true) :
    SameOutcome workspace progress strict lenient := by
  have hlenient : lenient.name = "include" := h.name ▸ hfile.name
  apply sameOutcome_of_effect
  rw [elementEffect_of_include hfile.name, elementEffect_of_include hlenient, includedFile_strict h hfile,
    includedFile_lenient h hfile, if_pos hpresent]

theorem skips_of_absent (habsent : workspace.accessor.has path = false) :
    Skips workspace progress lenient := by
  have hlenient : lenient.name = "include" := h.name ▸ hfile.name
  apply skips_of_effect
  rw [elementEffect_of_include hlenient, includedFile_lenient h hfile,
    if_neg (Bool.eq_false_iff.1 habsent)]
  rfl

end Named

theorem sameOutcome_of_no_file (hname : strict.name = "include")
    (hnone : ∀ path, ¬NamesFile (progress.site workspace.options.scope) strict path) :
    SameOutcome workspace progress strict lenient := by
  have hlenient : lenient.name = "include" := h.name ▸ hname
  apply sameOutcome_of_effect
  rw [elementEffect_of_include hname, elementEffect_of_include hlenient, includedFile_eq, includedFile_eq,
    ← fileOf_of_sameBut h.toSameBut]
  cases hfile : fileOf (progress.site workspace.options.scope) strict with
  | error error => rfl
  | ok path => exact absurd ((fileOf_eq_ok_iff hname).1 hfile) (hnone path)

end File

/-! ### What the flags decide -/

/-- The flags of inclusions silence nothing but a missing or empty target of the element itself.  Where a
file is there to be read, or where the element names no target at all, they have no part in the outcome. -/
theorem outcome_of_leniency (workspace : Workspace) (progress : Progress) (strict lenient : Element) :
    let site := progress.site workspace.options.scope
    (strict.name = "includeAll" →
      Relaxed "errorIfMissingOrEmpty" site.expander strict lenient →
      (∀ directory filter, NamesDirectory workspace.filters site strict directory filter →
        match workspace.accessor.list directory with
        | .error _ =>
          Fails workspace progress strict (.nothingToInclude directory true) ∧
            Skips workspace progress lenient
        | .ok listed =>
          if surviving workspace filter listed = [] then
            Fails workspace progress strict (.nothingToInclude directory false) ∧
              Skips workspace progress lenient
          else SameOutcome workspace progress strict lenient) ∧
      ((∀ directory filter, ¬NamesDirectory workspace.filters site strict directory filter) →
        SameOutcome workspace progress strict lenient)) ∧
    (strict.name = "include" →
      Relaxed "errorIfMissing" site.expander strict lenient →
      (∀ path, NamesFile site strict path →
        if workspace.accessor.has path then SameOutcome workspace progress strict lenient
        else Skips workspace progress lenient) ∧
      ((∀ path, ¬NamesFile site strict path) → SameOutcome workspace progress strict lenient)) := by
  intro site
  refine ⟨fun hname h => ⟨fun directory filter hdirectory => ?_, sameOutcome_of_no_directory h hname⟩,
    fun hname h => ⟨fun path hfile => ?_, sameOutcome_of_no_file h hname⟩⟩
  · cases hlisted : workspace.accessor.list directory with
    | error cause => exact outcome_of_nothing h hdirectory (filesIn_of_unlisted hlisted)
    | ok listed =>
      dsimp only
      split
      · next hnone =>
        exact outcome_of_nothing h hdirectory (filesIn_of_none_surviving hlisted hnone)
      · next hsome => exact sameOutcome_of_surviving h hdirectory hlisted hsome
  · split
    · next hpresent => exact sameOutcome_of_present h hfile hpresent
    · next habsent => exact skips_of_absent h hfile (Bool.eq_false_iff.2 habsent)

/-! ### A flag cleared -/

def cleared (flag : String) (e : Element) : Element :=
  { e with attributes := e.attributes.insert flag (.bool false) }

theorem relaxed_cleared {flag : String} {expander : Expander} {e : Element}
    (hset : truthOf (expander.attributes e.attributes) flag true = true) :
    Relaxed flag expander e (cleared flag e) where
  name := rfl
  args := rfl
  others := (Attributes.erase_insert_self e.attributes flag (.bool false)).symm
  isSet := hset
  isCleared := by
    rw [truthOf, expander.get?_attributes, cleared, Attributes.get?_insert, if_pos rfl]
    rfl

def shelfWorkspace : Workspace where
  accessor := MemoryResources.accessor
    ⟨[("full/a.changelog", none)], [("full", ["full/a.changelog"]), ("empty", [])]⟩

def shelfProgress : Progress := ⟨.empty, .ofPath "main"⟩

def shelfInclusion (directory : String) : Element where
  name := "includeAll"
  attributes := .ofList [("path", .string directory)]
  args := []
  children := []
  line := 1

theorem relaxed_shelf (directory : String) :
    Relaxed "errorIfMissingOrEmpty" (shelfProgress.site shelfWorkspace.options.scope).expander
      (shelfInclusion directory) (cleared "errorIfMissingOrEmpty" (shelfInclusion directory)) := by
  apply relaxed_cleared
  with_unfolding_all rfl

theorem namesDirectory_shelf {directory : String} (hplain : Expansion.Plain directory) :
    NamesDirectory shelfWorkspace.filters (shelfProgress.site shelfWorkspace.options.scope)
      (shelfInclusion directory) directory ⟨fun _ => true⟩ where
  name := rfl
  within := by
    intro key hkey
    obtain rfl : key = "path" := List.mem_singleton.1 hkey
    decide
  args := rfl
  path := by
    refine ⟨directory, ?_, rfl⟩
    have hpath : (shelfInclusion directory).attributes.get? "path" = some (.string directory) := rfl
    rw [textOf?, Expander.get?_attributes, hpath, Option.map_some, Expander.value_of_plain _ hplain]
    rfl
  filter := by
    with_unfolding_all rfl

theorem namesFile_inclusionOf {file : String} (hplain : Expansion.Plain file) (site : Site) (line : Nat) :
    NamesFile site (inclusionOf file line) file where
  name := rfl
  within := by
    intro key hkey
    obtain rfl : key = "file" := List.mem_singleton.1 hkey
    decide
  args := rfl
  path := by
    refine ⟨file, ?_, rfl⟩
    have hfile : (inclusionOf file line).attributes.get? "file" = some (.string file) := rfl
    rw [textOf?, Expander.get?_attributes, hfile, Option.map_some, Expander.value_of_plain _ hplain]
    rfl

def misused (e : Element) : Element := { e with args := [.null] }

theorem outcome_of_leniency_shelf :
    SameOutcome shelfWorkspace shelfProgress (shelfInclusion "full")
      (cleared "errorIfMissingOrEmpty" (shelfInclusion "full")) ∧
    (Fails shelfWorkspace shelfProgress (shelfInclusion "empty") (.nothingToInclude "empty" false) ∧
      Skips shelfWorkspace shelfProgress (cleared "errorIfMissingOrEmpty" (shelfInclusion "empty"))) ∧
    (Fails shelfWorkspace shelfProgress (shelfInclusion "gone") (.nothingToInclude "gone" true) ∧
      Skips shelfWorkspace shelfProgress (cleared "errorIfMissingOrEmpty" (shelfInclusion "gone"))) ∧
    SameOutcome shelfWorkspace shelfProgress (inclusionOf "full/a.changelog" 1)
      (cleared "errorIfMissing" (inclusionOf "full/a.changelog" 1)) ∧
    Skips shelfWorkspace shelfProgress (cleared "errorIfMissing" (inclusionOf "gone" 1)) ∧
    SameOutcome shelfWorkspace shelfProgress (misused (shelfInclusion "full"))
      (cleared "errorIfMissingOrEmpty" (misused (shelfInclusion "full"))) ∧
    SameOutcome shelfWorkspace shelfProgress (misused (inclusionOf "gone" 1))
      (cleared "errorIfMissing" (misused (inclusionOf "gone" 1))) := by
  have hdirectory := fun (directory : String) (hfree : '$' ∉ directory.toList) =>
    ((outcome_of_leniency shelfWorkspace shelfProgress (shelfInclusion directory) _).1 rfl
      (relaxed_shelf directory)).1 directory _ (namesDirectory_shelf (Expansion.plain_of_not_mem hfree))
  have hfile := fun (file : String) (hfree : '$' ∉ file.toList) =>
    ((outcome_of_leniency shelfWorkspace shelfProgress (inclusionOf file 1) _).2 rfl
      (relaxed_cleared rfl)).1 file (namesFile_inclusionOf (Expansion.plain_of_not_mem hfree) _ 1)
  have hsurviving : surviving shelfWorkspace ⟨fun _ => true⟩ ["full/a.changelog"] ≠ [] := by
    decide +kernel
  have hlisted : shelfWorkspace.accessor.list "full" = .ok ["full/a.changelog"] := rfl
  have hbare : shelfWorkspace.accessor.list "empty" = .ok [] := rfl
  have hfull := hdirectory "full" (by decide)
  have hempty := hdirectory "empty" (by decide)
  have hgone := hdirectory "gone" (by decide)
  rw [hlisted] at hfull
  rw [hbare] at hempty
  have hmisusedDirectory :=
    ((outcome_of_leniency shelfWorkspace shelfProgress (misused (shelfInclusion "full")) _).1 rfl
      (relaxed_cleared (relaxed_shelf "full").isSet)).2 fun _ _ h => nomatch h.args
  have hmisusedFile :=
    ((outcome_of_leniency shelfWorkspace shelfProgress (misused (inclusionOf "gone" 1)) _).2 rfl
      (relaxed_cleared rfl)).2 fun _ h => nomatch h.args
  exact ⟨(if_neg hsurviving).mp hfull, hempty, hgone, hfile "full/a.changelog" (by decide),
    hfile "gone" (by decide), hmisusedDirectory, hmisusedFile⟩

end Loading

end Changelog
