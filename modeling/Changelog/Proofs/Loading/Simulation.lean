import Changelog.Proofs.Loading.Machine

/-!
# The machine does what loading does

From the moment a path is entered the machine comes to the moment its document is handed over, with the
document or the error that `Workspace.loadFile` gives and with the stack as it was.
-/

namespace Changelog.Loading

open Build Workspace

variable {workspace : Workspace}

/-- The machine goes on from a moment to where a load has given its document or its error; nothing but
the bindings and the task is then different. -/
def Leads (workspace : Workspace) (m : Moment) (loaded : Except ChangelogError Progress)
    (done : Document → Task) (failed : ChangelogError → Task) : Prop :=
  match loaded with
  | .ok p => Reaches workspace m { m with table := p.table, task := done p.document }
  | .error e => ∃ table, Reaches workspace m { m with table := table, task := failed e }

namespace Leads

variable {m : Moment} {done : Document → Task} {failed : ChangelogError → Task}

theorem bind {loaded : Except ChangelogError Progress} {f : Progress → Except ChangelogError Progress}
    {between : Document → Task} (h : Leads workspace m loaded between failed)
    (hf : ∀ p, Leads workspace { m with table := p.table, task := between p.document } (f p) done failed) :
    Leads workspace m (loaded >>= f) done failed := by
  cases loaded with
  | error e => exact h
  | ok p =>
    have hnext := hf p
    show Leads workspace m (f p) done failed
    unfold Leads at h hnext ⊢
    cases hp : f p with
    | error e =>
      rw [hp] at hnext
      obtain ⟨table, hnext⟩ := hnext
      exact ⟨table, h.trans hnext⟩
    | ok q =>
      rw [hp] at hnext
      exact h.trans hnext

theorem head {loaded : Except ChangelogError Progress} {table : PropertyTable} {task : Task}
    (hstep : step workspace m = some { m with table := table, task := task })
    (h : Leads workspace { m with table := table, task := task } loaded done failed) :
    Leads workspace m loaded done failed := by
  cases loaded with
  | error e =>
    obtain ⟨last, h⟩ := h
    exact ⟨last, Relation.ReflTransGen.head hstep h⟩
  | ok p => exact Relation.ReflTransGen.head hstep h

end Leads

theorem Reaches.trans {m n k : Moment} (h : Reaches workspace m n) (hn : Reaches workspace n k) :
    Reaches workspace m k :=
  Relation.ReflTransGen.trans h hn

theorem Reaches.step {m n : Moment} (h : Loading.step workspace m = some n) : Reaches workspace m n :=
  Relation.ReflTransGen.single h

section Document

variable {stack : List String} {load : Loader}

/-- Loading a file under the given stack is what the machine does, whoever waits for it. -/
def LoadsUnder (workspace : Workspace) (stack : List String) (load : Loader) : Prop :=
  ∀ table waiting path, Leads workspace ⟨table, stack, waiting, .enter path⟩ (load table path)
    (fun d => .resume (.ok d)) (fun e => .resume (.error e))

theorem leads_addInclusion (hload : LoadsUnder workspace stack load) (table : PropertyTable)
    (waiting : List Frame) (document : Document) (elements : List Element) (file : String)
    (files : List String) :
    Leads workspace ⟨table, stack, waiting, .build ⟨document, elements, file :: files⟩⟩
      (addInclusion load ⟨table, document⟩ file) (fun d => .build ⟨d, elements, files⟩)
      (fun e => .leave (.error e)) := by
  have hentered : Reaches workspace ⟨table, stack, waiting, .build ⟨document, elements, file :: files⟩⟩
      ⟨table, stack, ⟨document, elements, files⟩ :: waiting, .enter file⟩ := Reaches.step rfl
  have hloaded := hload table (⟨document, elements, files⟩ :: waiting) file
  unfold addInclusion
  cases hfile : load table file with
  | error e =>
    rw [hfile] at hloaded
    obtain ⟨last, hloaded⟩ := hloaded
    exact ⟨last, (hentered.trans hloaded).trans (Reaches.step rfl)⟩
  | ok included =>
    rw [hfile] at hloaded
    exact (hentered.trans hloaded).trans (Reaches.step rfl)

theorem leads_files (hload : LoadsUnder workspace stack load) (waiting : List Frame)
    (elements : List Element) (files : List String) (table : PropertyTable) (document : Document) :
    Leads workspace ⟨table, stack, waiting, .build ⟨document, elements, files⟩⟩
      (files.foldlM (addInclusion load) ⟨table, document⟩) (fun d => .build ⟨d, elements, []⟩)
      (fun e => .leave (.error e)) := by
  induction files generalizing table document with
  | nil => exact Relation.ReflTransGen.refl
  | cons file files ih =>
    rw [List.foldlM_cons]
    exact (leads_addInclusion hload table waiting document elements file files).bind
      fun p => ih p.table p.document

theorem leads_element (hload : LoadsUnder workspace stack load) (waiting : List Frame)
    (e : Element) (elements : List Element) (table : PropertyTable) (document : Document) :
    Leads workspace ⟨table, stack, waiting, .build ⟨document, e :: elements, []⟩⟩
      (addDocumentPart workspace load ⟨table, document⟩ e) (fun d => .build ⟨d, elements, []⟩)
      (fun e => .leave (.error e)) := by
  rw [addDocumentPart_eq]
  cases heffect : elementEffect workspace ⟨table, document⟩ e with
  | error error =>
    refine ⟨table, Reaches.step ?_⟩
    simp only [step, heffect]
  | ok r =>
    obtain ⟨progress, files⟩ := r
    refine Leads.head ?_ (leads_files hload waiting elements files progress.table progress.document)
    simp only [step, heffect]

theorem leads_before (hload : LoadsUnder workspace stack load) (waiting : List Frame)
    (before after : List Element) (table : PropertyTable) (document : Document) :
    Leads workspace ⟨table, stack, waiting, .build ⟨document, before ++ after, []⟩⟩
      (before.foldlM (addDocumentPart workspace load) ⟨table, document⟩)
      (fun d => .build ⟨d, after, []⟩) (fun e => .leave (.error e)) := by
  induction before generalizing table document with
  | nil => exact Relation.ReflTransGen.refl
  | cons e before ih =>
    rw [List.foldlM_cons]
    exact (leads_element hload waiting e (before ++ after) table document).bind
      fun p => ih p.table p.document

theorem leads_elements (hload : LoadsUnder workspace stack load) (waiting : List Frame)
    (elements : List Element) (table : PropertyTable) (document : Document) :
    Leads workspace ⟨table, stack, waiting, .build ⟨document, elements, []⟩⟩
      (elements.foldlM (addDocumentPart workspace load) ⟨table, document⟩)
      (fun d => .leave (.ok d)) (fun e => .leave (.error e)) := by
  have hbefore := leads_before hload waiting elements [] table document
  rw [List.append_nil] at hbefore
  cases hbuilt : elements.foldlM (addDocumentPart workspace load) ⟨table, document⟩ with
  | error e =>
    rw [hbuilt] at hbefore
    exact hbefore
  | ok p =>
    rw [hbuilt] at hbefore
    exact Reaches.trans hbefore (Reaches.step rfl)

theorem openDocument_files {table : PropertyTable} {path source : String} {frame : Frame}
    (h : openDocument workspace table path source = .ok frame) : frame.files = [] := by
  unfold openDocument at h
  split at h
  · cases h
  · obtain ⟨root, -, h⟩ := bind_eq_ok h
    obtain ⟨bare, -, h⟩ := bind_eq_ok h
    cases h
    rfl

theorem leads_source (hload : LoadsUnder workspace stack load) (table : PropertyTable)
    (waiting : List Frame) {path source : String} (hread : workspace.accessor.read path = .ok source) :
    Leads workspace ⟨table, stack, waiting, .read path⟩
      (documentOfSource workspace load table path source) (fun d => .leave (.ok d))
      (fun e => .leave (.error e)) := by
  rw [documentOfSource_eq]
  cases hopen : openDocument workspace table path source with
  | error e =>
    refine ⟨table, Reaches.step ?_⟩
    simp only [step, hread, hopen]
  | ok frame =>
    obtain ⟨document, elements, files⟩ := frame
    obtain rfl : files = [] := openDocument_files hopen
    refine Leads.head ?_ (leads_elements hload waiting elements table document)
    simp only [step, hread, hopen]

end Document

theorem leads_between {stack : List String} {path : String} {table : PropertyTable}
    {waiting : List Frame} {loaded : Except ChangelogError Progress} (hopen : ¬isOpen stack path)
    (h : Leads workspace ⟨table, stack ++ [path], waiting, .read path⟩ loaded
      (fun d => .leave (.ok d)) (fun e => .leave (.error e))) :
    Leads workspace ⟨table, stack, waiting, .enter path⟩ loaded
      (fun d => .resume (.ok d)) (fun e => .resume (.error e)) := by
  have henter : Reaches workspace ⟨table, stack, waiting, .enter path⟩
      ⟨table, stack ++ [path], waiting, .read path⟩ := Reaches.step (by simp only [step, if_neg hopen])
  have hleave : ∀ (last : PropertyTable) (result : Except ChangelogError Document),
      Reaches workspace ⟨last, stack ++ [path], waiting, .leave result⟩
        ⟨last, stack, waiting, .resume result⟩ := by
    intro last result
    refine Reaches.step ?_
    simp only [step, List.dropLast_concat]
  cases loaded with
  | error e =>
    obtain ⟨last, h⟩ := h
    exact ⟨last, (henter.trans h).trans (hleave last (.error e))⟩
  | ok p => exact (henter.trans h).trans (hleave p.table (.ok p.document))

theorem loadsUnder_loadFile (workspace : Workspace) (stack : List String) :
    LoadsUnder workspace stack (workspace.loadFile stack) := by
  intro table waiting path
  by_cases hopen : isOpen stack path
  · rw [loadFile_of_open hopen]
    exact ⟨table, Reaches.step (by simp only [step, if_pos hopen])⟩
  · cases hread : workspace.accessor.read path with
    | error cause =>
      rw [loadFile_of_unreadable hopen hread]
      exact leads_between hopen ⟨table, Reaches.step (by simp only [step, hread])⟩
    | ok source =>
      rw [loadFile_of_read hopen hread]
      -- The files that this one includes are loaded under a longer stack, with fewer places left to open.
      refine leads_between hopen ?_
      exact leads_source (loadsUnder_loadFile workspace (stack ++ [path])) table waiting hread
termination_by (unopened workspace.accessor stack).length
decreasing_by exact length_unopened_lt ‹_› ‹_›

/-- The document or error of a load is handed over to whoever waits for it, under the same stack. -/
theorem reaches_result (workspace : Workspace) (stack : List String) (table : PropertyTable)
    (waiting : List Frame) (path : String) :
    ∃ last result, Reaches workspace ⟨table, stack, waiting, .enter path⟩
        ⟨last, stack, waiting, .resume result⟩ ∧
      (workspace.loadFile stack table path).map Progress.document = result ∧
      ∀ p, workspace.loadFile stack table path = .ok p → p.table = last := by
  have hleads := loadsUnder_loadFile workspace stack table waiting path
  cases hfile : workspace.loadFile stack table path with
  | error e =>
    rw [hfile] at hleads
    obtain ⟨last, hreach⟩ := hleads
    refine ⟨last, .error e, hreach, rfl, ?_⟩
    rintro p ⟨⟩
  | ok p =>
    rw [hfile] at hleads
    refine ⟨p.table, .ok p.document, hleads, rfl, ?_⟩
    rintro q ⟨⟩
    rfl

end Changelog.Loading
