import Changelog.Proofs.Loading.Bindings
import Changelog.Proofs.Loading.Inclusion

/-!
# Documents grow at their end

The elements of a root are taken in one after the other.  More elements after them leave what they have
brought as it is, and an error is the last thing that happens: nothing that stands after it is looked at,
and no document goes on over the error of a file that it includes.
-/

namespace Changelog.Loading

open Build Workspace

section Split

variable {workspace : Workspace}

/-- The document of a root whose elements are the given ones, before it is handed over. -/
def built (workspace : Workspace) (root : Element) (path : String) (elements : List Element) :
    Except ChangelogError Progress := do
  let root ← rootOf path [{ root with children := elements }]
  document workspace (workspace.loadFile [path]) .empty path root

theorem loadElement_eq_built (root : Element) (path : String) (elements : List Element) :
    workspace.loadElement { root with children := elements } path =
      (built workspace root path elements).map finish := by
  unfold loadElement built
  cases rootOf path [{ root with children := elements }] with
  | error e => rfl
  | ok root =>
    rw [ok_bind, ok_bind]
    cases document workspace (workspace.loadFile [path]) .empty path root <;> rfl

theorem built_append (root : Element) (path : String) (a b : List Element) :
    built workspace root path (a ++ b) =
      (built workspace root path a >>= fun p =>
        b.foldlM (addDocumentPart workspace (workspace.loadFile [path])) p) := by
  unfold built
  dsimp only [rootOf]
  split
  · rfl
  · split
    · rfl
    · rw [ok_bind, ok_bind, document, document]
      dsimp only [documentOf]
      simp only [List.foldlM_append, bind_assoc]

/-- From one progress to a later one change sets and bindings are added at the end only. -/
structure Grows (p q : Progress) : Prop where
  changeSets : p.document.changeSets <+: q.document.changeSets
  bindings : p.table.bindings <+: q.table.bindings

theorem grows_of_elements {stack : List String} {elements : List Element} {p q : Progress}
    (h : elements.foldlM (addDocumentPart workspace (workspace.loadFile stack)) p = .ok q) :
    Grows p q := by
  obtain ⟨brought, -, hextends⟩ := extends_of_elements h
  rw [foldlM_addDocumentPart (partsOf_fileParts workspace stack)] at h
  obtain ⟨parts, -, rfl⟩ := map_eq_ok h
  have hchangeSets : (advance p parts).document.changeSets =
      p.document.changeSets ++ brought.flatten := hextends.changeSets
  have hbindings : (advance p parts).table.bindings = p.table.bindings ++ boundBy parts := rfl
  constructor
  · rw [hchangeSets]
    exact List.prefix_append _ _
  · rw [hbindings]
    exact List.prefix_append _ _

end Split

/-! ### Errors of included files -/

section Failure

variable {workspace : Workspace}

theorem end_unique {m n k : Moment} (hn : Reaches workspace m n) (hk : Reaches workspace m k)
    (hnend : step workspace n = none) (hkend : step workspace k = none) : n = k := by
  have hunique : Relator.RightUnique fun m n => step workspace m = some n := by
    intro m n k hn hk
    exact Option.some.inj (hn.symm.trans hk)
  have hstays : ∀ {n k : Moment}, step workspace n = none → Reaches workspace n k → n = k := by
    intro n k hend hreach
    cases hreach.cases_head with
    | inl heq => exact heq
    | inr hmore =>
      obtain ⟨next, hstep, -⟩ := hmore
      rw [hend] at hstep
      nomatch hstep
  cases Relation.ReflTransGen.total_of_right_unique hunique hn hk with
  | inl h => exact hstays hnend h
  | inr h => exact (hstays hkend h).symm

theorem reaches_end_of_error (workspace : Workspace) (table : PropertyTable) (e : ChangelogError)
    (waiting : List Frame) (stack : List String) :
    ∃ stack', Reaches workspace ⟨table, stack, waiting, .resume (.error e)⟩
      ⟨table, stack', [], .resume (.error e)⟩ := by
  induction waiting generalizing stack with
  | nil => exact ⟨stack, .refl⟩
  | cons frame waiting ih =>
    obtain ⟨stack', hrest⟩ := ih stack.dropLast
    have hleave : Reaches workspace ⟨table, stack, frame :: waiting, .resume (.error e)⟩
        ⟨table, stack, waiting, .leave (.error e)⟩ := Reaches.step rfl
    have hresume : Reaches workspace ⟨table, stack, waiting, .leave (.error e)⟩
        ⟨table, stack.dropLast, waiting, .resume (.error e)⟩ := Reaches.step rfl
    exact ⟨stack', (hleave.trans hresume).trans hrest⟩

/-- The error of a file that is entered in the course of a load, at whatever depth, is that of the load. -/
theorem load_of_failed_file {entry : Entry} {m : Moment} {file : String} {e : ChangelogError}
    (hreach : Reaches workspace (entry.start workspace) m) (htask : m.task = .enter file)
    (hfile : workspace.loadFile m.stack m.table file = .error e) :
    entry.load workspace = .error e := by
  obtain ⟨table, stack, waiting, task⟩ := m
  obtain rfl : task = .enter file := htask
  have hfailed := loadsUnder_loadFile workspace stack table waiting file
  rw [hfile] at hfailed
  obtain ⟨last, hfailed⟩ := hfailed
  obtain ⟨stack', hout⟩ := reaches_end_of_error workspace last e waiting stack
  obtain ⟨final, result, hend, hload⟩ := entry.ends workspace
  -- The error has left all documents, where no step is left; the run of the entry has no other end.
  have hsame := end_unique ((hreach.trans hfailed).trans hout) hend rfl rfl
  obtain rfl : .error e = result := Task.resume.inj (congrArg Moment.task hsame)
  exact hload

end Failure

/-- Elements after others neither undo an error of these nor replace it; where all are taken in, the others
are taken in without them, and bring change sets and bindings with which those of the longer document begin.
The error of an included file is never passed over. -/
theorem loadElement_append (workspace : Workspace) (root : Element) (path : String)
    (a b : List Element) :
    (∀ e, workspace.loadElement { root with children := a } path = .error e →
      workspace.loadElement { root with children := a ++ b } path = .error e) ∧
    (∀ d, workspace.loadElement { root with children := a ++ b } path = .ok d →
      ∃ own, workspace.loadElement { root with children := a } path = .ok own ∧
        own.changeSets <+: d.changeSets ∧ own.properties <+: d.properties) ∧
    ∀ m file e,
      Reaches workspace (Entry.start workspace (.element { root with children := a ++ b } path)) m →
      m.task = .enter file → workspace.loadFile m.stack m.table file = .error e →
      workspace.loadElement { root with children := a ++ b } path = .error e := by
  refine ⟨fun e h => ?_, fun d h => ?_, fun m file e hreach htask hfile => ?_⟩
  · rw [loadElement_eq_built] at h ⊢
    rw [built_append]
    cases hbuilt : built workspace root path a with
    | error cause =>
      rw [hbuilt] at h
      exact h
    | ok p =>
      rw [hbuilt] at h
      nomatch h
  · rw [loadElement_eq_built] at h ⊢
    rw [built_append] at h
    obtain ⟨q, hq, rfl⟩ := map_eq_ok h
    obtain ⟨p, hp, hrest⟩ := bind_eq_ok hq
    have hgrows := grows_of_elements hrest
    rw [hp]
    exact ⟨finish p, rfl, hgrows.changeSets, hgrows.bindings⟩
  · exact load_of_failed_file hreach htask hfile

def bareWorkspace : Workspace where
  accessor := MemoryResources.accessor ⟨[], []⟩

def bareRoot : Element where
  name := "databaseChangeLog"
  attributes := .empty
  args := []
  children := []
  line := 1

def bareChangeSet (id : String) : Element where
  name := "changeSet"
  attributes := .ofList [("id", .string id)]
  args := []
  children := []
  line := 2

def absentInclude : Element where
  name := "include"
  attributes := .ofList [("file", .string "absent")]
  args := []
  children := []
  line := 3

def beforeAbsent : Moment :=
  ⟨.empty, ["main"], [⟨.ofPath "main", [], []⟩], .enter "absent"⟩

theorem reaches_beforeAbsent :
    Reaches bareWorkspace
      (Entry.start bareWorkspace (.element { bareRoot with children := [absentInclude] ++ [] } "main"))
      beforeAbsent := by
  have hstart : Entry.start bareWorkspace
      (.element { bareRoot with children := [absentInclude] ++ [] } "main") =
        ⟨.empty, ["main"], [], .build ⟨.ofPath "main", [absentInclude], []⟩⟩ := by
    with_unfolding_all rfl
  have hfiles : step bareWorkspace ⟨.empty, ["main"], [], .build ⟨.ofPath "main", [absentInclude], []⟩⟩ =
      some ⟨.empty, ["main"], [], .build ⟨.ofPath "main", [], ["absent"]⟩⟩ := by
    with_unfolding_all rfl
  rw [hstart]
  exact (Reaches.step hfiles).trans (Reaches.step rfl)

theorem loadElement_append_absent :
    loadElement bareWorkspace { bareRoot with children := [absentInclude] } "main" =
      .error (.unreadable "absent" .unknownResource) ∧
    loadElement bareWorkspace { bareRoot with children := [absentInclude] ++ [bareChangeSet "1"] } "main" =
      .error (.unreadable "absent" .unknownResource) ∧
    ∃ own d,
      loadElement bareWorkspace { bareRoot with children := [bareChangeSet "1"] } "main" = .ok own ∧
      loadElement bareWorkspace { bareRoot with children := [bareChangeSet "1"] ++ [bareChangeSet "2"] }
        "main" = .ok d ∧
      own.changeSets <+: d.changeSets ∧ own.properties <+: d.properties ∧
      d.changeSets.map ChangeSet.id = ["1", "2"] := by
  have hopen : ¬isOpen ["main"] "absent" := by decide
  have hread : bareWorkspace.accessor.read "absent" = .error .unknownResource := rfl
  have hfailed := (loadElement_append bareWorkspace bareRoot "main" [absentInclude] []).2.2 beforeAbsent
    "absent" _ reaches_beforeAbsent rfl (loadFile_of_unreadable hopen hread .empty)
  have hlonger := (loadElement_append bareWorkspace bareRoot "main" [absentInclude]
    [bareChangeSet "1"]).1 _ hfailed
  have hloaded : ∃ d, loadElement bareWorkspace
      { bareRoot with children := [bareChangeSet "1"] ++ [bareChangeSet "2"] } "main" = .ok d ∧
      d.changeSets.map ChangeSet.id = ["1", "2"] := by
    with_unfolding_all exact ⟨_, rfl, rfl⟩
  obtain ⟨d, hd, hids⟩ := hloaded
  obtain ⟨own, hown, hchangeSets, hproperties⟩ :=
    (loadElement_append bareWorkspace bareRoot "main" [bareChangeSet "1"] [bareChangeSet "2"]).2.1 d hd
  exact ⟨hfailed, hlonger, own, d, hown, hd, hchangeSets, hproperties, hids⟩

end Changelog.Loading
