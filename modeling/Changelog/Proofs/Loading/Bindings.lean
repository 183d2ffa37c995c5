import Changelog.Resource.Memory
import Changelog.Proofs.Loading.Simulation

/-!
# Bindings during a load

All documents of a load share one table of bindings.  It only ever grows at its end, so that a name keeps
the value it once has, and in the end it holds what the property elements have bound, in the order in which
the machine came to them.
-/

namespace Changelog.Loading

open Build Workspace

variable {workspace : Workspace}

/-- What an element binds by itself; only a property element binds names, unless it is refused. -/
def elementBindings (workspace : Workspace) (progress : Progress) (e : Element) : List Binding :=
  match Named.ofName? (α := DocumentPart) e.name with
  | some .property =>
    match propertyBindings workspace.accessor (progress.site workspace.options.scope) e with
    | .ok bindings => bindings
    | .error _ => []
  | _ => []

theorem defineAll_nil (table : PropertyTable) : table.defineAll [] = table := by
  rw [PropertyTable.defineAll, List.append_nil]

theorem elementEffect_table {progress next : Progress} {e : Element} {files : List String}
    (h : elementEffect workspace progress e = .ok (next, files)) :
    next.table = progress.table.defineAll (elementBindings workspace progress e) := by
  unfold elementEffect at h
  unfold elementBindings
  cases hpart : Named.ofName? (α := DocumentPart) e.name with
  | none =>
    rw [hpart] at h
    cases h
  | some part =>
    rw [hpart] at h
    cases part with
    | property =>
      obtain ⟨bindings, hbindings, h⟩ := bind_eq_ok h
      obtain ⟨rfl, -⟩ := Prod.mk.inj (Except.ok.inj h)
      dsimp only
      rw [hbindings]
    | changeSet | preconditions | includeFile | includeAll =>
      obtain ⟨_, -, h⟩ := bind_eq_ok h
      obtain ⟨rfl, -⟩ := Prod.mk.inj (Except.ok.inj h)
      exact (defineAll_nil _).symm

theorem elementBindings_of_error {progress : Progress} {e : Element} {error : ChangelogError}
    (h : elementEffect workspace progress e = .error error) :
    elementBindings workspace progress e = [] := by
  unfold elementEffect at h
  unfold elementBindings
  cases hpart : Named.ofName? (α := DocumentPart) e.name with
  | none => rfl
  | some part =>
    rw [hpart] at h
    cases part with
    | property =>
      dsimp only at h ⊢
      cases hbindings : propertyBindings workspace.accessor (progress.site workspace.options.scope) e with
      | error e => rfl
      | ok bindings =>
        rw [hbindings] at h
        cases h
    | changeSet | preconditions | includeFile | includeAll => rfl

def Moment.defined (workspace : Workspace) (m : Moment) : List Binding :=
  match m.task with
  | .build ⟨document, e :: _, []⟩ => elementBindings workspace ⟨m.table, document⟩ e
  | _ => []

theorem table_of_step {m n : Moment} (h : step workspace m = some n) :
    n.table = m.table.defineAll (m.defined workspace) := by
  obtain ⟨table, stack, waiting, task⟩ := m
  cases task with
  | enter path =>
    simp only [step] at h
    split at h <;> (cases h; exact (defineAll_nil table).symm)
  | read path =>
    simp only [step] at h
    split at h
    · cases h
      exact (defineAll_nil table).symm
    · split at h <;> (cases h; exact (defineAll_nil table).symm)
  | build frame =>
    obtain ⟨document, elements, files⟩ := frame
    cases files with
    | cons file files =>
      -- what is defined is decided by the elements first
      cases elements <;> (cases h; exact (defineAll_nil table).symm)
    | nil =>
      cases elements with
      | nil =>
        cases h
        exact (defineAll_nil table).symm
      | cons e elements =>
        simp only [step] at h
        split at h
        · next error heffect =>
          cases h
          dsimp only [Moment.defined]
          rw [elementBindings_of_error heffect, defineAll_nil]
        · next progress files heffect =>
          cases h
          exact elementEffect_table heffect
  | leave result =>
    cases h
    exact (defineAll_nil table).symm
  | resume result =>
    cases waiting with
    | nil => cases h
    | cons frame waiting =>
      cases result <;> (cases h; exact (defineAll_nil table).symm)

/-- The machine goes from one moment to another and passes the listed ones, the first of which is where it
begins. -/
inductive Run (workspace : Workspace) : Moment → List Moment → Moment → Prop
  | here (m : Moment) : Run workspace m [] m
  | next {m n last : Moment} {passed : List Moment} (hstep : step workspace m = some n)
      (rest : Run workspace n passed last) : Run workspace m (m :: passed) last

theorem Reaches.run {m n : Moment} (h : Reaches workspace m n) : ∃ passed, Run workspace m passed n := by
  induction h using Relation.ReflTransGen.head_induction_on with
  | refl => exact ⟨[], .here n⟩
  | head hstep _ ih =>
    obtain ⟨passed, hrun⟩ := ih
    exact ⟨_, .next hstep hrun⟩

theorem Run.bindings {m n : Moment} {passed : List Moment} (h : Run workspace m passed n) :
    n.table.bindings = m.table.bindings ++ passed.flatMap (Moment.defined workspace) := by
  induction h with
  | here m => exact (List.append_nil _).symm
  | next hstep _ ih =>
    rw [ih, table_of_step hstep, PropertyTable.defineAll, List.flatMap_cons, List.append_assoc]

theorem Run.table {m n : Moment} {passed : List Moment} (h : Run workspace m passed n) :
    n.table = m.table.defineAll (passed.flatMap (Moment.defined workspace)) :=
  congrArg PropertyTable.mk h.bindings

/-! ### Points of a run -/

/-- A point of a run: a moment, and how many of the bindings on the way to the next one are made.  A
property element that reads a file makes many. -/
structure Point where
  moment : Moment
  made : Nat

def Point.table (workspace : Workspace) (p : Point) : PropertyTable :=
  p.moment.table.defineAll ((p.moment.defined workspace).take p.made)

/-- A point comes after another one, on the way to the next moment or at any moment from there on. -/
inductive Later (workspace : Workspace) : Point → Point → Prop
  | within {m : Moment} {k l : Nat} (h : k ≤ l) : Later workspace ⟨m, k⟩ ⟨m, l⟩
  | after {m next n : Moment} {k l : Nat} (hstep : step workspace m = some next)
      (h : Reaches workspace next n) : Later workspace ⟨m, k⟩ ⟨n, l⟩

theorem Later.grows {p q : Point} (h : Later workspace p q) :
    ∃ more, q.table workspace = (p.table workspace).defineAll more := by
  cases h with
  | @within m k l h =>
    refine ⟨((m.defined workspace).take l).drop k, ?_⟩
    have htake : (m.defined workspace).take k = ((m.defined workspace).take l).take k := by
      rw [List.take_take, Nat.min_eq_left h]
    simp only [Point.table, PropertyTable.defineAll, htake, List.append_assoc, List.take_append_drop]
  | @after m next n k l hstep h =>
    obtain ⟨passed, hrun⟩ := h.run
    refine ⟨(m.defined workspace).drop k ++ (passed.flatMap (Moment.defined workspace) ++
      (n.defined workspace).take l), ?_⟩
    have htake := List.take_append_drop k (m.defined workspace)
    rw [Point.table, hrun.table, table_of_step hstep]
    simp only [Point.table, PropertyTable.defineAll, List.append_assoc]
    rw [← List.append_assoc (List.take k _), htake]

/-! ### Where a load begins and ends -/

inductive Entry
  | file (path : String)
  | text (source path : String)
  | element (root : Element) (path : String)

def Entry.load (workspace : Workspace) : Entry → Except ChangelogError Document
  | .file path => workspace.load path
  | .text source path => workspace.loadSource source path
  | .element root path => workspace.loadElement root path

def openElement (workspace : Workspace) (table : PropertyTable) (path : String) (root : Element) :
    Except ChangelogError Frame := do
  let root ← rootOf path [root]
  let bare ← documentOf ⟨⟨table, path, workspace.options.scope⟩, path⟩ root
  return ⟨bare, root.children, []⟩

def Task.opened : Except ChangelogError Frame → Task
  | .ok frame => .build frame
  | .error e => .leave (.error e)

/-- The moment at which a load begins; the document of a text or an element is open at once. -/
def Entry.start (workspace : Workspace) : Entry → Moment
  | .file path => .start path
  | .text source path => ⟨.empty, [path], [], .opened (openDocument workspace .empty path source)⟩
  | .element root path => ⟨.empty, [path], [], .opened (openElement workspace .empty path root)⟩

theorem openElement_files {table : PropertyTable} {path : String} {root : Element} {frame : Frame}
    (h : openElement workspace table path root = .ok frame) : frame.files = [] := by
  obtain ⟨root, -, h⟩ := bind_eq_ok h
  obtain ⟨bare, -, h⟩ := bind_eq_ok h
  cases h
  rfl

/-- Where the machine ends: the load has its document or its error, and nothing waits for it. -/
def Ends (workspace : Workspace) (m : Moment) (loaded : Except ChangelogError Document) : Prop :=
  ∃ table result, Reaches workspace m ⟨table, [], [], .resume result⟩ ∧
    loaded = result.map fun d => { d with properties := table.bindings }

theorem ends_file (workspace : Workspace) (path : String) :
    Ends workspace (.start path) (workspace.load path) := by
  obtain ⟨table, result, hreach, rfl, htable⟩ := reaches_result workspace [] .empty [] path
  refine ⟨table, _, hreach, ?_⟩
  rw [load]
  cases hfile : workspace.loadFile [] .empty path with
  | error e => rfl
  | ok p =>
    obtain rfl := htable p hfile
    rfl

theorem ends_opened (path : String) {opened : Except ChangelogError Frame}
    (hfiles : ∀ frame, opened = .ok frame → frame.files = []) :
    Ends workspace ⟨.empty, [path], [], .opened opened⟩
      ((opened >>= fun frame => frame.elements.foldlM
        (addDocumentPart workspace (workspace.loadFile [path])) ⟨.empty, frame.document⟩).map finish) := by
  cases opened with
  | error e => exact ⟨.empty, .error e, Reaches.step rfl, rfl⟩
  | ok frame =>
    obtain ⟨document, elements, files⟩ := frame
    obtain rfl : files = [] := hfiles _ rfl
    have hbuilt := leads_elements (loadsUnder_loadFile workspace [path]) [] elements .empty document
    rw [ok_bind]
    dsimp only
    cases hparts : elements.foldlM (addDocumentPart workspace (workspace.loadFile [path]))
        ⟨.empty, document⟩ with
    | error e =>
      rw [hparts] at hbuilt
      obtain ⟨table, hbuilt⟩ := hbuilt
      exact ⟨table, .error e, hbuilt.trans (Reaches.step rfl), rfl⟩
    | ok p =>
      rw [hparts] at hbuilt
      exact ⟨p.table, .ok p.document, Reaches.trans hbuilt (Reaches.step rfl), rfl⟩

theorem loadElement_eq_opened (root : Element) (path : String) :
    workspace.loadElement root path =
      (openElement workspace .empty path root >>= fun frame => frame.elements.foldlM
        (addDocumentPart workspace (workspace.loadFile [path])) ⟨.empty, frame.document⟩).map finish := by
  unfold loadElement openElement
  cases rootOf path [root] with
  | error e => rfl
  | ok root =>
    simp only [ok_bind, document, bind_assoc]
    cases documentOf ⟨⟨.empty, path, workspace.options.scope⟩, path⟩ root with
    | error e => rfl
    | ok bare =>
      simp only [ok_bind, pure_bind]
      cases root.children.foldlM (addDocumentPart workspace (workspace.loadFile [path])) ⟨.empty, bare⟩ <;>
        rfl

theorem Entry.ends (workspace : Workspace) (entry : Entry) :
    Ends workspace (entry.start workspace) (entry.load workspace) := by
  cases entry with
  | file path => exact ends_file workspace path
  | text source path =>
    rw [Entry.load, loadSource, documentOfSource_eq]
    exact ends_opened path fun _ => openDocument_files
  | element root path =>
    rw [Entry.load, loadElement_eq_opened]
    exact ends_opened path fun _ => openElement_files

/-! ### Every run -/

/-- At any point of a load the table holds what has been bound at the moments passed, one after the other.
From there on it grows at its end only, and a name that has a value keeps it, for whatever document and
scope it is looked up.  The load comes to an end, and the properties of its document are then the bindings
made at all moments passed. -/
theorem bindings_of_run (workspace : Workspace) (entry : Entry) :
    (∀ passed p, Run workspace (entry.start workspace) passed p.moment →
      (p.table workspace).bindings =
        passed.flatMap (Moment.defined workspace) ++ (p.moment.defined workspace).take p.made ∧
      ∀ q, Later workspace p q →
        (p.table workspace).bindings <+: (q.table workspace).bindings ∧
        ∀ name document scope value, (p.table workspace).lookup name document scope = some value →
          (q.table workspace).lookup name document scope = some value) ∧
    ∃ passed table result,
      Run workspace (entry.start workspace) passed ⟨table, [], [], .resume result⟩ ∧
      step workspace ⟨table, [], [], .resume result⟩ = none ∧
      entry.load workspace = result.map fun d =>
        { d with properties := passed.flatMap (Moment.defined workspace) } := by
  have hempty : (entry.start workspace).table.bindings = [] := by
    cases entry <;> rfl
  refine ⟨fun passed p hrun => ⟨?_, fun q hlater => ?_⟩, ?_⟩
  · rw [Point.table, PropertyTable.defineAll, hrun.bindings, hempty, List.nil_append]
  · obtain ⟨more, hmore⟩ := hlater.grows
    rw [hmore]
    exact ⟨List.prefix_append _ _, fun name document scope value h =>
      PropertyTable.lookup_defineAll_of_some more h⟩
  · obtain ⟨table, result, hreach, hload⟩ := entry.ends workspace
    obtain ⟨passed, hrun⟩ := hreach.run
    have hbindings := hrun.bindings
    rw [hempty, List.nil_append] at hbindings
    refine ⟨passed, table, result, hrun, rfl, ?_⟩
    rw [hload, hbindings]

def propertyElement (attributes : List (String × Value)) : Element where
  name := "property"
  attributes := .ofList attributes
  args := []
  children := []
  line := 1

def boundByValue : Element := propertyElement [("name", .string "a"), ("value", .string "1")]

def boundByFile : Element := propertyElement [("file", .string "p")]

def rebindingRoot : Element where
  name := "databaseChangeLog"
  attributes := .empty
  args := []
  children := [boundByValue, boundByFile]
  line := 1

def rebindingWorkspace : Workspace where
  accessor := MemoryResources.accessor ⟨[("p", some "a=2\nb=3")], []⟩

def rebinding : Entry := .element rebindingRoot "main"

def mainBinding (name value : String) : Binding := ⟨name, value, none, none, none, true, "main"⟩

def rebindingMoment (bindings : List Binding) (elements : List Element) : Moment :=
  ⟨⟨bindings⟩, ["main"], [], .build ⟨.ofPath "main", elements, []⟩⟩

def amidFile : Point := ⟨rebindingMoment [mainBinding "a" "1"] [boundByFile], 1⟩

def afterFile : Point :=
  ⟨rebindingMoment [mainBinding "a" "1", mainBinding "a" "2", mainBinding "b" "3"] [], 0⟩

theorem load_rebinding :
    (rebinding.load rebindingWorkspace).map Document.properties =
      .ok [mainBinding "a" "1", mainBinding "a" "2", mainBinding "b" "3"] := by
  with_unfolding_all rfl

/-- The first value counts in the midst of the property file as after it; all three bindings are kept. -/
theorem bindings_of_run_rebinding :
    Run rebindingWorkspace (rebinding.start rebindingWorkspace)
      [rebindingMoment [] [boundByValue, boundByFile]] amidFile.moment ∧
    Later rebindingWorkspace amidFile afterFile ∧
    (amidFile.table rebindingWorkspace).lookup "a" "main" .any = some "1" ∧
    (afterFile.table rebindingWorkspace).lookup "a" "main" .any = some "1" ∧
    ∃ passed table result,
      Run rebindingWorkspace (rebinding.start rebindingWorkspace) passed
        ⟨table, [], [], .resume result⟩ ∧
      passed.flatMap (Moment.defined rebindingWorkspace) =
        [mainBinding "a" "1", mainBinding "a" "2", mainBinding "b" "3"] := by
  have hstart : rebinding.start rebindingWorkspace = rebindingMoment [] [boundByValue, boundByFile] := by
    with_unfolding_all rfl
  have hfirst : step rebindingWorkspace (rebindingMoment [] [boundByValue, boundByFile]) =
      some amidFile.moment := by
    with_unfolding_all rfl
  have hsecond : step rebindingWorkspace amidFile.moment = some afterFile.moment := by
    with_unfolding_all rfl
  have hrun : Run rebindingWorkspace (rebinding.start rebindingWorkspace)
      [rebindingMoment [] [boundByValue, boundByFile]] amidFile.moment := by
    rw [hstart]
    exact .next hfirst (.here _)
  have hlater : Later rebindingWorkspace amidFile afterFile := .after hsecond .refl
  have hvalue : (amidFile.table rebindingWorkspace).lookup "a" "main" .any = some "1" := by
    with_unfolding_all rfl
  obtain ⟨hpoints, passed, table, result, hend, -, hload⟩ :=
    bindings_of_run rebindingWorkspace rebinding
  have hkept := ((hpoints _ _ hrun).2 _ hlater).2 "a" "main" .any "1" hvalue
  refine ⟨hrun, hlater, hvalue, hkept, passed, table, result, hend, ?_⟩
  have hproperties := load_rebinding
  rw [hload] at hproperties
  cases result with
  | error e => cases hproperties
  | ok d => exact Except.ok.inj hproperties

end Changelog.Loading
