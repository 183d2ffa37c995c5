import Changelog.Loading
import Changelog.Proofs.Steps
import Mathlib.Logic.Relation

/-!
# Loading step by step

A load as a machine that goes from moment to moment: it enters a path, reads it, builds its document
element by element, and leaves the path again before the including document goes on.  The stack of the
paths being read is part of a moment; entering pushes on it and leaving pops from it.
-/

namespace Changelog.Loading

open Build Workspace

/-- A document that is being built, with the elements still to come and the files that the present
element has still to include. -/
structure Frame where
  document : Document
  elements : List Element
  files : List String

inductive Task
  | enter (path : String)
  | read (path : String)
  | build (frame : Frame)
  | leave (result : Except ChangelogError Document)
  | resume (result : Except ChangelogError Document)

/-- The documents that wait for an included one stand in `waiting`, the innermost first. -/
structure Moment where
  table : PropertyTable
  stack : List String
  waiting : List Frame
  task : Task

def Moment.start (path : String) : Moment := ⟨.empty, [], [], .enter path⟩

def openDocument (workspace : Workspace) (table : PropertyTable) (path source : String) :
    Except ChangelogError Frame :=
  match Source.readElements source with
  | .error e => .error (.malformedSource path e)
  | .ok elements => do
    let root ← rootOf path elements
    let bare ← documentOf ⟨⟨table, path, workspace.options.scope⟩, path⟩ root
    return ⟨bare, root.children, []⟩

/-- What an element does by itself, and the files that it includes after that. -/
def elementEffect (workspace : Workspace) (progress : Progress) (e : Element) :
    Except ChangelogError (Progress × List String) :=
  let site := progress.site workspace.options.scope
  let document := progress.document
  match Named.ofName? (α := DocumentPart) e.name with
  | some .changeSet => do
    let c ← changeSet site.expander document e
    return ({ progress with document.changeSets := document.changeSets ++ [c] }, [])
  | some .preconditions => do
    let p ← container site e
    return ({ progress with document.preconditions := some p }, [])
  | some .property => do
    let bindings ← propertyBindings workspace.accessor site e
    return ({ progress with table := progress.table.defineAll bindings }, [])
  | some .includeFile => do
    let files ← includedFile workspace.accessor site e
    return (progress, files)
  | some .includeAll => do
    let files ← includedFiles workspace site e
    return (progress, files)
  | none => .error (.invalidElement e.name rootName site.context)

/-- The next moment; there is none after the first document has been left. -/
def step (workspace : Workspace) (m : Moment) : Option Moment :=
  match m.task with
  | .enter path =>
    if isOpen m.stack path then
      some { m with task := .resume (.error (.circularInclude path (m.stack ++ [path]))) }
    else some { m with stack := m.stack ++ [path], task := .read path }
  | .read path =>
    match workspace.accessor.read path with
    | .error cause => some { m with task := .leave (.error (.unreadable path cause)) }
    | .ok source =>
      match openDocument workspace m.table path source with
      | .error e => some { m with task := .leave (.error e) }
      | .ok frame => some { m with task := .build frame }
  | .build ⟨document, elements, file :: files⟩ =>
    some { m with waiting := ⟨document, elements, files⟩ :: m.waiting, task := .enter file }
  | .build ⟨document, e :: elements, []⟩ =>
    match elementEffect workspace ⟨m.table, document⟩ e with
    | .error e => some { m with task := .leave (.error e) }
    | .ok (progress, files) =>
      some { m with table := progress.table, task := .build ⟨progress.document, elements, files⟩ }
  | .build ⟨document, [], []⟩ => some { m with task := .leave (.ok document) }
  | .leave result => some { m with stack := m.stack.dropLast, task := .resume result }
  | .resume result =>
    match m.waiting, result with
    | [], _ => none
    | _ :: waiting, .error e => some { m with waiting := waiting, task := .leave (.error e) }
    | ⟨document, elements, files⟩ :: waiting, .ok included =>
      some { m with
        waiting := waiting
        task := .build ⟨splice document included, elements, files⟩ }

def Reaches (workspace : Workspace) : Moment → Moment → Prop :=
  Relation.ReflTransGen fun m n => step workspace m = some n

/-! ### Elements and the files that they include -/

/-- An element does what it does by itself before the first of its files is read. -/
theorem addDocumentPart_eq (workspace : Workspace) (load : Loader) (progress : Progress) (e : Element) :
    addDocumentPart workspace load progress e =
      (elementEffect workspace progress e >>= fun r => r.2.foldlM (addInclusion load) r.1) := by
  unfold addDocumentPart elementEffect
  cases Named.ofName? (α := DocumentPart) e.name with
  | none => rfl
  | some part =>
    cases part <;> simp only [bind_assoc, pure_bind, List.foldlM_nil]

theorem elementEffect_of_include {workspace : Workspace} {progress : Progress} {e : Element}
    (hname : e.name = "include") :
    elementEffect workspace progress e =
      (includedFile workspace.accessor (progress.site workspace.options.scope) e >>= fun files =>
        .ok (progress, files)) := by
  have hpart : Named.ofName? (α := DocumentPart) e.name = some .includeFile := by
    rw [hname]
    rfl
  rw [elementEffect, hpart]
  rfl

theorem elementEffect_of_includeAll {workspace : Workspace} {progress : Progress} {e : Element}
    (hname : e.name = "includeAll") :
    elementEffect workspace progress e =
      (includedFiles workspace (progress.site workspace.options.scope) e >>= fun files =>
        .ok (progress, files)) := by
  have hpart : Named.ofName? (α := DocumentPart) e.name = some .includeAll := by
    rw [hname]
    rfl
  rw [elementEffect, hpart]
  rfl

theorem elementEffect_of_property {workspace : Workspace} {progress : Progress} {e : Element}
    (hname : e.name = "property") :
    elementEffect workspace progress e =
      (propertyBindings workspace.accessor (progress.site workspace.options.scope) e >>= fun bindings =>
        .ok ({ progress with table := progress.table.defineAll bindings }, [])) := by
  have hpart : Named.ofName? (α := DocumentPart) e.name = some .property := by
    rw [hname]
    rfl
  rw [elementEffect, hpart]
  rfl

theorem elementEffect_cases {workspace : Workspace} {progress next : Progress} {e : Element}
    {files : List String} (h : elementEffect workspace progress e = .ok (next, files)) :
    (∃ c, e.name = "changeSet" ∧
      changeSet (progress.expander workspace.options.scope) progress.document e = .ok c ∧
      next = { progress with document.changeSets := progress.document.changeSets ++ [c] }) ∨
    (∃ p, container (progress.site workspace.options.scope) e = .ok p ∧
      next = { progress with document.preconditions := some p }) ∨
    ∃ table, next = { progress with table := table } := by
  unfold elementEffect at h
  cases hpart : Named.ofName? (α := DocumentPart) e.name with
  | none =>
    rw [hpart] at h
    cases h
  | some part =>
    rw [hpart] at h
    cases part with
    | changeSet =>
      obtain ⟨c, hc, h⟩ := bind_eq_ok h
      obtain ⟨rfl, -⟩ := Prod.mk.inj (Except.ok.inj h)
      exact .inl ⟨c, (Named.name_of_ofName? hpart).symm, hc, rfl⟩
    | preconditions =>
      obtain ⟨p, hp, h⟩ := bind_eq_ok h
      obtain ⟨rfl, -⟩ := Prod.mk.inj (Except.ok.inj h)
      exact .inr (.inl ⟨p, hp, rfl⟩)
    | property =>
      obtain ⟨bindings, -, h⟩ := bind_eq_ok h
      obtain ⟨rfl, -⟩ := Prod.mk.inj (Except.ok.inj h)
      exact .inr (.inr ⟨_, rfl⟩)
    | includeFile =>
      obtain ⟨names, -, h⟩ := bind_eq_ok h
      obtain ⟨rfl, -⟩ := Prod.mk.inj (Except.ok.inj h)
      exact .inr (.inr ⟨progress.table, rfl⟩)
    | includeAll =>
      obtain ⟨names, -, h⟩ := bind_eq_ok h
      obtain ⟨rfl, -⟩ := Prod.mk.inj (Except.ok.inj h)
      exact .inr (.inr ⟨progress.table, rfl⟩)

theorem documentOfSource_eq (workspace : Workspace) (load : Loader) (table : PropertyTable)
    (path source : String) :
    documentOfSource workspace load table path source =
      (openDocument workspace table path source >>= fun frame =>
        frame.elements.foldlM (addDocumentPart workspace load) ⟨table, frame.document⟩) := by
  unfold documentOfSource openDocument
  cases Source.readElements source with
  | error e => rfl
  | ok elements =>
    simp only [document, bind_assoc, pure_bind]

/-! ### Loading a file -/

section File

variable {workspace : Workspace} {stack : List String} {path : String}

theorem loadFile_of_open (h : isOpen stack path) (table : PropertyTable) :
    workspace.loadFile stack table path = .error (.circularInclude path (stack ++ [path])) := by
  rw [loadFile, dif_pos h]

theorem loadFile_of_unreadable (hopen : ¬isOpen stack path) {cause : ResourceError}
    (hread : workspace.accessor.read path = .error cause) (table : PropertyTable) :
    workspace.loadFile stack table path = .error (.unreadable path cause) := by
  rw [loadFile, dif_neg hopen]
  split
  · next other hother =>
    rw [hread, Except.error.injEq] at hother
    rw [hother]
  · next source hother =>
    rw [hread] at hother
    cases hother

theorem loadFile_of_read (hopen : ¬isOpen stack path) {source : String}
    (hread : workspace.accessor.read path = .ok source) (table : PropertyTable) :
    workspace.loadFile stack table path =
      documentOfSource workspace (workspace.loadFile (stack ++ [path])) table path source := by
  rw [loadFile, dif_neg hopen]
  split
  · next cause hother =>
    rw [hread] at hother
    cases hother
  · next other hother =>
    rw [hread, Except.ok.injEq] at hother
    rw [hother]

end File

theorem elementEffect_physicalPath {workspace : Workspace} {progress next : Progress} {e : Element}
    {files : List String} (h : elementEffect workspace progress e = .ok (next, files)) :
    next.document.physicalPath = progress.document.physicalPath := by
  obtain ⟨c, -, -, rfl⟩ | ⟨p, -, rfl⟩ | ⟨table, rfl⟩ := elementEffect_cases h <;> rfl

theorem documentOf_physicalPath {site : Site} {root : Element} {document : Document}
    (h : documentOf site root = .ok document) : document.physicalPath = site.expander.document := by
  obtain ⟨_, -, h⟩ := bind_eq_ok h
  obtain ⟨quoting, -, h⟩ := bind_eq_ok h
  cases h
  rfl

theorem openDocument_physicalPath {workspace : Workspace} {table : PropertyTable}
    {path source : String} {frame : Frame}
    (h : openDocument workspace table path source = .ok frame) :
    frame.document.physicalPath = path := by
  unfold openDocument at h
  split at h
  · cases h
  · next elements _ =>
    obtain ⟨root, -, h⟩ := bind_eq_ok h
    obtain ⟨bare, hbare, h⟩ := bind_eq_ok h
    cases h
    exact documentOf_physicalPath hbare

end Changelog.Loading
