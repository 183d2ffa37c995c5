import Changelog.Proofs.Loading.Machine

/-!
# Workspaces that agree

Two workspaces that read the same texts and take each element in alike give the same documents and the same
errors, through all files that include each other.
-/

namespace Changelog.Loading

open Build Workspace

/-- Two workspaces that differ in nothing that a single element shows. -/
structure Agree (own other : Workspace) : Prop where
  read : ∀ path, own.accessor.read path = other.accessor.read path
  begins : ∀ table path root,
    documentOf ⟨⟨table, path, own.options.scope⟩, path⟩ root =
      documentOf ⟨⟨table, path, other.options.scope⟩, path⟩ root
  part : ∀ load progress e,
    addDocumentPart own load progress e = addDocumentPart other load progress e

namespace Agree

variable {own other : Workspace} (h : Agree own other)

include h

theorem document (load : Loader) (table : PropertyTable) (path : String) (root : Element) :
    document own load table path root = document other load table path root := by
  have hpart : addDocumentPart own load = addDocumentPart other load := by
    funext progress e
    exact h.part load progress e
  unfold Build.document
  rw [h.begins, hpart]

theorem documentOfSource (load : Loader) (table : PropertyTable) (path source : String) :
    documentOfSource own load table path source = documentOfSource other load table path source := by
  unfold Build.documentOfSource
  simp only [h.document]

theorem loadFile (stack : List String) : loadFile own stack = loadFile other stack := by
  funext table path
  by_cases hopen : isOpen stack path
  · rw [loadFile_of_open hopen, loadFile_of_open hopen]
  · have hreads := h.read path
    cases hread : own.accessor.read path with
    | error cause =>
      rw [hread] at hreads
      rw [loadFile_of_unreadable hopen hread, loadFile_of_unreadable hopen hreads.symm]
    | ok source =>
      rw [hread] at hreads
      rw [loadFile_of_read hopen hread, loadFile_of_read hopen hreads.symm, h.documentOfSource,
        loadFile (stack ++ [path])]
termination_by (unopened own.accessor stack).length
decreasing_by exact length_unopened_lt hread hopen

theorem load (path : String) : load own path = load other path := by
  rw [Workspace.load, Workspace.load, h.loadFile]

theorem loadSource (source path : String) : loadSource own source path = loadSource other source path := by
  rw [Workspace.loadSource, Workspace.loadSource, h.documentOfSource, h.loadFile]

theorem loadElement (root : Element) (path : String) :
    loadElement own root path = loadElement other root path := by
  unfold Workspace.loadElement
  simp only [h.document, h.loadFile]

end Agree

end Changelog.Loading
