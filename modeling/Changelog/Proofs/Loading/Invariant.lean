import Changelog.Proofs.Loading.Machine

/-!
# Invariants of loading

A load gives only what its single steps keep: what holds of a document without elements, and is kept when
an element is taken in or an included document is joined, holds of all that is loaded.
-/

namespace Changelog.Loading

open Build Workspace

/-- What holds of a document that is being built, and of the table that it was begun with, at every point
of its construction. -/
structure Invariant (workspace : Workspace) (I : PropertyTable → Progress → Prop) : Prop where
  begins : ∀ {table : PropertyTable} {site : Site} {root : Element} {bare : Document},
    documentOf site root = .ok bare → I table ⟨table, bare⟩
  element : ∀ {start : PropertyTable} {p q : Progress} {e : Element} {files : List String},
    I start p → elementEffect workspace p e = .ok (q, files) → I start q
  inclusion : ∀ {start : PropertyTable} {p included : Progress},
    I start p → I p.table included → I start ⟨included.table, splice p.document included.document⟩

/-- It holds of whatever the loader gives. -/
def Respects (I : PropertyTable → Progress → Prop) (load : Loader) : Prop :=
  ∀ table path p, load table path = .ok p → I table p

namespace Invariant

variable {workspace : Workspace} {I : PropertyTable → Progress → Prop} {load : Loader}
  {start table : PropertyTable} {p q : Progress}

theorem addInclusion (h : Invariant workspace I) (hload : Respects I load) {file : String}
    (hp : I start p) (hq : addInclusion load p file = .ok q) : I start q := by
  obtain ⟨included, hincluded, hq⟩ := bind_eq_ok hq
  obtain rfl := Except.ok.inj hq
  exact h.inclusion hp (hload _ _ _ hincluded)

theorem addDocumentPart (h : Invariant workspace I) (hload : Respects I load) {e : Element}
    (hp : I start p) (hq : addDocumentPart workspace load p e = .ok q) : I start q := by
  rw [addDocumentPart_eq] at hq
  obtain ⟨⟨between, files⟩, heffect, hq⟩ := bind_eq_ok hq
  exact foldlM_keeps (K := I start) (fun _ _ _ hs hnext => h.addInclusion hload hs hnext)
    (h.element hp heffect) hq

theorem document (h : Invariant workspace I) (hload : Respects I load) {path : String} {root : Element}
    (hp : document workspace load table path root = .ok p) : I table p := by
  obtain ⟨bare, hbare, hp⟩ := bind_eq_ok hp
  exact foldlM_keeps (K := I table) (fun _ _ _ hs hnext => h.addDocumentPart hload hs hnext)
    (h.begins hbare) hp

theorem documentOfSource (h : Invariant workspace I) (hload : Respects I load) {path source : String}
    (hp : documentOfSource workspace load table path source = .ok p) : I table p := by
  unfold Build.documentOfSource at hp
  split at hp
  · cases hp
  · obtain ⟨root, -, hp⟩ := bind_eq_ok hp
    exact h.document hload hp

theorem loadFile (h : Invariant workspace I) (stack : List String) :
    Respects I (workspace.loadFile stack) := by
  intro table path p hp
  by_cases hopen : isOpen stack path
  · rw [loadFile_of_open hopen] at hp
    cases hp
  · cases hread : workspace.accessor.read path with
    | error cause =>
      rw [loadFile_of_unreadable hopen hread] at hp
      cases hp
    | ok source =>
      rw [loadFile_of_read hopen hread] at hp
      exact h.documentOfSource (loadFile h (stack ++ [path])) hp
termination_by (unopened workspace.accessor stack).length
decreasing_by exact length_unopened_lt hread hopen

end Invariant

end Changelog.Loading
