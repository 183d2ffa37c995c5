import Changelog.Build.Document

/-!
# Loading changelogs

A changelog is loaded with all the files it includes.  A file that is being read is not read again
inside itself; as only finitely many paths can be read, every load comes to an end.
-/

namespace Changelog

open Build

namespace Workspace

/-- Whether a path leads to one of the documents being read. -/
def isOpen (stack : List String) (path : String) : Prop := Path.key path ∈ stack.map Path.key

instance (stack : List String) (path : String) : Decidable (isOpen stack path) :=
  inferInstanceAs (Decidable (_ ∈ _))

/-- The readable places that are not being read. -/
def unopened (accessor : Accessor) (stack : List String) : List String :=
  accessor.readable.filter fun key => !(stack.map Path.key).contains key

theorem length_unopened_lt {accessor : Accessor} {stack : List String} {path text : String}
    (hread : accessor.read path = .ok text) (hnew : ¬isOpen stack path) :
    (unopened accessor (stack ++ [path])).length < (unopened accessor stack).length := by
  have hsplit : unopened accessor (stack ++ [path]) =
      (unopened accessor stack).filter fun key => key != Path.key path := by
    rw [unopened, unopened, List.filter_filter]
    apply List.filter_congr
    intro key _
    simp only [List.map_append, List.map_cons, List.map_nil, List.contains_eq_mem,
      List.mem_append, List.mem_singleton]
    by_cases h1 : key ∈ stack.map Path.key <;> by_cases h2 : key = Path.key path <;>
      simp [h1, h2]
  have hmem : Path.key path ∈ unopened accessor stack := by
    simp only [unopened, List.mem_filter]
    refine ⟨accessor.key_mem_readable path text hread, ?_⟩
    simpa [isOpen] using hnew
  rw [hsplit]
  exact List.length_filter_lt_length_iff_exists.2 ⟨_, hmem, by simp⟩

/-- Loads the file at a path while the documents of `stack` are being read, the first one first. -/
def loadFile (workspace : Workspace) (stack : List String) (table : PropertyTable) (path : String) :
    Except ChangelogError Progress :=
  if _hopen : isOpen stack path then .error (.circularInclude path (stack ++ [path]))
  else
    match _hread : workspace.accessor.read path with
    | .error cause => .error (.unreadable path cause)
    | .ok source =>
      documentOfSource workspace (fun t p => loadFile workspace (stack ++ [path]) t p) table path
        source
termination_by (unopened workspace.accessor stack).length
decreasing_by exact length_unopened_lt _hread _hopen

/-- The document with all bindings that were made on the way to it. -/
def finish (progress : Progress) : Document :=
  { progress.document with properties := progress.table.bindings }

def load (workspace : Workspace) (path : String) : Except ChangelogError Document :=
  (workspace.loadFile [] .empty path).map finish

/-- Loads a source text as if it had been read from a path. -/
def loadSource (workspace : Workspace) (source path : String) : Except ChangelogError Document :=
  (documentOfSource workspace (workspace.loadFile [path]) .empty path source).map finish

def loadElement (workspace : Workspace) (root : Element) (path : String) :
    Except ChangelogError Document := do
  let root ← rootOf path [root]
  let progress ← document workspace (workspace.loadFile [path]) .empty path root
  return finish progress

end Workspace

end Changelog
