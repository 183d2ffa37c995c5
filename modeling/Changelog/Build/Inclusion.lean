import Changelog.Build.Property
import Changelog.Workspace

namespace Changelog.Build

/-- The file that an `include` element names; none if it may be missing and is. -/
def includedFile (accessor : Accessor) (site : Site) (e : Element) :
    Except ChangelogError (List String) := do
  rejectRenamed "include" e.attributes "path" "includeAll" site.context
  checkAttributes "include" e.attributes includeAttributes site.context
  rejectPositional e.name e.args site.context
  let attributes := site.expander.attributes e.attributes
  let file ← requiredText attributes "include" "file" site.context
  let path := placeOf attributes site.expander.document file
  return if !truthOf attributes "errorIfMissing" true && !accessor.has path then [] else [path]

/-- The filter that an `includeAll` element names; one that accepts all if it names none. -/
def namedFilter (filters : FilterRegistry) (site : Site) (attributes : Attributes) :
    Except ChangelogError PathFilter :=
  match textOf? attributes "resourceFilter" with
  | none => .ok ⟨fun _ => true⟩
  | some name =>
    match filters.get? name with
    | some filter => .ok filter
    | none => .error (.unknownFilter name site.context)

def changelogsOf (extension : String) (filter : PathFilter) (listed : List String) : List String :=
  (listed.filter fun path => Path.hasExtension path extension && filter.accepts path).mergeSort
    fun a b => a ≤ b

/-- The changelogs that an `includeAll` element picks; where a directory without any is no error they
are none. -/
def includedFiles (workspace : Workspace) (site : Site) (e : Element) :
    Except ChangelogError (List String) := do
  checkAttributes "includeAll" e.attributes includeAllAttributes site.context
  rejectPositional e.name e.args site.context
  let attributes := site.expander.attributes e.attributes
  let written ← requiredText attributes "includeAll" "path" site.context
  let directory := placeOf attributes site.expander.document written
  let required := truthOf attributes "errorIfMissingOrEmpty" true
  let filter ← namedFilter workspace.filters site attributes
  match workspace.accessor.list directory with
  | .error _ => if required then .error (.nothingToInclude directory true) else .ok []
  | .ok listed =>
    let files := changelogsOf workspace.options.extension filter listed
    if files.isEmpty && required then .error (.nothingToInclude directory false) else .ok files

end Changelog.Build
