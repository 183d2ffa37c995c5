import Changelog.Build.Inclusion
import Changelog.Source.Document

/-!
# Building documents

A document is built from its root element, one element inside it after the other.  What is included is
read by a function given here as a parameter, and its change sets take the place of the inclusion.
-/

namespace Changelog.Build

/-- A document as far as it is built, and the bindings made so far. -/
structure Progress where
  table : PropertyTable
  document : Document

/-- Reads the document at a path, with the bindings made before it. -/
abbrev Loader := PropertyTable → String → Except ChangelogError Progress

def joinPreconditions (own included : Option Preconditions) : Option Preconditions :=
  match included with
  | none => own
  | some other =>
    let c := own.getD (.ofNested [])
    some { c with nested := c.nested ++ other.nested }

def splice (document included : Document) : Document :=
  { document with
    changeSets := document.changeSets ++ included.changeSets
    preconditions := joinPreconditions document.preconditions included.preconditions }

def addInclusion (load : Loader) (progress : Progress) (path : String) :
    Except ChangelogError Progress := do
  let included ← load progress.table path
  return ⟨included.table, splice progress.document included.document⟩

def Progress.expander (progress : Progress) (scope : Scope) : Expander :=
  ⟨progress.table, progress.document.physicalPath, scope⟩

def Progress.site (progress : Progress) (scope : Scope) : Site :=
  ⟨progress.expander scope, progress.document.physicalPath⟩

def addDocumentPart (workspace : Workspace) (load : Loader) (progress : Progress) (e : Element) :
    Except ChangelogError Progress :=
  let site := progress.site workspace.options.scope
  let document := progress.document
  match Named.ofName? (α := DocumentPart) e.name with
  | some .changeSet => do
    let c ← changeSet site.expander document e
    return { progress with document.changeSets := document.changeSets ++ [c] }
  | some .preconditions => do
    let p ← container site e
    return { progress with document.preconditions := some p }
  | some .property => do
    let bindings ← propertyBindings workspace.accessor site e
    return { progress with table := progress.table.defineAll bindings }
  | some .includeFile => do
    let files ← includedFile workspace.accessor site e
    files.foldlM (addInclusion load) progress
  | some .includeAll => do
    let files ← includedFiles workspace site e
    files.foldlM (addInclusion load) progress
  | none => .error (.invalidElement e.name rootName site.context)

/-- A document with the attributes of its root and nothing else. -/
def documentOf (site : Site) (root : Element) : Except ChangelogError Document := do
  let path := site.expander.document
  checkAttributes rootName root.attributes rootAttributes site.context
  let attributes := site.expander.attributes root.attributes
  let quoting ← optionalChoice QuotingStrategy attributes "objectQuotingStrategy" site.context
  return { Document.ofPath path with
    logicalPath := (textOf? attributes "logicalFilePath").getD path
    quotingStrategy := quoting }

def document (workspace : Workspace) (load : Loader) (table : PropertyTable) (path : String)
    (root : Element) : Except ChangelogError Progress := do
  let bare ← documentOf ⟨⟨table, path, workspace.options.scope⟩, path⟩ root
  root.children.foldlM (addDocumentPart workspace load) ⟨table, bare⟩

/-- The single element of a changelog, which has the name of a root and no positional values. -/
def rootOf (path : String) : List Element → Except ChangelogError Element
  | [root] =>
    if root.name ≠ rootName then .error (.malformedRoot path (.wrongName root.name))
    else if !root.args.isEmpty then .error (.malformedRoot path .positional)
    else .ok root
  | elements => .error (.malformedRoot path (.notSingle elements.length))

def documentOfSource (workspace : Workspace) (load : Loader) (table : PropertyTable)
    (path source : String) : Except ChangelogError Progress :=
  match Source.readElements source with
  | .error e => .error (.malformedSource path e)
  | .ok elements => do
    let root ← rootOf path elements
    document workspace load table path root

end Changelog.Build
