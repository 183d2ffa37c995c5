import Changelog.Build.Precondition
import Changelog.Pattern.Reader
import Changelog.Schema.ChangeSet

/-!
# Building change sets

A change set is built from its attributes and then from the elements inside it, one after the other.
Rollbacks may reuse the changes of a change set that the document already holds.
-/

namespace Changelog.Build

def rollbackText (site : Site) (e : Element) : Except ChangelogError (List Change) :=
  match e.args with
  | [] => .ok []
  | [.string sql] => .ok [.ofSql (site.expander.text sql)]
  | _ => .error (.invalidValue .rollbackText site.context)

/-- The changes of the change set that a rollback names, if it names one. -/
def referencedChanges (site : Site) (document : Document) (attributes : Attributes) :
    Except ChangelogError (List Change) :=
  match textOf? attributes "changeSetId" with
  | none => .ok []
  | some id =>
    let author := textOf? attributes "changeSetAuthor"
    let path := (textOf? attributes "changeSetPath").getD document.logicalPath
    match findChangeSet? document.changeSets id author path with
    | some changeSet => .ok changeSet.changes
    | none => .error (.rollbackTargetNotFound id (author.getD "") path site.context)

/-- The changes of a rollback: its text, the changes it reuses, and those written inside it. -/
def rollback (site : Site) (document : Document) (e : Element) :
    Except ChangelogError (List Change) := do
  checkAttributes "rollback" e.attributes rollbackAttributes site.context
  let written ← rollbackText site e
  let reused ← referencedChanges site document (site.expander.attributes e.attributes)
  let inside ← e.children.mapM (changeOf site "rollback")
  return written ++ reused ++ inside

def sqlEditOf (site : Site) (attributes : Attributes) :
    SqlEditKind → Except ChangelogError SqlEdit
  | .prepend => (requiredText attributes "prepend" "value" site.context).map .prepend
  | .append => (requiredText attributes "append" "value" site.context).map .append
  | .replace => do
    let old ← requiredText attributes "replace" "replace" site.context
    return .replace old ((textOf? attributes "with").getD "")
  | .replacePattern => do
    let pattern ← requiredText attributes "regExpReplace" "replace" site.context
    match Pattern.read pattern with
    | .ok _ => return .replacePattern pattern ((textOf? attributes "with").getD "")
    | .error cause => .error (.invalidValue (.badPattern pattern cause) site.context)

def sqlEdit (site : Site) (e : Element) : Except ChangelogError SqlEdit :=
  match Named.ofName? (α := SqlEditKind) e.name with
  | some kind => do
    checkAttributes kind.name e.attributes kind.attributes site.context
    rejectPositional e.name e.args site.context
    sqlEditOf site (site.expander.attributes e.attributes) kind
  | none => .error (.invalidElement e.name "modifySql" site.context)

/-- An adjustment with the scope that the attributes of its group give. -/
def sqlAdjustmentOf (attributes : Attributes) (edit : SqlEdit) : SqlAdjustment where
  edit := edit
  dbms := namesOf attributes "dbms"
  context := textOf? attributes "context"
  labels := namesOf attributes "labels"
  applyToRollback := truthOf attributes "applyToRollback" false

def sqlAdjustments (site : Site) (e : Element) : Except ChangelogError (List SqlAdjustment) := do
  checkAttributes "modifySql" e.attributes modifySqlAttributes site.context
  rejectPositional e.name e.args site.context
  let edits ← e.children.mapM (sqlEdit site)
  return edits.map (sqlAdjustmentOf (site.expander.attributes e.attributes))

def addChangeSetPart (site : Site) (document : Document) (changeSet : ChangeSet) (e : Element) :
    Except ChangelogError ChangeSet :=
  match Named.ofName? (α := ChangeSetPart) e.name with
  | some .comment => do
    let text ← bodyText site e
    return { changeSet with comments := some text }
  | some .validChecksum => do
    let text ← bodyText site e
    return { changeSet with validChecksums := changeSet.validChecksums ++ [text] }
  | some .preconditions => do
    let p ← container site e
    return { changeSet with preconditions := some p }
  | some .rollback => do
    let changes ← rollback site document e
    return { changeSet with rollback := changeSet.rollback ++ changes }
  | some .modifySql => do
    let adjustments ← sqlAdjustments site e
    return { changeSet with sqlAdjustments := changeSet.sqlAdjustments ++ adjustments }
  | none => do
    let c ← changeOf site "changeSet" e
    return { changeSet with changes := changeSet.changes ++ [c] }

/-- Whether a change set that fails stops the run; open where nothing or `null` is written. -/
def failOnError (attributes : Attributes) : Option Bool :=
  match attributes.get? "failOnError" with
  | none => none
  | some .null => none
  | some value => some (Value.truth (some value) true)

def changeSetOf (site : Site) (document : Document) (attributes : Attributes) :
    Except ChangelogError ChangeSet := do
  let onValidationFail ←
    optionalChoice ValidationFailure attributes "onValidationFail" site.context
  let quoting ← optionalChoice QuotingStrategy attributes "objectQuotingStrategy" site.context
  return {
    id := (textOf? attributes "id").getD ""
    author := (textOf? attributes "author").getD ""
    filePath := document.logicalPath
    runAlways := truthOf attributes "runAlways" false
    runOnChange := truthOf attributes "runOnChange" false
    context := textOf? attributes "context"
    labels := namesOf attributes "labels"
    dbms := namesOf attributes "dbms"
    runInTransaction := truthOf attributes "runInTransaction" true
    failOnError := failOnError attributes
    onValidationFail := onValidationFail.getD .halt
    quotingStrategy := quoting.or document.quotingStrategy
    comments := none
    validChecksums := []
    preconditions := none
    changes := []
    rollback := []
    sqlAdjustments := [] }

/-- How errors name a change set: by its document and by its id as it is written. -/
def changeSetContext (document : Document) (e : Element) : String :=
  document.physicalPath ++ ": changeSet '" ++
    ((e.attributes.get? "id").map Value.display).getD "" ++ "'"

def changeSet (expander : Expander) (document : Document) (e : Element) :
    Except ChangelogError ChangeSet := do
  let site : Site := ⟨expander, changeSetContext document e⟩
  rejectRenamed "changeSet" e.attributes "alwaysRun" "runAlways" site.context
  checkAttributes "changeSet" e.attributes changeSetAttributes site.context
  rejectPositional e.name e.args site.context
  let bare ← changeSetOf site document (site.expander.attributes e.attributes)
  e.children.foldlM (addChangeSetPart site document) bare

end Changelog.Build
