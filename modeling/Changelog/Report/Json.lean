import Changelog.Document.ChangeSet
import Changelog.Json.Basic

/-!
# Documents as JSON

Every part of a document as an object with a fixed order of members.  What is missing or empty is left
out, except the lists of change sets and changes.
-/

namespace Changelog

namespace Json

/-- Members with those that are missing left out. -/
def objectOf (members : List (String × Option Json)) : Json :=
  .object (members.filterMap fun m => m.2.map (m.1, ·))

def nonempty? {α : Type} (ofItem : α → Json) (items : List α) : Option Json :=
  if items.isEmpty then none else some (.array (items.map ofItem))

def ofNamed {α : Type} [Named α] (a : α) : Json := .string (Named.name a)

def ofParameter (p : Parameter) : Json :=
  objectOf [("name", some (.string p.name)), ("value", p.value.map .string)]

def ofColumn (c : Column) : Json :=
  objectOf
    [("attributes", some (ofAttributes c.attributes)),
     ("constraints", c.constraints.map fun a => .object [("attributes", ofAttributes a)])]

def ofChange (c : Change) : Json :=
  objectOf
    [("kind", some (ofNamed c.kind)),
     ("attributes", some (ofAttributes c.attributes)),
     ("text", c.text.map .string),
     ("comment", c.comment.map .string),
     ("columns", nonempty? ofColumn c.columns),
     ("where", c.condition.map .string),
     ("params", nonempty? ofParameter c.params),
     ("args", nonempty? .string c.args)]

def ofCheck (c : Check) : Json :=
  objectOf
    [("kind", some (ofNamed c.kind)),
     ("attributes", some (ofAttributes c.attributes)),
     ("sql", c.sql.map .string),
     ("params", nonempty? ofParameter c.params)]

mutual

def ofPrecondition : Precondition → Json
  | .combination how nested => .object [(how.name, .array (ofPreconditionList nested))]
  | .check c => .object [("check", ofCheck c)]

def ofPreconditionList : List Precondition → List Json
  | [] => []
  | p :: rest => ofPrecondition p :: ofPreconditionList rest

end

def ofPreconditions (c : Preconditions) : Json :=
  objectOf
    [("onFail", c.onFail.map ofNamed),
     ("onError", c.onError.map ofNamed),
     ("onUpdateSQL", c.onSqlOutput.map ofNamed),
     ("onFailMessage", c.onFailMessage.map .string),
     ("onErrorMessage", c.onErrorMessage.map .string),
     ("nested", some (.array (ofPreconditionList c.nested)))]

def sqlEditMembers : SqlEdit → List (String × Option Json)
  | .prepend value => [("value", some (.string value))]
  | .append value => [("value", some (.string value))]
  | .replace old new => [("replace", some (.string old)), ("with", some (.string new))]
  | .replacePattern pattern new =>
    [("replace", some (.string pattern)), ("with", some (.string new))]

def ofSqlAdjustment (r : SqlAdjustment) : Json :=
  objectOf
    (("type", some (ofNamed r.edit.kind)) :: sqlEditMembers r.edit ++
      [("dbms", nonempty? .string r.dbms),
       ("context", r.context.map .string),
       ("labels", nonempty? .string r.labels),
       ("applyToRollback", some (.bool r.applyToRollback))])

def ofChangeSet (c : ChangeSet) : Json :=
  objectOf
    [("id", some (.string c.id)),
     ("author", some (.string c.author)),
     ("filePath", some (.string c.filePath)),
     ("runAlways", some (.bool c.runAlways)),
     ("runOnChange", some (.bool c.runOnChange)),
     ("context", c.context.map .string),
     ("labels", nonempty? .string c.labels),
     ("dbms", nonempty? .string c.dbms),
     ("runInTransaction", some (.bool c.runInTransaction)),
     ("failOnError", c.failOnError.map .bool),
     ("onValidationFail", some (ofNamed c.onValidationFail)),
     ("objectQuotingStrategy", c.quotingStrategy.map ofNamed),
     ("comments", c.comments.map .string),
     ("validChecksums", nonempty? .string c.validChecksums),
     ("preconditions", c.preconditions.map ofPreconditions),
     ("changes", some (.array (c.changes.map ofChange))),
     ("rollback", nonempty? ofChange c.rollback),
     ("sqlVisitors", nonempty? ofSqlAdjustment c.sqlAdjustments)]

def ofBinding (b : Binding) : Json :=
  objectOf
    [("name", some (.string b.name)),
     ("value", some (.string b.value)),
     ("context", b.context.map .string),
     ("labels", b.labels.map .string),
     ("dbms", b.dbms.map .string),
     ("global", some (.bool b.global)),
     ("sourceDocument", some (.string b.sourceDocument))]

def ofDocument (d : Document) : Json :=
  objectOf
    [("logicalFilePath", some (.string d.logicalPath)),
     ("physicalFilePath", some (.string d.physicalPath)),
     ("objectQuotingStrategy", d.quotingStrategy.map ofNamed),
     ("preconditions", d.preconditions.map ofPreconditions),
     ("changeSets", some (.array (d.changeSets.map ofChangeSet))),
     ("properties", nonempty? ofBinding d.properties)]

end Json

def jsonReport (document : Document) : String := (Json.ofDocument document).pretty ++ "\n"

end Changelog
