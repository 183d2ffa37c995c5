import Changelog.Error
import Changelog.Element
import Changelog.Pattern.Reader
import Changelog.Proofs.Document.Choice
import Changelog.Proofs.Value.Attributes
import Changelog.Text.CommaList

/-!
# Writing documents

A document is written back as the tree of elements that an author would write for it, and `Fits` says
which documents follow the schema, so that there is such a tree.
-/

namespace Changelog

def Element.made (name : String) (attributes : Attributes) (args : List Value)
    (children : List Element) : Element where
  name := name
  attributes := attributes
  args := args
  children := children
  line := 0

def Element.ofText (name text : String) : Element := .made name .empty [.string text] []

def Value.ofNames (names : List String) : Value := .list (names.map .string)

def Value.ofChoice {α : Type} [Named α] (choice : Option α) : Option Value :=
  choice.map fun a => .string (Named.name a)

def Parameter.fields (p : Parameter) : List (String × Option Value) :=
  [("name", some (.string p.name)), ("value", p.value.map .string)]

def Parameter.toElement (p : Parameter) : Element := .made "param" (.ofFields p.fields) [] []

def argumentFields (text : String) : List (String × Option Value) := [("value", some (.string text))]

def argumentElement (text : String) : Element := .made "arg" (.ofFields (argumentFields text)) [] []

def Column.toElement (c : Column) : Element :=
  .made "column" c.attributes []
    (c.constraints.toList.map fun attributes => .made "constraints" attributes [] [])

def Change.toElement (c : Change) : Element :=
  .made c.kind.name c.attributes (c.text.toList.map .string)
    (c.columns.map Column.toElement ++ (c.condition.toList.map (.ofText "where") ++
      (c.comment.toList.map (.ofText "comment") ++ (c.params.map Parameter.toElement ++
        c.args.map argumentElement))))

def Check.toElement (c : Check) : Element :=
  .made c.kind.name c.attributes (c.sql.toList.map .string) (c.params.map Parameter.toElement)

mutual

def Precondition.toElement : Precondition → Element
  | .combination how nested => .made how.name .empty [] (Precondition.toElements nested)
  | .check c => c.toElement

def Precondition.toElements : List Precondition → List Element
  | [] => []
  | p :: rest => p.toElement :: Precondition.toElements rest

end

def Preconditions.fields (p : Preconditions) : List (String × Option Value) :=
  [("onFail", Value.ofChoice p.onFail), ("onError", Value.ofChoice p.onError),
    ("onUpdateSQL", Value.ofChoice p.onSqlOutput), ("onFailMessage", p.onFailMessage.map .string),
    ("onErrorMessage", p.onErrorMessage.map .string)]

def Preconditions.toElement (p : Preconditions) : Element :=
  .made "preConditions" (.ofFields p.fields) [] (Precondition.toElements p.nested)

def SqlEdit.fields : SqlEdit → List (String × Option Value)
  | .prepend value => [("value", some (.string value))]
  | .append value => [("value", some (.string value))]
  | .replace old new => [("replace", some (.string old)), ("with", some (.string new))]
  | .replacePattern pattern new =>
    [("replace", some (.string pattern)), ("with", some (.string new))]

def SqlEdit.toElement (e : SqlEdit) : Element := .made e.kind.name (.ofFields e.fields) [] []

def SqlAdjustment.fields (a : SqlAdjustment) : List (String × Option Value) :=
  [("dbms", some (.ofNames a.dbms)), ("context", a.context.map .string),
    ("labels", some (.ofNames a.labels)), ("applyToRollback", some (.bool a.applyToRollback))]

def SqlAdjustment.toElement (a : SqlAdjustment) : Element :=
  .made "modifySql" (.ofFields a.fields) [] [a.edit.toElement]

def rollbackElement (changes : List Change) : Element :=
  .made "rollback" .empty [] (changes.map Change.toElement)

def ChangeSet.fields (c : ChangeSet) : List (String × Option Value) :=
  [("id", some (.string c.id)), ("author", some (.string c.author)),
    ("dbms", some (.ofNames c.dbms)), ("runAlways", some (.bool c.runAlways)),
    ("runOnChange", some (.bool c.runOnChange)), ("context", c.context.map .string),
    ("labels", some (.ofNames c.labels)), ("runInTransaction", some (.bool c.runInTransaction)),
    ("failOnError", c.failOnError.map .bool),
    ("onValidationFail", Value.ofChoice (some c.onValidationFail)),
    ("objectQuotingStrategy", Value.ofChoice c.quotingStrategy)]

def ChangeSet.toElement (c : ChangeSet) : Element :=
  .made "changeSet" (.ofFields c.fields) []
    (c.comments.toList.map (.ofText "comment") ++
      (c.validChecksums.map (.ofText "validCheckSum") ++
        (c.preconditions.toList.map Preconditions.toElement ++ (c.changes.map Change.toElement ++
          (rollbackElement c.rollback :: c.sqlAdjustments.map SqlAdjustment.toElement)))))

def Document.fields (d : Document) : List (String × Option Value) :=
  [("logicalFilePath", some (.string d.logicalPath)),
    ("objectQuotingStrategy", Value.ofChoice d.quotingStrategy)]

def Document.toElement (d : Document) : Element :=
  .made rootName (.ofFields d.fields) []
    (d.preconditions.toList.map Preconditions.toElement ++ d.changeSets.map ChangeSet.toElement)

/-! ### The schema -/

def Attributes.Within (a : Attributes) (allowed : List String) : Prop := ∀ key ∈ a.keys, key ∈ allowed

instance (a : Attributes) (allowed : List String) : Decidable (a.Within allowed) :=
  inferInstanceAs (Decidable (∀ key ∈ a.keys, key ∈ allowed))

structure Column.Fits (kind : ChangeKind) (c : Column) : Prop where
  attributes : c.attributes.Within kind.columnAttributes
  constraints : ∀ a ∈ c.constraints, a.Within constraintAttributes

/-- A change has only attributes and parts that its kind takes. -/
structure Change.Fits (c : Change) : Prop where
  attributes : c.attributes.Within c.kind.attributes
  text : ∀ t ∈ c.text, c.kind.takesText = true
  columns : ∀ column ∈ c.columns, ChangePart.column.fits c.kind = true ∧ column.Fits c.kind
  condition : ∀ t ∈ c.condition, ChangePart.condition.fits c.kind = true
  comment : ∀ t ∈ c.comment, ChangePart.comment.fits c.kind = true
  params : ∀ p ∈ c.params, ChangePart.parameter.fits c.kind = true
  args : ∀ a ∈ c.args, ChangePart.argument.fits c.kind = true

/-- A check has only attributes of its kind, a query if it is an SQL check, and parameters only if it
is a custom one. -/
structure Check.Fits (c : Check) : Prop where
  attributes : c.attributes.Within c.kind.attributes
  sql : c.sql.isSome = true ↔ c.kind = .sqlCheck
  params : ∀ p ∈ c.params, c.kind = .customPrecondition

mutual

def Precondition.checks : Precondition → List Check
  | .combination _ nested => Precondition.checksOfAll nested
  | .check c => [c]

def Precondition.checksOfAll : List Precondition → List Check
  | [] => []
  | p :: rest => p.checks ++ Precondition.checksOfAll rest

end

def Preconditions.Fits (p : Preconditions) : Prop :=
  ∀ c ∈ Precondition.checksOfAll p.nested, c.Fits

/-- An item that a comma list can hold: trimmed, not empty, and without a comma. -/
structure IsItem (s : String) : Prop where
  trimmed : Text.trim s.toList = s.toList
  nonempty : s.toList ≠ []
  commaFree : ',' ∉ s.toList

instance (s : String) : Decidable (IsItem s) :=
  decidable_of_iff (Text.trim s.toList = s.toList ∧ s.toList ≠ [] ∧ ',' ∉ s.toList)
    ⟨fun ⟨h1, h2, h3⟩ => ⟨h1, h2, h3⟩, fun ⟨h1, h2, h3⟩ => ⟨h1, h2, h3⟩⟩

structure SqlAdjustment.Fits (a : SqlAdjustment) : Prop where
  dbms : ∀ s ∈ a.dbms, IsItem s
  labels : ∀ s ∈ a.labels, IsItem s
  pattern : ∀ pattern new, a.edit = .replacePattern pattern new → ∃ p, Pattern.read pattern = .ok p

/-- A change set of a document: it lies at the document's path, and it inherits the document's quoting
strategy unless it has its own. -/
structure ChangeSet.Fits (d : Document) (c : ChangeSet) : Prop where
  filePath : c.filePath = d.logicalPath
  quoting : c.quotingStrategy = none → d.quotingStrategy = none
  dbms : ∀ s ∈ c.dbms, IsItem s
  labels : ∀ s ∈ c.labels, IsItem s
  preconditions : ∀ p ∈ c.preconditions, p.Fits
  changes : ∀ change ∈ c.changes, change.Fits
  rollback : ∀ change ∈ c.rollback, change.Fits
  sqlAdjustments : ∀ a ∈ c.sqlAdjustments, a.Fits

/-- A document that one tree of elements can write: it follows the schema and binds no properties. -/
structure Document.Fits (d : Document) : Prop where
  properties : d.properties = []
  preconditions : ∀ p ∈ d.preconditions, p.Fits
  changeSets : ∀ c ∈ d.changeSets, c.Fits d

end Changelog
