import Changelog.Document.ChangeSet

namespace Changelog

def changeSetAttributes : List String :=
  ["id", "author", "dbms", "runAlways", "runOnChange", "context", "labels", "runInTransaction",
   "failOnError", "onValidationFail", "objectQuotingStrategy"]

def rollbackAttributes : List String := ["changeSetId", "changeSetAuthor", "changeSetPath"]

def modifySqlAttributes : List String := ["dbms", "context", "labels", "applyToRollback"]

def SqlEditKind.attributes : SqlEditKind → List String
  | .prepend | .append => ["value"]
  | .replace | .replacePattern => ["replace", "with"]

inductive ChangeSetPart
  | comment
  | validChecksum
  | preconditions
  | rollback
  | modifySql
deriving DecidableEq, Repr

namespace ChangeSetPart

def name : ChangeSetPart → String
  | .comment => "comment"
  | .validChecksum => "validCheckSum"
  | .preconditions => "preConditions"
  | .rollback => "rollback"
  | .modifySql => "modifySql"

instance : Named ChangeSetPart :=
  ⟨[.comment, .validChecksum, .preconditions, .rollback, .modifySql], name⟩

end ChangeSetPart

def rootAttributes : List String := ["logicalFilePath", "objectQuotingStrategy"]

def propertyAttributes : List String :=
  ["name", "value", "file", "relativeToChangelogFile", "context", "labels", "dbms", "global"]

def includeAttributes : List String := ["file", "relativeToChangelogFile", "errorIfMissing"]

def includeAllAttributes : List String :=
  ["path", "relativeToChangelogFile", "errorIfMissingOrEmpty", "resourceFilter"]

inductive DocumentPart
  | changeSet
  | preconditions
  | property
  | includeFile
  | includeAll
deriving DecidableEq, Repr

namespace DocumentPart

def name : DocumentPart → String
  | .changeSet => "changeSet"
  | .preconditions => "preConditions"
  | .property => "property"
  | .includeFile => "include"
  | .includeAll => "includeAll"

instance : Named DocumentPart :=
  ⟨[.changeSet, .preconditions, .property, .includeFile, .includeAll], name⟩

end DocumentPart

end Changelog
