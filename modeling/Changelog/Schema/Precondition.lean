import Changelog.Document.Precondition
import Changelog.Schema.Change

namespace Changelog

def preconditionsAttributes : List String :=
  ["onFail", "onError", "onUpdateSQL", "onFailMessage", "onErrorMessage"]

def CheckKind.attributes : CheckKind → List String
  | .dbms => ["type"]
  | .runningAs => ["username"]
  | .changeSetExecuted => ["id", "author", "changeLogFile"]
  | .columnExists => ofTable ["columnName"]
  | .tableExists => ofTable []
  | .viewExists => inSchema ["viewName"]
  | .foreignKeyConstraintExists => inSchema ["foreignKeyTableName", "foreignKeyName"]
  | .indexExists => ofTable ["indexName", "columnNames"]
  | .sequenceExists => inSchema ["sequenceName"]
  | .primaryKeyExists => ofTable ["primaryKeyName"]
  | .sqlCheck => ["expectedResult"]
  | .changeLogPropertyDefined => ["property", "value"]
  | .expectedQuotingStrategy => ["strategy"]
  | .rowCount => ofTable ["expectedRows"]
  | .tableIsEmpty => ofTable []
  | .customPrecondition => ["className"]

end Changelog
