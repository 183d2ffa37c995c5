import Changelog.Document.Change

namespace Changelog

def inSchema (rest : List String) : List String := "catalogName" :: "schemaName" :: rest

def ofTable (rest : List String) : List String := inSchema ("tableName" :: rest)

namespace ChangeKind

def attributes : ChangeKind → List String
  | .addAutoIncrement =>
    ofTable ["columnName", "columnDataType", "startWith", "incrementBy", "defaultOnNull",
             "generationType"]
  | .addColumn => ofTable ["dbms"]
  | .addDefaultValue =>
    ofTable ["columnName", "columnDataType", "defaultValue", "defaultValueNumeric",
             "defaultValueDate", "defaultValueBoolean", "defaultValueComputed",
             "defaultValueSequenceNext", "defaultValueConstraintName"]
  | .addForeignKeyConstraint =>
    ["baseTableCatalogName", "baseTableSchemaName", "baseTableName", "baseColumnNames",
     "constraintName", "referencedTableCatalogName", "referencedTableSchemaName",
     "referencedTableName", "referencedColumnNames", "deferrable", "initiallyDeferred", "onUpdate",
     "onDelete", "deleteCascade", "validate"]
  | .addLookupTable =>
    ["existingTableCatalogName", "existingTableSchemaName", "existingTableName",
     "existingColumnName", "newTableCatalogName", "newTableSchemaName", "newTableName",
     "newColumnName", "newColumnDataType", "constraintName"]
  | .addNotNullConstraint =>
    ofTable ["columnName", "defaultNullValue", "columnDataType", "constraintName", "validate"]
  | .addPrimaryKey =>
    ofTable ["columnNames", "constraintName", "tablespace", "clustered", "forIndexCatalogName",
             "forIndexSchemaName", "forIndexName", "validate"]
  | .addUniqueConstraint =>
    ofTable ["columnNames", "constraintName", "tablespace", "deferrable", "initiallyDeferred",
             "disabled", "clustered", "forIndexCatalogName", "forIndexSchemaName", "forIndexName",
             "validate"]
  | .alterSequence =>
    inSchema ["sequenceName", "incrementBy", "maxValue", "minValue", "ordered", "cacheSize",
              "cycle", "dataType"]
  | .createIndex => ofTable ["indexName", "unique", "tablespace", "clustered"]
  | .createProcedure =>
    inSchema ["procedureName", "path", "relativeToChangelogFile", "encoding", "dbms", "comments",
              "replaceIfExists"]
  | .createSequence =>
    inSchema ["sequenceName", "startValue", "incrementBy", "maxValue", "minValue", "ordered",
              "cacheSize", "cycle", "dataType"]
  | .createTable => ofTable ["tablespace", "remarks"]
  | .createView =>
    inSchema ["viewName", "replaceIfExists", "fullDefinition", "path", "relativeToChangelogFile",
              "encoding", "remarks"]
  | .customChange => ["class"]
  | .delete => ofTable ["dbms"]
  | .dropAllForeignKeyConstraints =>
    ["baseTableCatalogName", "baseTableSchemaName", "baseTableName"]
  | .dropColumn => ofTable ["columnName"]
  | .dropDefaultValue => ofTable ["columnName", "columnDataType"]
  | .dropForeignKeyConstraint =>
    ["baseTableCatalogName", "baseTableSchemaName", "baseTableName", "constraintName"]
  | .dropIndex => ofTable ["indexName"]
  | .dropNotNullConstraint => ofTable ["columnName", "columnDataType", "constraintName"]
  | .dropPrimaryKey => ofTable ["constraintName", "dropIndex"]
  | .dropProcedure => inSchema ["procedureName"]
  | .dropSequence => inSchema ["sequenceName"]
  | .dropTable => ofTable ["cascadeConstraints"]
  | .dropUniqueConstraint => ofTable ["constraintName", "uniqueColumns"]
  | .dropView => inSchema ["viewName", "ifExists"]
  | .empty => []
  | .executeCommand => ["executable", "os", "timeout"]
  | .insert => ofTable ["dbms"]
  | .loadData =>
    ofTable ["file", "relativeToChangelogFile", "encoding", "separator", "quotchar",
             "commentLineStartsWith", "usePreparedStatements"]
  | .loadUpdateData =>
    ofTable ["file", "relativeToChangelogFile", "encoding", "separator", "quotchar",
             "commentLineStartsWith", "usePreparedStatements", "primaryKey", "onlyUpdate"]
  | .mergeColumns =>
    ofTable ["column1Name", "joinString", "column2Name", "finalColumnName", "finalColumnType"]
  | .modifyDataType => ofTable ["columnName", "newDataType"]
  | .output => ["target", "message"]
  | .renameColumn => ofTable ["oldColumnName", "newColumnName", "columnDataType", "remarks"]
  | .renameSequence => inSchema ["oldSequenceName", "newSequenceName"]
  | .renameTable => inSchema ["oldTableName", "newTableName"]
  | .renameView => inSchema ["oldViewName", "newViewName"]
  | .setColumnRemarks => ofTable ["columnName", "remarks", "columnDataType"]
  | .setTableRemarks => ofTable ["remarks"]
  | .sql => ["dbms", "splitStatements", "stripComments", "endDelimiter"]
  | .sqlFile =>
    ["dbms", "path", "relativeToChangelogFile", "encoding", "splitStatements", "stripComments",
     "endDelimiter"]
  | .stop => ["message"]
  | .tagDatabase => ["tag"]
  | .update => ofTable ["dbms"]

def takesText : ChangeKind → Bool
  | .sql | .createProcedure | .createView | .stop | .output => true
  | _ => false

def takesColumns : ChangeKind → Bool
  | .createTable | .addColumn | .createIndex | .dropColumn | .insert | .update | .loadData
  | .loadUpdateData => true
  | _ => false

def takesCondition : ChangeKind → Bool
  | .update | .delete => true
  | _ => false

end ChangeKind

inductive ChangePart
  | column
  | condition
  | comment
  | parameter
  | argument
deriving DecidableEq, Repr

namespace ChangePart

def name : ChangePart → String
  | .column => "column"
  | .condition => "where"
  | .comment => "comment"
  | .parameter => "param"
  | .argument => "arg"

instance : Named ChangePart := ⟨[.column, .condition, .comment, .parameter, .argument], name⟩

def fits (kind : ChangeKind) : ChangePart → Bool
  | .column => kind.takesColumns
  | .condition => kind.takesCondition
  | .comment => kind == .sql
  | .parameter => kind == .customChange
  | .argument => kind == .executeCommand

end ChangePart

namespace ChangeKind

def part? (kind : ChangeKind) (name : String) : Option ChangePart :=
  (Named.ofName? (α := ChangePart) name).filter (·.fits kind)

end ChangeKind

def columnAttributes : List String :=
  ["name", "computed", "type", "value", "valueNumeric", "valueBoolean", "valueDate",
   "valueComputed", "valueSequenceNext", "valueSequenceCurrent", "valueBlobFile", "valueClobFile",
   "encoding", "defaultValue", "defaultValueNumeric", "defaultValueBoolean", "defaultValueDate",
   "defaultValueComputed", "defaultValueSequenceNext", "defaultValueConstraintName",
   "autoIncrement", "startWith", "incrementBy", "generationType", "defaultOnNull", "remarks",
   "descending", "position", "afterColumn", "beforeColumn"]

/-- The attributes of a column of loaded data, which may also name its place in the file. -/
def loadDataColumnAttributes : List String :=
  ["name", "type", "header", "index", "defaultValue", "defaultValueNumeric", "defaultValueBoolean",
   "defaultValueDate", "defaultValueComputed", "allowUpdate"]

def ChangeKind.columnAttributes : ChangeKind → List String
  | .loadData | .loadUpdateData => loadDataColumnAttributes
  | _ => Changelog.columnAttributes

def constraintAttributes : List String :=
  ["nullable", "notNullConstraintName", "primaryKey", "primaryKeyName", "primaryKeyTablespace",
   "unique", "uniqueConstraintName", "references", "referencedTableCatalogName",
   "referencedTableSchemaName", "referencedTableName", "referencedColumnNames", "foreignKeyName",
   "deleteCascade", "deferrable", "initiallyDeferred", "checkConstraint", "validateNullable",
   "validateUnique", "validatePrimaryKey", "validateForeignKey"]

def parameterAttributes : List String := ["name", "value"]

def argumentAttributes : List String := ["value"]

end Changelog
