import Changelog.Document.Choice
import Changelog.Value.Attributes

namespace Changelog

inductive ChangeKind
  | addAutoIncrement
  | addColumn
  | addDefaultValue
  | addForeignKeyConstraint
  | addLookupTable
  | addNotNullConstraint
  | addPrimaryKey
  | addUniqueConstraint
  | alterSequence
  | createIndex
  | createProcedure
  | createSequence
  | createTable
  | createView
  | customChange
  | delete
  | dropAllForeignKeyConstraints
  | dropColumn
  | dropDefaultValue
  | dropForeignKeyConstraint
  | dropIndex
  | dropNotNullConstraint
  | dropPrimaryKey
  | dropProcedure
  | dropSequence
  | dropTable
  | dropUniqueConstraint
  | dropView
  | empty
  | executeCommand
  | insert
  | loadData
  | loadUpdateData
  | mergeColumns
  | modifyDataType
  | output
  | renameColumn
  | renameSequence
  | renameTable
  | renameView
  | setColumnRemarks
  | setTableRemarks
  | sql
  | sqlFile
  | stop
  | tagDatabase
  | update
deriving DecidableEq, Repr

namespace ChangeKind

def all : List ChangeKind :=
  [.addAutoIncrement, .addColumn, .addDefaultValue, .addForeignKeyConstraint, .addLookupTable,
   .addNotNullConstraint, .addPrimaryKey, .addUniqueConstraint, .alterSequence, .createIndex,
   .createProcedure, .createSequence, .createTable, .createView, .customChange, .delete,
   .dropAllForeignKeyConstraints, .dropColumn, .dropDefaultValue, .dropForeignKeyConstraint,
   .dropIndex, .dropNotNullConstraint, .dropPrimaryKey, .dropProcedure, .dropSequence, .dropTable,
   .dropUniqueConstraint, .dropView, .empty, .executeCommand, .insert, .loadData, .loadUpdateData,
   .mergeColumns, .modifyDataType, .output, .renameColumn, .renameSequence, .renameTable,
   .renameView, .setColumnRemarks, .setTableRemarks, .sql, .sqlFile, .stop, .tagDatabase, .update]

def name : ChangeKind → String
  | .addAutoIncrement => "addAutoIncrement"
  | .addColumn => "addColumn"
  | .addDefaultValue => "addDefaultValue"
  | .addForeignKeyConstraint => "addForeignKeyConstraint"
  | .addLookupTable => "addLookupTable"
  | .addNotNullConstraint => "addNotNullConstraint"
  | .addPrimaryKey => "addPrimaryKey"
  | .addUniqueConstraint => "addUniqueConstraint"
  | .alterSequence => "alterSequence"
  | .createIndex => "createIndex"
  | .createProcedure => "createProcedure"
  | .createSequence => "createSequence"
  | .createTable => "createTable"
  | .createView => "createView"
  | .customChange => "customChange"
  | .delete => "delete"
  | .dropAllForeignKeyConstraints => "dropAllForeignKeyConstraints"
  | .dropColumn => "dropColumn"
  | .dropDefaultValue => "dropDefaultValue"
  | .dropForeignKeyConstraint => "dropForeignKeyConstraint"
  | .dropIndex => "dropIndex"
  | .dropNotNullConstraint => "dropNotNullConstraint"
  | .dropPrimaryKey => "dropPrimaryKey"
  | .dropProcedure => "dropProcedure"
  | .dropSequence => "dropSequence"
  | .dropTable => "dropTable"
  | .dropUniqueConstraint => "dropUniqueConstraint"
  | .dropView => "dropView"
  | .empty => "empty"
  | .executeCommand => "executeCommand"
  | .insert => "insert"
  | .loadData => "loadData"
  | .loadUpdateData => "loadUpdateData"
  | .mergeColumns => "mergeColumns"
  | .modifyDataType => "modifyDataType"
  | .output => "output"
  | .renameColumn => "renameColumn"
  | .renameSequence => "renameSequence"
  | .renameTable => "renameTable"
  | .renameView => "renameView"
  | .setColumnRemarks => "setColumnRemarks"
  | .setTableRemarks => "setTableRemarks"
  | .sql => "sql"
  | .sqlFile => "sqlFile"
  | .stop => "stop"
  | .tagDatabase => "tagDatabase"
  | .update => "update"

instance : Named ChangeKind := ⟨all, name⟩

theorem mem_all (kind : ChangeKind) : kind ∈ all := by
  cases kind <;> decide

end ChangeKind

structure Parameter where
  name : String
  value : Option String

/-- A column, with all its constraints in one map if it has any. -/
structure Column where
  attributes : Attributes
  constraints : Option Attributes

structure Change where
  kind : ChangeKind
  attributes : Attributes
  /-- SQL, the body of a procedure, the query of a view, or a message. -/
  text : Option String
  comment : Option String
  columns : List Column
  condition : Option String
  params : List Parameter
  args : List String

namespace Change

def ofKind (kind : ChangeKind) (attributes : Attributes) : Change where
  kind := kind
  attributes := attributes
  text := none
  comment := none
  columns := []
  condition := none
  params := []
  args := []

def ofSql (sql : String) : Change := { ofKind .sql .empty with text := some sql }

def attribute? (change : Change) (key : String) : Option String :=
  (change.attributes.get? key).bind Value.string?

end Change

def Column.name? (column : Column) : Option String :=
  (column.attributes.get? "name").bind Value.string?

end Changelog
