import Changelog.Document.Change
import Changelog.Document.Options

/-!
# Preconditions

A precondition is a check or a combination of preconditions.  A container holds preconditions that all
have to hold, and says what happens when they do not.
-/

namespace Changelog

inductive CheckKind
  | dbms
  | runningAs
  | changeSetExecuted
  | columnExists
  | tableExists
  | viewExists
  | foreignKeyConstraintExists
  | indexExists
  | sequenceExists
  | primaryKeyExists
  | sqlCheck
  | changeLogPropertyDefined
  | expectedQuotingStrategy
  | rowCount
  | tableIsEmpty
  | customPrecondition
deriving DecidableEq, Repr

namespace CheckKind

def all : List CheckKind :=
  [.dbms, .runningAs, .changeSetExecuted, .columnExists, .tableExists, .viewExists,
   .foreignKeyConstraintExists, .indexExists, .sequenceExists, .primaryKeyExists, .sqlCheck,
   .changeLogPropertyDefined, .expectedQuotingStrategy, .rowCount, .tableIsEmpty,
   .customPrecondition]

def name : CheckKind → String
  | .dbms => "dbms"
  | .runningAs => "runningAs"
  | .changeSetExecuted => "changeSetExecuted"
  | .columnExists => "columnExists"
  | .tableExists => "tableExists"
  | .viewExists => "viewExists"
  | .foreignKeyConstraintExists => "foreignKeyConstraintExists"
  | .indexExists => "indexExists"
  | .sequenceExists => "sequenceExists"
  | .primaryKeyExists => "primaryKeyExists"
  | .sqlCheck => "sqlCheck"
  | .changeLogPropertyDefined => "changeLogPropertyDefined"
  | .expectedQuotingStrategy => "expectedQuotingStrategy"
  | .rowCount => "rowCount"
  | .tableIsEmpty => "tableIsEmpty"
  | .customPrecondition => "customPrecondition"

instance : Named CheckKind := ⟨all, name⟩

theorem mem_all (kind : CheckKind) : kind ∈ all := by
  cases kind <;> decide

end CheckKind

structure Check where
  kind : CheckKind
  attributes : Attributes
  sql : Option String
  params : List Parameter

inductive Combinator
  | and
  | or
  | not
deriving DecidableEq, Repr

namespace Combinator

def name : Combinator → String
  | .and => "and"
  | .or => "or"
  | .not => "not"

instance : Named Combinator := ⟨[.and, .or, .not], name⟩

end Combinator

inductive Precondition
  | combination (how : Combinator) (nested : List Precondition)
  | check (c : Check)

namespace Precondition

def nested : Precondition → List Precondition
  | .combination _ nested => nested
  | .check _ => []

def name : Precondition → String
  | .combination how _ => how.name
  | .check c => c.kind.name

end Precondition

/-- Preconditions that all have to hold, and what happens otherwise. -/
structure Preconditions where
  onFail : Option FailOption
  onError : Option FailOption
  onSqlOutput : Option SqlOutputOption
  onFailMessage : Option String
  onErrorMessage : Option String
  nested : List Precondition

def Preconditions.ofNested (nested : List Precondition) : Preconditions where
  onFail := none
  onError := none
  onSqlOutput := none
  onFailMessage := none
  onErrorMessage := none
  nested := nested

end Changelog
