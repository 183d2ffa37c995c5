import Changelog.Document.Change
import Changelog.Document.Options
import Changelog.Document.Precondition
import Changelog.Property.Binding

/-!
# Change sets and documents

A change set is a unit of migration work known by its id, author and path.  A document is the ordered
list of the change sets of a changelog and of all files it includes.
-/

namespace Changelog

inductive SqlEditKind
  | prepend
  | append
  | replace
  | replacePattern
deriving DecidableEq, Repr

namespace SqlEditKind

def name : SqlEditKind → String
  | .prepend => "prepend"
  | .append => "append"
  | .replace => "replace"
  | .replacePattern => "regExpReplace"

instance : Named SqlEditKind := ⟨[.prepend, .append, .replace, .replacePattern], name⟩

end SqlEditKind

inductive SqlEdit
  | prepend (value : String)
  | append (value : String)
  | replace (old new : String)
  | replacePattern (pattern new : String)

def SqlEdit.kind : SqlEdit → SqlEditKind
  | .prepend _ => .prepend
  | .append _ => .append
  | .replace _ _ => .replace
  | .replacePattern _ _ => .replacePattern

structure SqlAdjustment where
  edit : SqlEdit
  dbms : List String
  context : Option String
  labels : List String
  applyToRollback : Bool

structure ChangeSet where
  id : String
  author : String
  /-- The logical path of the document that declares it. -/
  filePath : String
  runAlways : Bool
  runOnChange : Bool
  context : Option String
  labels : List String
  dbms : List String
  runInTransaction : Bool
  failOnError : Option Bool
  onValidationFail : ValidationFailure
  quotingStrategy : Option QuotingStrategy
  comments : Option String
  validChecksums : List String
  preconditions : Option Preconditions
  changes : List Change
  rollback : List Change
  sqlAdjustments : List SqlAdjustment

structure Document where
  /-- The path recorded on change sets. -/
  logicalPath : String
  physicalPath : String
  quotingStrategy : Option QuotingStrategy
  preconditions : Option Preconditions
  /-- In the order they run. -/
  changeSets : List ChangeSet
  properties : List Binding

namespace Document

def ofPath (path : String) : Document where
  logicalPath := path
  physicalPath := path
  quotingStrategy := none
  preconditions := none
  changeSets := []
  properties := []

end Document

/-- Whether a change set has the given identity; a missing author fits any. -/
def ChangeSet.hasIdentity (changeSet : ChangeSet) (id : String) (author : Option String)
    (path : String) : Bool :=
  changeSet.id == id && changeSet.filePath == path && author.all (changeSet.author == ·)

def findChangeSet? (changeSets : List ChangeSet) (id : String) (author : Option String)
    (path : String) : Option ChangeSet :=
  changeSets.find? (·.hasIdentity id author path)

end Changelog
