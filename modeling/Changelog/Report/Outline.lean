import Changelog.Document.ChangeSet
import Changelog.Text.Blank

/-!
# The outline of a document

One line for each thing a reader looks for: the document, its change sets with what sets them apart, and
their changes.  An empty line stands before each change set.
-/

namespace Changelog.Outline

def attributeText (entry : String × Value) : String := " " ++ entry.1 ++ "=" ++ entry.2.display

/-- A text with every run of white space shown as one space. -/
def collapse (text : String) : String :=
  String.ofList ([' '].intercalate (Text.words text.toList))

def columnCount (columns : List Column) : String :=
  if columns.isEmpty then "" else " [" ++ toString columns.length ++ " column(s)]"

def changeLine (change : Change) : String :=
  change.kind.name ++ String.join (change.attributes.entries.map attributeText) ++
    columnCount change.columns ++
    (match change.text with
      | some text => ": " ++ collapse text
      | none => "")

/-- What sets a change set apart, in a fixed order. -/
def flags (changeSet : ChangeSet) : List String :=
  (if changeSet.runAlways then ["runAlways"] else []) ++
  (if changeSet.runOnChange then ["runOnChange"] else []) ++
  (if changeSet.runInTransaction then [] else ["runInTransaction=false"]) ++
  (match changeSet.context with
    | some context => ["context=" ++ context]
    | none => []) ++
  (if changeSet.labels.isEmpty then [] else ["labels=" ++ ",".intercalate changeSet.labels]) ++
  (if changeSet.dbms.isEmpty then [] else ["dbms=" ++ ",".intercalate changeSet.dbms])

def heading (changeSet : ChangeSet) : String :=
  "changeSet " ++ changeSet.id ++ " by " ++ changeSet.author ++ " (" ++ changeSet.filePath ++ ")" ++
    (if (flags changeSet).isEmpty then "" else " [" ++ " ".intercalate (flags changeSet) ++ "]")

def preconditionsLine (preconditions : Preconditions) : String :=
  "  preConditions: " ++ toString preconditions.nested.length ++ " check(s)"

def changeSetLines (changeSet : ChangeSet) : List String :=
  heading changeSet ::
    (changeSet.comments.toList.map fun comment => "  -- " ++ comment) ++
    changeSet.preconditions.toList.map preconditionsLine ++
    (changeSet.changes.map fun change => "  " ++ changeLine change) ++
    changeSet.rollback.map fun change => "  rollback " ++ changeLine change

def documentLines (document : Document) : List String :=
  ("databaseChangeLog " ++ document.physicalPath) ::
    (if document.logicalPath = document.physicalPath then []
      else ["  logicalFilePath " ++ document.logicalPath]) ++
    document.preconditions.toList.map preconditionsLine ++
    (if document.properties.isEmpty then []
      else ["  properties: " ++ toString document.properties.length])

def lines (document : Document) : List String :=
  documentLines document ++ document.changeSets.flatMap fun c => "" :: changeSetLines c

/-- The outline of a document; every line ends in a line feed. -/
def text (document : Document) : String := String.join ((lines document).map (· ++ "\n"))

end Changelog.Outline
