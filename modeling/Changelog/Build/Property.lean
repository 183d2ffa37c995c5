import Changelog.Build.ChangeSet
import Changelog.Property.File
import Changelog.Resource.Accessor

namespace Changelog.Build

/-- The path that an element writes: as seen from its document if the element says so. -/
def placeOf (attributes : Attributes) (document written : String) : String :=
  if truthOf attributes "relativeToChangelogFile" false then Path.resolve document written
  else written

def bindingOf (attributes : Attributes) (document : String) (entry : String × String) : Binding where
  name := entry.1
  value := entry.2
  context := textOf? attributes "context"
  labels := textOf? attributes "labels"
  dbms := textOf? attributes "dbms"
  global := truthOf attributes "global" true
  sourceDocument := document

/-- The names and values that a property gives: those of its file, or else its own. -/
def propertyEntries (accessor : Accessor) (site : Site) (attributes : Attributes) :
    Except ChangelogError (List (String × String)) :=
  match textOf? attributes "file" with
  | some file =>
    let path := placeOf attributes site.expander.document file
    match accessor.read path with
    | .ok text => .ok (PropertyFile.read text)
    | .error cause => .error (.propertyFileUnreadable path cause)
  | none => do
    let name ← requiredText attributes "property" "name" site.context
    return [(name, (textOf? attributes "value").getD "")]

def propertyBindings (accessor : Accessor) (site : Site) (e : Element) :
    Except ChangelogError (List Binding) := do
  checkAttributes "property" e.attributes propertyAttributes site.context
  rejectPositional e.name e.args site.context
  let attributes := site.expander.attributes e.attributes
  let entries ← propertyEntries accessor site attributes
  return entries.map (bindingOf attributes site.expander.document)

end Changelog.Build
