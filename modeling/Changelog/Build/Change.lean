import Changelog.Build.Checks
import Changelog.Element
import Changelog.Property.Table
import Changelog.Schema.Change

/-!
# Building changes

An element with the name of a change is checked against the attributes of its kind, its texts are
expanded, and the elements inside become the parts that the kind may have.
-/

namespace Changelog.Build

/-- Where an element is built: what its texts are expanded with, and how errors name the place. -/
structure Site where
  expander : Expander
  context : String

def Site.oneText (site : Site) (e : Element) : ChangelogError :=
  .invalidValue (.oneText e.name) site.context

def bodyText (site : Site) (e : Element) : Except ChangelogError String := do
  checkAttributes e.name e.attributes [] site.context
  match e.args, e.children with
  | [value], [] =>
    match value.text? with
    | some text => .ok (site.expander.text text)
    | none => .error (site.oneText e)
  | _, _ => .error (site.oneText e)

/-- The value of a parameter: an attribute, or else the one positional value. -/
def parameterValue (site : Site) (e : Element) (written : Option String) :
    Except ChangelogError (Option String) :=
  match written, e.args with
  | some text, [] => .ok (some text)
  | none, [value] => .ok (value.text?.map site.expander.text)
  | none, [] => .ok none
  | _, _ => .error (site.oneText e)

def parameter (site : Site) (e : Element) : Except ChangelogError Parameter := do
  checkAttributes "param" e.attributes parameterAttributes site.context
  let attributes := site.expander.attributes e.attributes
  let name ← requiredText attributes "param" "name" site.context
  let value ← parameterValue site e (textOf? attributes "value")
  return ⟨name, value⟩

def commandArgument (site : Site) (e : Element) : Except ChangelogError String := do
  checkAttributes "arg" e.attributes argumentAttributes site.context
  rejectPositional e.name e.args site.context
  requiredText (site.expander.attributes e.attributes) "arg" "value" site.context

/-- The constraints of a column after one more element inside it: repeated ones are merged. -/
def addConstraints (site : Site) (constraints : Option Attributes) (e : Element) :
    Except ChangelogError (Option Attributes) := do
  if e.name ≠ "constraints" then
    .error (.invalidElement e.name "column" site.context)
  else
    checkAttributes "constraints" e.attributes constraintAttributes site.context
    rejectPositional e.name e.args site.context
    return some ((constraints.getD .empty).extend (site.expander.attributes e.attributes))

def column (site : Site) (kind : ChangeKind) (e : Element) : Except ChangelogError Column := do
  checkAttributes "column" e.attributes kind.columnAttributes site.context
  rejectPositional e.name e.args site.context
  let constraints ← e.children.foldlM (addConstraints site) none
  return ⟨site.expander.attributes e.attributes, constraints⟩

def addPart (site : Site) (change : Change) (e : Element) : Except ChangelogError Change :=
  match change.kind.part? e.name with
  | some .column => do
    let c ← column site change.kind e
    return { change with columns := change.columns ++ [c] }
  | some .condition => do
    let text ← bodyText site e
    return { change with condition := some text }
  | some .comment => do
    let text ← bodyText site e
    return { change with comment := some text }
  | some .parameter => do
    let p ← parameter site e
    return { change with params := change.params ++ [p] }
  | some .argument => do
    let text ← commandArgument site e
    return { change with args := change.args ++ [text] }
  | none => .error (.invalidElement e.name change.kind.name site.context)

def changeText (site : Site) (kind : ChangeKind) (e : Element) :
    Except ChangelogError (Option String) :=
  if kind.takesText then
    match e.args with
    | [] => .ok none
    | [.string text] => .ok (some (site.expander.text text))
    | _ => .error (site.oneText e)
  else (rejectPositional e.name e.args site.context).map fun _ => none

def change (site : Site) (kind : ChangeKind) (e : Element) : Except ChangelogError Change := do
  checkAttributes kind.name e.attributes kind.attributes site.context
  let text ← changeText site kind e
  let bare := Change.ofKind kind (site.expander.attributes e.attributes)
  e.children.foldlM (addPart site) { bare with text := text }

def changeOf (site : Site) (parent : String) (e : Element) : Except ChangelogError Change :=
  match Named.ofName? (α := ChangeKind) e.name with
  | some kind => change site kind e
  | none => .error (.invalidElement e.name parent site.context)

end Changelog.Build
