import Changelog.Build.Change
import Changelog.Document.Precondition
import Changelog.Schema.Precondition

namespace Changelog.Build

def query (site : Site) (kind : CheckKind) (e : Element) : Except ChangelogError (Option String) :=
  if kind = .sqlCheck then
    match (e.args : List Value) with
    | [value] =>
      match value.text? with
      | some text => .ok (some (site.expander.text text))
      | none => .error (.invalidValue .missingQuery site.context)
    | _ => .error (.invalidValue .missingQuery site.context)
  else (rejectPositional e.name e.args site.context).map fun _ => none

def addCheckPart (site : Site) (check : Check) (e : Element) : Except ChangelogError Check :=
  if check.kind = .customPrecondition ∧ e.name = "param" then do
    let p ← parameter site e
    return { check with params := check.params ++ [p] }
  else .error (.invalidElement e.name check.kind.name site.context)

def check (site : Site) (kind : CheckKind) (e : Element) : Except ChangelogError Check := do
  checkAttributes kind.name e.attributes kind.attributes site.context
  let sql ← query site kind e
  e.children.foldlM (addCheckPart site) ⟨kind, site.expander.attributes e.attributes, sql, []⟩

mutual

def precondition (site : Site) (parent : String) : Element → Except ChangelogError Precondition
  | ⟨name, attributes, args, children, line⟩ =>
    match Named.ofName? (α := Combinator) name with
    | some how => do
      checkAttributes name attributes [] site.context
      rejectPositional name args site.context
      let nested ← preconditions site name children
      return .combination how nested
    | none =>
      match Named.ofName? (α := CheckKind) name with
      | some kind => (check site kind ⟨name, attributes, args, children, line⟩).map .check
      | none => .error (.invalidElement name parent site.context)

def preconditions (site : Site) (parent : String) :
    List Element → Except ChangelogError (List Precondition)
  | [] => .ok []
  | e :: rest => do
    let p ← precondition site parent e
    let ps ← preconditions site parent rest
    return p :: ps

end

def container (site : Site) (e : Element) : Except ChangelogError Preconditions := do
  checkAttributes "preConditions" e.attributes preconditionsAttributes site.context
  rejectPositional e.name e.args site.context
  let attributes := site.expander.attributes e.attributes
  let onFail ← optionalChoice FailOption attributes "onFail" site.context
  let onError ← optionalChoice FailOption attributes "onError" site.context
  let onSqlOutput ← optionalChoice SqlOutputOption attributes "onUpdateSQL" site.context
  let nested ← preconditions site e.name e.children
  return {
    onFail := onFail
    onError := onError
    onSqlOutput := onSqlOutput
    onFailMessage := textOf? attributes "onFailMessage"
    onErrorMessage := textOf? attributes "onErrorMessage"
    nested := nested }

end Changelog.Build
