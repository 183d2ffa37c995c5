import Changelog.Build.ChangeSet
import Mathlib.Data.List.Forall2

/-!
# Elements that read the same

A builder sees the texts of an element only as they are expanded, and the line of an element not at all.
Two elements that read the same, each with its own bindings, therefore become the same change set or the
same preconditions, or they are refused for the same cause.
-/

namespace Changelog

def ChangelogError.inContext (context : String) : ChangelogError → ChangelogError
  | .unknownAttribute element key _ => .unknownAttribute element key context
  | .renamedAttribute element old replacement _ => .renamedAttribute element old replacement context
  | .invalidChoice key value valid _ => .invalidChoice key value valid context
  | .invalidElement element parent _ => .invalidElement element parent context
  | .missingAttribute element key _ => .missingAttribute element key context
  | .invalidValue fault _ => .invalidValue fault context
  | .unknownFilter name _ => .unknownFilter name context
  | .rollbackTargetNotFound id author path _ => .rollbackTargetNotFound id author path context
  | .nothingToInclude path missing => .nothingToInclude path missing
  | .propertyFileUnreadable path cause => .propertyFileUnreadable path cause
  | .malformedRoot path fault => .malformedRoot path fault
  | .malformedSource path error => .malformedSource path error
  | .unreadable path cause => .unreadable path cause
  | .circularInclude path chain => .circularInclude path chain

namespace Build

/-- Two values that give the same text, both of them strings or neither. -/
structure SameText (own other : Expander) (v w : Value) : Prop where
  text : v.text?.map own.text = w.text?.map other.text
  isString : v.string?.isSome = w.string?.isSome

/-- Two elements of one shape whose values are the same once they are expanded. -/
inductive SameReading (own other : Expander) : Element → Element → Prop
  | mk {name : String} {a b : Attributes} {args args' : List Value} {children children' : List Element}
      {line line' : Nat} (hattributes : own.attributes a = other.attributes b)
      (hargs : List.Forall₂ (SameText own other) args args')
      (hchildren : List.Forall₂ (SameReading own other) children children') :
      SameReading own other ⟨name, a, args, children, line⟩ ⟨name, b, args', children', line'⟩

namespace SameReading

variable {own other : Expander} {e e' : Element}

theorem name (h : SameReading own other e e') : e'.name = e.name := by
  cases h
  rfl

theorem attributes (h : SameReading own other e e') :
    other.attributes e'.attributes = own.attributes e.attributes := by
  cases h with
  | mk hattributes _ _ => exact hattributes.symm

theorem keys (h : SameReading own other e e') : e'.attributes.keys = e.attributes.keys := by
  have hkeys := congrArg Attributes.keys h.attributes
  rw [Expander.attributes, Expander.attributes, Attributes.keys_mapValues,
    Attributes.keys_mapValues] at hkeys
  exact hkeys

theorem args (h : SameReading own other e e') : List.Forall₂ (SameText own other) e.args e'.args := by
  cases h with
  | mk _ hargs _ => exact hargs

theorem children (h : SameReading own other e e') :
    List.Forall₂ (SameReading own other) e.children e'.children := by
  cases h with
  | mk _ _ hchildren => exact hchildren

end SameReading

theorem SameText.of_text? {own other : Expander} {v w : Value} {text : String}
    (h : SameText own other v w) (hv : v.text? = some text) :
    ∃ text', w.text? = some text' ∧ other.text text' = own.text text := by
  have htext := h.text
  rw [hv, Option.map_some] at htext
  exact Option.map_eq_some_iff.1 htext.symm

theorem SameText.of_no_text {own other : Expander} {v w : Value} (h : SameText own other v w)
    (hv : v.text? = none) : w.text? = none := by
  have htext := h.text
  rw [hv, Option.map_none] at htext
  exact Option.map_eq_none_iff.1 htext.symm

theorem SameText.of_string {own other : Expander} {text : String} {w : Value}
    (h : SameText own other (.string text) w) :
    ∃ text', w = .string text' ∧ other.text text' = own.text text := by
  have hstring : w.string?.isSome = true := h.isString.symm
  obtain ⟨text', hw⟩ := Option.isSome_iff_exists.1 hstring
  obtain rfl := Value.string?_eq_some hw
  exact ⟨text', rfl, (Option.some.inj h.text).symm⟩

def NoText (args : List Value) : Prop := args ≠ [] ∧ ∀ text, args ≠ [.string text]

theorem textArgs_cases {own other : Expander} {args args' : List Value}
    (hargs : List.Forall₂ (SameText own other) args args') :
    (args = [] ∧ args' = []) ∨
    (∃ text text', args = [.string text] ∧ args' = [.string text'] ∧
      other.text text' = own.text text) ∨
    (NoText args ∧ NoText args') := by
  cases hargs with
  | nil => exact .inl ⟨rfl, rfl⟩
  | @cons v w rest rest' hvalue hrest =>
    cases hrest with
    | cons _ _ => exact .inr (.inr ⟨⟨by simp, by simp⟩, by simp, by simp⟩)
    | nil =>
      cases hv : v.string? with
      | some text =>
        obtain rfl := Value.string?_eq_some hv
        obtain ⟨text', rfl, htext⟩ := hvalue.of_string
        exact .inr (.inl ⟨text, text', rfl, rfl, htext⟩)
      | none =>
        have hw : w.string? = none := by
          have hstring := hvalue.isString
          rw [hv, Option.isSome_none] at hstring
          exact Option.isNone_iff_eq_none.1 (Option.isSome_eq_false_iff.1 hstring.symm)
        refine .inr (.inr ⟨⟨by simp, ?_⟩, by simp, ?_⟩)
        · rintro text ⟨⟩
          nomatch hv
        · rintro text ⟨⟩
          nomatch hw

/-! ### Results -/

/-- The second result is the first, but that an error has another context. -/
def Follows (context : String) {α : Type} (x y : Except ChangelogError α) : Prop :=
  y = x.mapError (ChangelogError.inContext context)

namespace Follows

variable {context : String} {α β : Type}

theorem bind {x y : Except ChangelogError α} {k k' : α → Except ChangelogError β}
    (h : Follows context x y) (hk : ∀ a, Follows context (k a) (k' a)) :
    Follows context (x >>= k) (y >>= k') := by
  obtain rfl := h
  cases x with
  | error c => rfl
  | ok a => exact hk a

theorem map {x y : Except ChangelogError α} (f : α → β) (h : Follows context x y) :
    Follows context (x.map f) (y.map f) := by
  obtain rfl := h
  cases x <;> rfl

theorem foldlM {R : Element → Element → Prop} {elements elements' : List Element}
    (h : List.Forall₂ R elements elements') {step step' : α → Element → Except ChangelogError α}
    (hstep : ∀ s e e', R e e' → Follows context (step s e) (step' s e')) (s : α) :
    Follows context (elements.foldlM step s) (elements'.foldlM step' s) := by
  induction h generalizing s with
  | nil => rfl
  | cons hhead _ ih =>
    rw [List.foldlM_cons, List.foldlM_cons]
    exact (hstep s _ _ hhead).bind ih

theorem mapM {R : Element → Element → Prop} {elements elements' : List Element}
    (h : List.Forall₂ R elements elements') {item item' : Element → Except ChangelogError α}
    (hitem : ∀ e e', R e e' → Follows context (item e) (item' e')) :
    Follows context (elements.mapM item) (elements'.mapM item') := by
  induction h with
  | nil => rfl
  | cons hhead _ ih =>
    rw [List.mapM_cons, List.mapM_cons]
    exact (hitem _ _ hhead).bind fun _ => ih.bind fun _ => rfl

end Follows

section Checks

variable {a b : Attributes} (context context' : String)

theorem checkAttributes_follows (hkeys : b.keys = a.keys) (element : String) (allowed : List String) :
    Follows context' (checkAttributes element a allowed context)
      (checkAttributes element b allowed context') := by
  unfold checkAttributes
  rw [hkeys]
  cases a.keys.find? fun key => !allowed.contains key <;> rfl

theorem rejectRenamed_follows (hkeys : b.keys = a.keys) (element old replacement : String) :
    Follows context' (rejectRenamed element a old replacement context)
      (rejectRenamed element b old replacement context') := by
  unfold rejectRenamed Attributes.contains
  rw [hkeys]
  split <;> rfl

theorem rejectPositional_follows {R : Value → Value → Prop} {args args' : List Value}
    (hargs : List.Forall₂ R args args') (element : String) :
    Follows context' (rejectPositional element args context)
      (rejectPositional element args' context') := by
  cases hargs <;> rfl

theorem requiredText_follows (a : Attributes) (element key : String) :
    Follows context' (requiredText a element key context) (requiredText a element key context') := by
  unfold requiredText
  cases textOf? a key <;> rfl

theorem optionalChoice_follows (α : Type) [Named α] (a : Attributes) (key : String) :
    Follows context' (optionalChoice α a key context) (optionalChoice α a key context') := by
  unfold optionalChoice
  split
  · rfl
  · rfl
  · next value _ _ =>
    refine Follows.map _ ?_
    unfold choice
    cases Named.ofName? (α := α) value.display <;> rfl

end Checks

section Builders

variable {site site' : Site} {e e' : Element}

/-! ### Changes -/

theorem bodyText_follows (h : SameReading site.expander site'.expander e e') :
    Follows site'.context (bodyText site e) (bodyText site' e') := by
  obtain @⟨name, a, b, args, args', children, children', _, _, hattributes, hargs, hchildren⟩ := h
  refine (checkAttributes_follows _ _ (SameReading.mk hattributes hargs hchildren).keys _ _).bind
    fun _ => ?_
  cases hargs with
  | nil => rfl
  | @cons v w rest rest' hvalue hrest =>
    cases hrest with
    | cons _ _ => rfl
    | nil =>
      cases hchildren with
      | cons _ _ => rfl
      | nil =>
        dsimp only
        cases hv : v.text? with
        | none =>
          rw [hvalue.of_no_text hv]
          rfl
        | some text =>
          obtain ⟨text', hw, htext⟩ := hvalue.of_text? hv
          rw [hw]
          exact congrArg Except.ok htext

theorem parameterValue_follows (h : SameReading site.expander site'.expander e e')
    (written : Option String) :
    Follows site'.context (parameterValue site e written) (parameterValue site' e' written) := by
  obtain @⟨name, a, b, args, args', children, children', _, _, _, hargs, _⟩ := h
  cases hargs with
  | nil => cases written <;> rfl
  | cons hvalue hrest =>
    cases written with
    | some text => rfl
    | none =>
      cases hrest with
      | nil => exact congrArg Except.ok hvalue.text.symm
      | cons _ _ => rfl

theorem parameter_follows (h : SameReading site.expander site'.expander e e') :
    Follows site'.context (parameter site e) (parameter site' e') := by
  refine (checkAttributes_follows _ _ h.keys _ _).bind fun _ => ?_
  rw [h.attributes]
  refine (requiredText_follows _ _ _ _ _).bind fun name => ?_
  exact (parameterValue_follows h _).bind fun _ => rfl

theorem commandArgument_follows (h : SameReading site.expander site'.expander e e') :
    Follows site'.context (commandArgument site e) (commandArgument site' e') := by
  refine (checkAttributes_follows _ _ h.keys _ _).bind fun _ => ?_
  rw [h.attributes, h.name]
  refine (rejectPositional_follows _ _ h.args _).bind fun _ => ?_
  exact requiredText_follows _ _ _ _ _

theorem addConstraints_follows (h : SameReading site.expander site'.expander e e')
    (held : Option Attributes) :
    Follows site'.context (addConstraints site held e) (addConstraints site' held e') := by
  unfold addConstraints
  rw [h.attributes, h.name]
  split
  · rfl
  · refine (checkAttributes_follows _ _ h.keys _ _).bind fun _ => ?_
    exact (rejectPositional_follows _ _ h.args _).bind fun _ => rfl

theorem column_follows (h : SameReading site.expander site'.expander e e') (kind : ChangeKind) :
    Follows site'.context (column site kind e) (column site' kind e') := by
  refine (checkAttributes_follows _ _ h.keys _ _).bind fun _ => ?_
  rw [h.attributes, h.name]
  refine (rejectPositional_follows _ _ h.args _).bind fun _ => ?_
  have hsteps := Follows.foldlM h.children (fun held _ _ hchild => addConstraints_follows hchild held) none
  exact hsteps.bind fun _ => rfl

theorem addPart_follows (h : SameReading site.expander site'.expander e e') (c : Change) :
    Follows site'.context (addPart site c e) (addPart site' c e') := by
  unfold addPart
  rw [h.name]
  cases c.kind.part? e.name with
  | none => rfl
  | some part =>
    cases part with
    | column => exact (column_follows h _).bind fun _ => rfl
    | condition => exact (bodyText_follows h).bind fun _ => rfl
    | comment => exact (bodyText_follows h).bind fun _ => rfl
    | parameter => exact (parameter_follows h).bind fun _ => rfl
    | argument => exact (commandArgument_follows h).bind fun _ => rfl

theorem changeText_of_noText {kind : ChangeKind} (hkind : kind.takesText = true) (h : NoText e.args) :
    changeText site kind e = .error (site.oneText e) := by
  unfold changeText
  rw [if_pos hkind]
  split
  · next hargs => exact absurd hargs h.1
  · next text hargs => exact absurd hargs (h.2 text)
  · rfl

theorem changeText_follows (h : SameReading site.expander site'.expander e e') (kind : ChangeKind) :
    Follows site'.context (changeText site kind e) (changeText site' kind e') := by
  by_cases hkind : kind.takesText = true
  · obtain ⟨hargs, hargs'⟩ | ⟨text, text', hargs, hargs', htext⟩ | ⟨hargs, hargs'⟩ := textArgs_cases h.args
    · unfold changeText
      rw [if_pos hkind, if_pos hkind, hargs, hargs']
      rfl
    · unfold changeText
      rw [if_pos hkind, if_pos hkind, hargs, hargs']
      exact congrArg (fun t => Except.ok (some t)) htext
    · rw [changeText_of_noText hkind hargs, changeText_of_noText hkind hargs', Site.oneText,
        Site.oneText, h.name]
      rfl
  · unfold changeText
    rw [if_neg hkind, if_neg hkind, h.name]
    exact (rejectPositional_follows _ _ h.args _).map _

theorem change_follows (h : SameReading site.expander site'.expander e e') (kind : ChangeKind) :
    Follows site'.context (change site kind e) (change site' kind e') := by
  refine (checkAttributes_follows _ _ h.keys _ _).bind fun _ => ?_
  rw [h.attributes]
  refine (changeText_follows h kind).bind fun text => ?_
  exact Follows.foldlM h.children (fun c _ _ hchild => addPart_follows hchild c) _

theorem changeOf_follows (h : SameReading site.expander site'.expander e e') (parent : String) :
    Follows site'.context (changeOf site parent e) (changeOf site' parent e') := by
  unfold changeOf
  rw [h.name]
  cases Named.ofName? (α := ChangeKind) e.name with
  | none => rfl
  | some kind => exact change_follows h kind

/-! ### Preconditions -/

theorem query_follows (h : SameReading site.expander site'.expander e e') (kind : CheckKind) :
    Follows site'.context (query site kind e) (query site' kind e') := by
  unfold query
  rw [h.name]
  split
  · obtain @⟨name, a, b, args, args', children, children', _, _, _, hargs, _⟩ := h
    cases hargs with
    | nil => rfl
    | @cons v w rest rest' hvalue hrest =>
      cases hrest with
      | cons _ _ => rfl
      | nil =>
        dsimp only
        cases hv : v.text? with
        | none =>
          rw [hvalue.of_no_text hv]
          rfl
        | some text =>
          obtain ⟨text', hw, htext⟩ := hvalue.of_text? hv
          rw [hw]
          exact congrArg (fun t => Except.ok (some t)) htext
  · exact (rejectPositional_follows _ _ h.args _).map _

theorem addCheckPart_follows (h : SameReading site.expander site'.expander e e') (c : Check) :
    Follows site'.context (addCheckPart site c e) (addCheckPart site' c e') := by
  unfold addCheckPart
  rw [h.name]
  split
  · exact (parameter_follows h).bind fun _ => rfl
  · rfl

theorem check_follows (h : SameReading site.expander site'.expander e e') (kind : CheckKind) :
    Follows site'.context (check site kind e) (check site' kind e') := by
  refine (checkAttributes_follows _ _ h.keys _ _).bind fun _ => ?_
  rw [h.attributes]
  refine (query_follows h kind).bind fun sql => ?_
  exact Follows.foldlM h.children (fun c _ _ hchild => addCheckPart_follows hchild c) _

mutual

theorem precondition_follows {parent : String} (e e' : Element)
    (h : SameReading site.expander site'.expander e e') :
    Follows site'.context (precondition site parent e) (precondition site' parent e') := by
  obtain ⟨name, a, args, children, line⟩ := e
  obtain ⟨name', b, args', children', line'⟩ := e'
  obtain rfl : name' = name := h.name
  rw [precondition, precondition]
  cases Named.ofName? (α := Combinator) name' with
  | some how =>
    refine (checkAttributes_follows _ _ h.keys _ _).bind fun _ => ?_
    refine (rejectPositional_follows _ _ h.args _).bind fun _ => ?_
    exact (preconditions_follows children children' h.children).bind fun _ => rfl
  | none =>
    cases Named.ofName? (α := CheckKind) name' with
    | some kind => exact (check_follows h kind).map _
    | none => rfl

theorem preconditions_follows {parent : String} (elements elements' : List Element)
    (h : List.Forall₂ (SameReading site.expander site'.expander) elements elements') :
    Follows site'.context (preconditions site parent elements) (preconditions site' parent elements') := by
  cases elements with
  | nil =>
    cases h
    rfl
  | cons e rest =>
    cases h with
    | @cons _ e' _ rest' hhead htail =>
      rw [preconditions, preconditions]
      refine (precondition_follows e e' hhead).bind fun p => ?_
      exact (preconditions_follows rest rest' htail).bind fun _ => rfl

end

theorem container_follows (h : SameReading site.expander site'.expander e e') :
    Follows site'.context (container site e) (container site' e') := by
  refine (checkAttributes_follows _ _ h.keys _ _).bind fun _ => ?_
  rw [h.attributes, h.name]
  refine (rejectPositional_follows _ _ h.args _).bind fun _ => ?_
  refine (optionalChoice_follows _ _ _ _ _).bind fun onFail => ?_
  refine (optionalChoice_follows _ _ _ _ _).bind fun onError => ?_
  refine (optionalChoice_follows _ _ _ _ _).bind fun onSqlOutput => ?_
  exact (preconditions_follows e.children e'.children h.children).bind fun _ => rfl

/-! ### Rollbacks and adjustments of SQL -/

theorem rollbackText_of_noText (h : NoText e.args) :
    rollbackText site e = .error (.invalidValue .rollbackText site.context) := by
  unfold rollbackText
  split
  · next hargs => exact absurd hargs h.1
  · next text hargs => exact absurd hargs (h.2 text)
  · rfl

theorem rollbackText_follows (h : SameReading site.expander site'.expander e e') :
    Follows site'.context (rollbackText site e) (rollbackText site' e') := by
  obtain ⟨hargs, hargs'⟩ | ⟨text, text', hargs, hargs', htext⟩ | ⟨hargs, hargs'⟩ := textArgs_cases h.args
  · unfold rollbackText
    rw [hargs, hargs']
    rfl
  · unfold rollbackText
    rw [hargs, hargs']
    exact congrArg (fun t => Except.ok [Change.ofSql t]) htext
  · rw [rollbackText_of_noText hargs, rollbackText_of_noText hargs']
    rfl

theorem referencedChanges_follows (document : Document) (a : Attributes) :
    Follows site'.context (referencedChanges site document a) (referencedChanges site' document a) := by
  unfold referencedChanges
  cases textOf? a "changeSetId" with
  | none => rfl
  | some id =>
    dsimp only
    cases findChangeSet? document.changeSets id (textOf? a "changeSetAuthor")
      ((textOf? a "changeSetPath").getD document.logicalPath) <;> rfl

theorem rollback_follows (h : SameReading site.expander site'.expander e e') (document : Document) :
    Follows site'.context (rollback site document e) (rollback site' document e') := by
  refine (checkAttributes_follows _ _ h.keys _ _).bind fun _ => ?_
  rw [h.attributes]
  refine (rollbackText_follows h).bind fun written => ?_
  refine (referencedChanges_follows document _).bind fun reused => ?_
  have hinside := Follows.mapM h.children fun _ _ hchild => changeOf_follows hchild "rollback"
  exact hinside.bind fun _ => rfl

theorem sqlEditOf_follows (a : Attributes) (kind : SqlEditKind) :
    Follows site'.context (sqlEditOf site a kind) (sqlEditOf site' a kind) := by
  cases kind with
  | prepend => exact (requiredText_follows _ _ _ _ _).map _
  | append => exact (requiredText_follows _ _ _ _ _).map _
  | replace => exact (requiredText_follows _ _ _ _ _).bind fun _ => rfl
  | replacePattern =>
    refine (requiredText_follows _ _ _ _ _).bind fun pattern => ?_
    cases Pattern.read pattern <;> rfl

theorem sqlEdit_follows (h : SameReading site.expander site'.expander e e') :
    Follows site'.context (sqlEdit site e) (sqlEdit site' e') := by
  unfold sqlEdit
  rw [h.attributes, h.name]
  cases Named.ofName? (α := SqlEditKind) e.name with
  | none => rfl
  | some kind =>
    refine (checkAttributes_follows _ _ h.keys _ _).bind fun _ => ?_
    refine (rejectPositional_follows _ _ h.args _).bind fun _ => ?_
    exact sqlEditOf_follows _ kind

theorem sqlAdjustments_follows (h : SameReading site.expander site'.expander e e') :
    Follows site'.context (sqlAdjustments site e) (sqlAdjustments site' e') := by
  refine (checkAttributes_follows _ _ h.keys _ _).bind fun _ => ?_
  rw [h.attributes, h.name]
  refine (rejectPositional_follows _ _ h.args _).bind fun _ => ?_
  have hedits := Follows.mapM h.children fun _ _ hchild => sqlEdit_follows hchild
  exact hedits.bind fun _ => rfl

theorem addChangeSetPart_follows (h : SameReading site.expander site'.expander e e')
    (document : Document) (c : ChangeSet) :
    Follows site'.context (addChangeSetPart site document c e) (addChangeSetPart site' document c e') := by
  unfold addChangeSetPart
  rw [h.name]
  cases Named.ofName? (α := ChangeSetPart) e.name with
  | none => exact (changeOf_follows h "changeSet").bind fun _ => rfl
  | some part =>
    cases part with
    | comment => exact (bodyText_follows h).bind fun _ => rfl
    | validChecksum => exact (bodyText_follows h).bind fun _ => rfl
    | preconditions => exact (container_follows h).bind fun _ => rfl
    | rollback => exact (rollback_follows h document).bind fun _ => rfl
    | modifySql => exact (sqlAdjustments_follows h).bind fun _ => rfl

theorem changeSetOf_follows (document : Document) (a : Attributes) :
    Follows site'.context (changeSetOf site document a) (changeSetOf site' document a) := by
  refine (optionalChoice_follows _ _ _ _ _).bind fun onValidationFail => ?_
  exact (optionalChoice_follows _ _ _ _ _).bind fun quoting => rfl

def changeSetAt (site : Site) (document : Document) (e : Element) : Except ChangelogError ChangeSet := do
  rejectRenamed "changeSet" e.attributes "alwaysRun" "runAlways" site.context
  checkAttributes "changeSet" e.attributes changeSetAttributes site.context
  rejectPositional e.name e.args site.context
  let bare ← changeSetOf site document (site.expander.attributes e.attributes)
  e.children.foldlM (addChangeSetPart site document) bare

theorem changeSet_eq_at (expander : Expander) (document : Document) (e : Element) :
    changeSet expander document e = changeSetAt ⟨expander, changeSetContext document e⟩ document e := rfl

theorem changeSetAt_follows (h : SameReading site.expander site'.expander e e') (document : Document) :
    Follows site'.context (changeSetAt site document e) (changeSetAt site' document e') := by
  refine (rejectRenamed_follows _ _ h.keys _ _ _).bind fun _ => ?_
  refine (checkAttributes_follows _ _ h.keys _ _).bind fun _ => ?_
  rw [h.attributes, h.name]
  refine (rejectPositional_follows _ _ h.args _).bind fun _ => ?_
  refine (changeSetOf_follows document _).bind fun bare => ?_
  exact Follows.foldlM h.children (fun c _ _ hchild => addChangeSetPart_follows hchild document c) bare

end Builders

theorem changeSet_follows {own other : Expander} {e e' : Element} (h : SameReading own other e e')
    (document : Document) :
    Follows (changeSetContext document e') (changeSet own document e) (changeSet other document e') := by
  rw [changeSet_eq_at, changeSet_eq_at]
  exact changeSetAt_follows h document

end Build

end Changelog
