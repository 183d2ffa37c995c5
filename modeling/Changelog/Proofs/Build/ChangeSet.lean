import Changelog.Proofs.Build.Precondition

namespace Changelog.Build

section Parts

variable {site : Site}

theorem nodup_editAttributes (kind : SqlEditKind) : kind.attributes.Nodup := by
  cases kind <;> decide

theorem fst_editFields (e : SqlEdit) : e.fields.map Prod.fst = e.kind.attributes := by
  cases e <;> rfl

theorem sqlEditOf_fields {e : SqlEdit}
    (h : ∀ pattern new, e = .replacePattern pattern new → ∃ p, Pattern.read pattern = .ok p) :
    sqlEditOf site (.ofFields e.fields) e.kind = .ok e := by
  have hnames := fst_editFields e
  have hnodup := nodup_editAttributes e.kind
  cases e with
  | prepend value =>
    rw [SqlEdit.kind, sqlEditOf, requiredText_of_get? (get?_field hnames hnodup "value" rfl)]
    rfl
  | append value =>
    rw [SqlEdit.kind, sqlEditOf, requiredText_of_get? (get?_field hnames hnodup "value" rfl)]
    rfl
  | replace old new =>
    have hwith : textOf? (.ofFields (SqlEdit.replace old new).fields) "with" = some new :=
      textOf?_of_get? (get?_field hnames hnodup "with" rfl)
    rw [SqlEdit.kind, sqlEditOf, requiredText_of_get? (get?_field hnames hnodup "replace" rfl),
      ok_bind, hwith]
    rfl
  | replacePattern pattern new =>
    obtain ⟨p, hp⟩ := h pattern new rfl
    have hwith : textOf? (.ofFields (SqlEdit.replacePattern pattern new).fields) "with" = some new :=
      textOf?_of_get? (get?_field hnames hnodup "with" rfl)
    rw [SqlEdit.kind, sqlEditOf, requiredText_of_get? (get?_field hnames hnodup "replace" rfl),
      ok_bind, hp, hwith]
    rfl

theorem sqlEdit_toElement (hplain : site.Plain) {e : SqlEdit}
    (h : ∀ pattern new, e = .replacePattern pattern new → ∃ p, Pattern.read pattern = .ok p) :
    sqlEdit site e.toElement = .ok e := by
  have hkind : Named.ofName? (α := SqlEditKind) e.toElement.name = some e.kind :=
    Named.ofName?_name e.kind
  rw [sqlEdit, hkind]
  dsimp only
  simp only [SqlEdit.toElement, Element.made,
    checkAttributes_of_within (within_ofFields (fst_editFields e)), rejectPositional_nil,
    Expander.attributes_of_empty hplain, ok_bind]
  exact sqlEditOf_fields h

theorem sqlAdjustments_toElement (hplain : site.Plain) {a : SqlAdjustment} (h : a.Fits) :
    sqlAdjustments site a.toElement = .ok [a] := by
  have hnames : a.fields.map Prod.fst = modifySqlAttributes := rfl
  have hnodup : modifySqlAttributes.Nodup := by decide
  have hedits : [a.edit.toElement].mapM (sqlEdit site) = .ok [a.edit] := by
    rw [List.mapM_cons, sqlEdit_toElement hplain (h.pattern)]
    rfl
  have hdbms := namesOf_of_get? (get?_field hnames hnodup "dbms" rfl) h.dbms
  have hlabels := namesOf_of_get? (get?_field hnames hnodup "labels" rfl) h.labels
  have hcontext : textOf? (.ofFields a.fields) "context" = a.context :=
    textOf?_of_get? (get?_field hnames hnodup "context" rfl)
  have hrollback := truthOf_of_get? (get?_field hnames hnodup "applyToRollback" rfl) false
  have ha : sqlAdjustmentOf (.ofFields a.fields) a.edit = a := by
    rw [sqlAdjustmentOf, hdbms, hlabels, hcontext, hrollback]
  rw [sqlAdjustments]
  simp only [SqlAdjustment.toElement, Element.made,
    checkAttributes_of_within (within_ofFields hnames), rejectPositional_nil,
    Expander.attributes_of_empty hplain, ok_bind, hedits]
  exact congrArg (fun b => Except.ok [b]) ha

theorem rollback_element (hplain : site.Plain) (document : Document) {changes : List Change}
    (h : ∀ c ∈ changes, c.Fits) :
    rollback site document (rollbackElement changes) = .ok changes := by
  have hinside : (changes.map Change.toElement).mapM (changeOf site "rollback") = .ok changes :=
    mapM_items fun c hc => changeOf_toElement hplain (h c hc) "rollback"
  rw [rollback]
  simp only [rollbackElement, Element.made, checkAttributes_of_within (within_empty _), rollbackText,
    Expander.attributes_of_empty hplain, ok_bind, hinside]
  rfl

theorem changeSetOf_fields (site : Site) {document : Document} {c : ChangeSet}
    (h : c.Fits document) :
    changeSetOf site document (.ofFields c.fields) = .ok { c with
      comments := none
      validChecksums := []
      preconditions := none
      changes := []
      rollback := []
      sqlAdjustments := [] } := by
  have hnames : c.fields.map Prod.fst = changeSetAttributes := rfl
  have hnodup : changeSetAttributes.Nodup := by decide
  have hget : ∀ key, ∀ value, c.fields.lookup key = some value →
      (Attributes.ofFields c.fields).get? key = value := fun key value =>
    get?_field hnames hnodup key
  have hvalidation :=
    optionalChoice_of_get? (hget "onValidationFail" (Value.ofChoice (some c.onValidationFail)) rfl)
      site.context
  have hquoting := optionalChoice_of_get? (hget "objectQuotingStrategy" _ rfl) site.context
  have hid : textOf? (.ofFields c.fields) "id" = some c.id := textOf?_of_get? (hget "id" _ rfl)
  have hauthor : textOf? (.ofFields c.fields) "author" = some c.author :=
    textOf?_of_get? (hget "author" _ rfl)
  have hcontext : textOf? (.ofFields c.fields) "context" = c.context :=
    textOf?_of_get? (hget "context" _ rfl)
  have halways := truthOf_of_get? (hget "runAlways" _ rfl) false
  have hchange := truthOf_of_get? (hget "runOnChange" _ rfl) false
  have htransaction := truthOf_of_get? (hget "runInTransaction" _ rfl) true
  have hlabels := namesOf_of_get? (hget "labels" _ rfl) h.labels
  have hdbms := namesOf_of_get? (hget "dbms" _ rfl) h.dbms
  have hfail : failOnError (.ofFields c.fields) = c.failOnError := by
    rw [failOnError, hget "failOnError" (c.failOnError.map .bool) rfl]
    cases c.failOnError <;> rfl
  have hinherited : c.quotingStrategy.or document.quotingStrategy = c.quotingStrategy := by
    cases hq : c.quotingStrategy with
    | none => exact h.quoting hq
    | some q => rfl
  rw [changeSetOf]
  simp only [hvalidation, hquoting, ok_bind, hid, hauthor, hcontext, halways, hchange, htransaction,
    hlabels, hdbms, hfail, hinherited, h.filePath]
  rfl

theorem addChangeSetPart_comment (hplain : site.Plain) (document : Document) {c : ChangeSet}
    {text : String} :
    addChangeSetPart site document c (.ofText "comment" text) =
      .ok { c with comments := some text } := by
  have hpart : Named.ofName? (α := ChangeSetPart) (Element.ofText "comment" text).name =
      some .comment := rfl
  rw [addChangeSetPart, hpart]
  dsimp only
  rw [bodyText_ofText hplain, ok_bind]
  rfl

theorem addChangeSetPart_validChecksum (hplain : site.Plain) (document : Document) {c : ChangeSet}
    {text : String} :
    addChangeSetPart site document c (.ofText "validCheckSum" text) =
      .ok { c with validChecksums := c.validChecksums ++ [text] } := by
  have hpart : Named.ofName? (α := ChangeSetPart) (Element.ofText "validCheckSum" text).name =
      some .validChecksum := rfl
  rw [addChangeSetPart, hpart]
  dsimp only
  rw [bodyText_ofText hplain, ok_bind]
  rfl

theorem addChangeSetPart_preconditions (hplain : site.Plain) (document : Document) {c : ChangeSet}
    {p : Preconditions} (h : p.Fits) :
    addChangeSetPart site document c p.toElement = .ok { c with preconditions := some p } := by
  have hpart : Named.ofName? (α := ChangeSetPart) p.toElement.name = some .preconditions := rfl
  rw [addChangeSetPart, hpart]
  dsimp only
  rw [container_toElement hplain h, ok_bind]
  rfl

theorem addChangeSetPart_change (hplain : site.Plain) (document : Document) {c : ChangeSet}
    {change : Change} (h : change.Fits) :
    addChangeSetPart site document c change.toElement =
      .ok { c with changes := c.changes ++ [change] } := by
  have hpart : Named.ofName? (α := ChangeSetPart) change.toElement.name = none :=
    change.kind.name_not_part
  rw [addChangeSetPart, hpart]
  dsimp only
  rw [changeOf_toElement hplain h, ok_bind]
  rfl

theorem addChangeSetPart_rollback (hplain : site.Plain) (document : Document) {c : ChangeSet}
    {changes : List Change} (h : ∀ change ∈ changes, change.Fits) :
    addChangeSetPart site document c (rollbackElement changes) =
      .ok { c with rollback := c.rollback ++ changes } := by
  have hpart : Named.ofName? (α := ChangeSetPart) (rollbackElement changes).name =
      some .rollback := rfl
  rw [addChangeSetPart, hpart]
  dsimp only
  rw [rollback_element hplain document h, ok_bind]
  rfl

theorem addChangeSetPart_modifySql (hplain : site.Plain) (document : Document) {c : ChangeSet}
    {a : SqlAdjustment} (h : a.Fits) :
    addChangeSetPart site document c a.toElement =
      .ok { c with sqlAdjustments := c.sqlAdjustments ++ [a] } := by
  have hpart : Named.ofName? (α := ChangeSetPart) a.toElement.name = some .modifySql := rfl
  rw [addChangeSetPart, hpart]
  dsimp only
  rw [sqlAdjustments_toElement hplain h, ok_bind]
  rfl

theorem foldlM_addChangeSetPart (hplain : site.Plain) {document : Document} {c : ChangeSet}
    (h : c.Fits document) :
    c.toElement.children.foldlM (addChangeSetPart site document) { c with
      comments := none, validChecksums := [], preconditions := none, changes := [], rollback := [],
      sqlAdjustments := [] } = .ok c := by
  have hcomments := foldlM_option (addChangeSetPart site document) (.ofText "comment")
    (fun done => { c with
      comments := done, validChecksums := [], preconditions := none, changes := [], rollback := [],
      sqlAdjustments := [] })
    c.comments (fun text _ => addChangeSetPart_comment hplain document)
  have hchecksums := foldlM_items (addChangeSetPart site document) (.ofText "validCheckSum")
    (fun done => { c with
      validChecksums := done, preconditions := none, changes := [], rollback := [],
      sqlAdjustments := [] })
    c.validChecksums (fun done text _ => addChangeSetPart_validChecksum hplain document) []
  have hpreconditions := foldlM_option (addChangeSetPart site document) Preconditions.toElement
    (fun done => { c with preconditions := done, changes := [], rollback := [], sqlAdjustments := [] })
    c.preconditions (fun p hp => addChangeSetPart_preconditions hplain document (h.preconditions p hp))
  have hchanges := foldlM_items (addChangeSetPart site document) Change.toElement
    (fun done => { c with changes := done, rollback := [], sqlAdjustments := [] })
    c.changes (fun done change hc => addChangeSetPart_change hplain document (h.changes change hc)) []
  have hrollback : [rollbackElement c.rollback].foldlM (addChangeSetPart site document)
      { c with rollback := [], sqlAdjustments := [] } = .ok { c with sqlAdjustments := [] } := by
    rw [List.foldlM_cons, addChangeSetPart_rollback hplain document h.rollback, ok_bind]
    rfl
  have hadjustments := foldlM_items (addChangeSetPart site document) SqlAdjustment.toElement
    (fun done => { c with sqlAdjustments := done })
    c.sqlAdjustments
    (fun done a ha => addChangeSetPart_modifySql hplain document (h.sqlAdjustments a ha)) []
  exact foldlM_append_ok hcomments (foldlM_append_ok hchecksums (foldlM_append_ok hpreconditions
    (foldlM_append_ok hchanges (foldlM_append_ok hrollback hadjustments))))

end Parts

theorem changeSet_toElement {expander : Expander} (hplain : expander.table = .empty)
    {document : Document} {c : ChangeSet} (h : c.Fits document) :
    changeSet expander document c.toElement = .ok c := by
  have hnames : c.fields.map Prod.fst = changeSetAttributes := rfl
  have hrenamed : rejectRenamed "changeSet" (.ofFields c.fields) "alwaysRun" "runAlways"
      (changeSetContext document c.toElement) = .ok () := by
    have hold : "alwaysRun" ∉ (Attributes.ofFields c.fields).keys := by
      intro hmem
      have hkey := Attributes.mem_keys_ofFields hmem
      exact absurd (hnames ▸ hkey) (by decide)
    exact (rejectRenamed_eq_ok_iff _ _ _ _ _).2 hold
  have hattributes : c.toElement.attributes = .ofFields c.fields := by
    rw [ChangeSet.toElement, Element.made]
  have hargs : c.toElement.args = [] := rfl
  have hsite : Site.Plain ⟨expander, changeSetContext document c.toElement⟩ := hplain
  rw [changeSet]
  dsimp only
  rw [hattributes, hrenamed, ok_bind, checkAttributes_of_within (within_ofFields hnames), ok_bind, hargs,
    rejectPositional_nil, ok_bind, Expander.attributes_of_empty hplain, changeSetOf_fields _ h,
    ok_bind]
  exact foldlM_addChangeSetPart hsite h

end Changelog.Build
