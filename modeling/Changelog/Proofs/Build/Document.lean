import Changelog.Loading
import Changelog.Proofs.Build.ChangeSet
import Changelog.Resource.Memory

namespace Changelog

namespace Build

theorem fits_of_document {d other : Document} {c : ChangeSet} (h : c.Fits d)
    (hpath : other.logicalPath = d.logicalPath) (hquoting : other.quotingStrategy = d.quotingStrategy) :
    c.Fits other :=
  { h with
    filePath := h.filePath.trans hpath.symm
    quoting := fun hc => hquoting.trans (h.quoting hc) }

section Parts

variable {workspace : Workspace} {load : Loader} {progress : Progress}

theorem addDocumentPart_preconditions (hplain : progress.table = .empty) {p : Preconditions}
    (h : p.Fits) :
    addDocumentPart workspace load progress p.toElement =
      .ok { progress with document.preconditions := some p } := by
  have hpart : Named.ofName? (α := DocumentPart) p.toElement.name = some .preconditions := rfl
  have hsite : (progress.site workspace.options.scope).Plain := hplain
  rw [addDocumentPart, hpart]
  dsimp only
  rw [container_toElement hsite h, ok_bind]
  rfl

theorem addDocumentPart_changeSet (hplain : progress.table = .empty) {c : ChangeSet}
    (h : c.Fits progress.document) :
    addDocumentPart workspace load progress c.toElement =
      .ok { progress with document.changeSets := progress.document.changeSets ++ [c] } := by
  have hpart : Named.ofName? (α := DocumentPart) c.toElement.name = some .changeSet := rfl
  have hexpander : (progress.site workspace.options.scope).expander.table = .empty := hplain
  rw [addDocumentPart, hpart]
  dsimp only
  rw [changeSet_toElement hexpander h, ok_bind]
  rfl

end Parts

theorem documentOf_toElement {site : Site} (hplain : site.Plain) (d : Document) :
    documentOf site d.toElement = .ok { Document.ofPath site.expander.document with
      logicalPath := d.logicalPath
      quotingStrategy := d.quotingStrategy } := by
  have hnames : d.fields.map Prod.fst = rootAttributes := rfl
  have hnodup : rootAttributes.Nodup := by decide
  have hpath : textOf? (.ofFields d.fields) "logicalFilePath" = some d.logicalPath :=
    textOf?_of_get? (get?_field hnames hnodup "logicalFilePath" rfl)
  have hquoting := optionalChoice_of_get? (get?_field hnames hnodup "objectQuotingStrategy" rfl)
    site.context
  have hattributes : d.toElement.attributes = .ofFields d.fields := by
    rw [Document.toElement, Element.made]
  rw [documentOf]
  dsimp only
  rw [hattributes, checkAttributes_of_within (within_ofFields hnames), ok_bind,
    Expander.attributes_of_empty hplain, hquoting, ok_bind, hpath]
  rfl

theorem document_toElement (workspace : Workspace) (load : Loader) {d : Document} (h : d.Fits) :
    document workspace load .empty d.physicalPath d.toElement = .ok ⟨.empty, d⟩ := by
  obtain ⟨logicalPath, physicalPath, quoting, preconditions, changeSets, properties⟩ := d
  obtain rfl : properties = [] := h.properties
  have hpreconditions := foldlM_option (addDocumentPart workspace load) Preconditions.toElement
    (fun done => (⟨.empty, ⟨logicalPath, physicalPath, quoting, done, [], []⟩⟩ : Progress))
    preconditions (fun p hp => addDocumentPart_preconditions rfl (h.preconditions p hp))
  have hchangeSets := foldlM_items (addDocumentPart workspace load) ChangeSet.toElement
    (fun done => (⟨.empty, ⟨logicalPath, physicalPath, quoting, preconditions, done, []⟩⟩ : Progress))
    changeSets
    (fun done c hc => addDocumentPart_changeSet rfl (fits_of_document (h.changeSets c hc) rfl rfl)) []
  have hbare := documentOf_toElement
    (show Site.Plain ⟨⟨.empty, physicalPath, workspace.options.scope⟩, physicalPath⟩ from rfl)
    ⟨logicalPath, physicalPath, quoting, preconditions, changeSets, []⟩
  rw [document, hbare, ok_bind]
  exact foldlM_append_ok hpreconditions hchangeSets

end Build

namespace Workspace

/-- A document that follows the schema is what loading the tree of its elements gives, whatever the
files and options of the workspace are. -/
theorem loadElement_toElement (workspace : Workspace) (d : Document) (h : d.Fits) :
    workspace.loadElement d.toElement d.physicalPath = .ok d := by
  have hroot : Build.rootOf d.physicalPath [d.toElement] = .ok d.toElement := rfl
  rw [loadElement, hroot, ok_bind, Build.document_toElement workspace _ h, ok_bind]
  have hfinish : finish ⟨.empty, d⟩ = { d with properties := [] } := rfl
  rw [hfinish, ← h.properties]
  rfl

def ordersDocument : Document where
  logicalPath := "orders"
  physicalPath := "db/main.changelog"
  quotingStrategy := some .allObjects
  preconditions := some {
    onFail := some .markRan
    onError := some .warn
    onSqlOutput := none
    onFailMessage := some "already there"
    onErrorMessage := none
    nested := [
      .combination .not [.check ⟨.tableExists, ⟨[("tableName", .string "orders")], by decide⟩, none, []⟩],
      .check ⟨.sqlCheck, ⟨[("expectedResult", .int 0)], by decide⟩, some "select 0", []⟩] }
  changeSets := [{
    id := "1"
    author := "me"
    filePath := "orders"
    runAlways := true
    runOnChange := false
    context := none
    labels := ["a", "b c"]
    dbms := []
    runInTransaction := false
    failOnError := some false
    onValidationFail := .warn
    quotingStrategy := some .legacy
    comments := some "first"
    validChecksums := ["ANY"]
    preconditions := none
    changes := [{ Change.ofKind .createTable ⟨[("tableName", .string "orders")], by decide⟩ with
      columns := [⟨⟨[("name", .string "id")], by decide⟩,
        some ⟨[("nullable", .bool false)], by decide⟩⟩] }]
    rollback := [.ofSql "drop table orders"]
    sqlAdjustments := [⟨.replacePattern "a+b" "", [], none, ["x"], true⟩] }]
  properties := []

theorem ordersDocument_fits : ordersDocument.Fits where
  properties := rfl
  preconditions := by
    rintro p ⟨⟩ c hc
    obtain rfl | rfl := List.mem_pair.1 hc
    · exact ⟨by decide, by decide, by nofun⟩
    · exact ⟨by decide, by decide, by nofun⟩
  changeSets := by
    intro c hc
    obtain rfl := List.mem_singleton.1 hc
    have hlabels : ∀ s ∈ ["a", "b c"], IsItem s := by decide
    have hscope : ∀ s ∈ ["x"], IsItem s := by decide
    have hnone : ∀ p : Preconditions, p ∉ (none : Option Preconditions) := Option.not_mem_none
    refine ⟨rfl, by nofun, by nofun, hlabels, fun p hp => absurd hp (hnone p), ?_, ?_, ?_⟩
    · intro change hchange
      obtain rfl := List.mem_singleton.1 hchange
      refine ⟨by decide, by nofun, ?_, by nofun, by nofun, by nofun, by nofun⟩
      intro column hcolumn
      obtain rfl := List.mem_singleton.1 hcolumn
      refine ⟨rfl, by decide, ?_⟩
      rintro a ⟨⟩
      decide
    · intro change hchange
      obtain rfl := List.mem_singleton.1 hchange
      exact ⟨by nofun, fun _ _ => rfl, by nofun, by nofun, by nofun, by nofun, by nofun⟩
    · intro a ha
      obtain rfl := List.mem_singleton.1 ha
      refine ⟨by nofun, hscope, ?_⟩
      rintro pattern new ⟨⟩
      exact ⟨_, rfl⟩

theorem loadElement_ordersDocument :
    Workspace.loadElement ⟨MemoryResources.accessor ⟨[], []⟩, .empty, {}⟩ ordersDocument.toElement
      "db/main.changelog" = .ok ordersDocument :=
  loadElement_toElement _ ordersDocument ordersDocument_fits

end Workspace

end Changelog
