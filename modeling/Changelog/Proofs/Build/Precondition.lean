import Changelog.Proofs.Build.Change

namespace Changelog.Build

section Parts

variable {site : Site}

theorem addCheckPart_parameter (hplain : site.Plain) {c : Check} {p : Parameter}
    (hkind : c.kind = .customPrecondition) :
    addCheckPart site c p.toElement = .ok { c with params := c.params ++ [p] } := by
  rw [addCheckPart, if_pos ⟨hkind, rfl⟩, parameter_toElement hplain, ok_bind]
  rfl

theorem query_toElement (hplain : site.Plain) {c : Check} (h : c.sql.isSome = true ↔ c.kind = .sqlCheck) :
    query site c.kind c.toElement = .ok c.sql := by
  obtain ⟨kind, attributes, sql, params⟩ := c
  cases sql with
  | none =>
    have hkind : kind ≠ .sqlCheck := fun hk => Bool.false_ne_true (h.2 hk)
    rw [query, if_neg hkind]
    rfl
  | some text =>
    rw [query, if_pos (h.1 rfl)]
    show Except.ok (some (site.expander.text text)) = _
    rw [Expander.text_of_empty hplain]

theorem check_toElement (hplain : site.Plain) {c : Check} (h : c.Fits) :
    check site c.kind c.toElement = .ok c := by
  have hquery := query_toElement hplain h.sql
  obtain ⟨kind, attributes, sql, params⟩ := c
  have hparams := foldlM_items (addCheckPart site) Parameter.toElement
    (fun done => (⟨kind, attributes, sql, done⟩ : Check)) params
    (fun done p hp => addCheckPart_parameter hplain (h.params p hp)) []
  rw [check]
  simp only [Check.toElement, Element.made, checkAttributes_of_within h.attributes, ok_bind]
    at hquery ⊢
  rw [hquery, ok_bind, Expander.attributes_of_empty hplain]
  exact hparams

mutual

theorem precondition_toElement (hplain : site.Plain) (parent : String) (p : Precondition)
    (h : ∀ c ∈ p.checks, c.Fits) : precondition site parent p.toElement = .ok p := by
  cases p with
  | combination how nested =>
    have hhow : Named.ofName? (α := Combinator) how.name = some how := Named.ofName?_name how
    have hnested := preconditions_toElements hplain how.name nested h
    rw [Precondition.toElement, Element.made, precondition, hhow]
    dsimp only
    rw [checkAttributes_of_within (within_empty []), ok_bind, rejectPositional_nil, ok_bind, hnested,
      ok_bind]
    rfl
  | check c =>
    have hcheck : check site c.kind c.toElement = .ok c :=
      check_toElement hplain (h c (List.mem_singleton.2 rfl))
    have hkind : Named.ofName? (α := CheckKind) c.kind.name = some c.kind :=
      Named.ofName?_name c.kind
    rw [Precondition.toElement, Check.toElement, Element.made, precondition,
      CheckKind.name_not_combinator, hkind]
    exact congrArg (Except.map Precondition.check) hcheck

theorem preconditions_toElements (hplain : site.Plain) (parent : String) (ps : List Precondition)
    (h : ∀ c ∈ Precondition.checksOfAll ps, c.Fits) :
    preconditions site parent (Precondition.toElements ps) = .ok ps := by
  cases ps with
  | nil => rfl
  | cons p rest =>
    rw [Precondition.checksOfAll] at h
    have hfirst := precondition_toElement hplain parent p
      fun c hc => h c (List.mem_append_left _ hc)
    have hrest := preconditions_toElements hplain parent rest
      fun c hc => h c (List.mem_append_right _ hc)
    rw [Precondition.toElements, preconditions, hfirst, ok_bind, hrest, ok_bind]
    rfl

end

theorem container_toElement (hplain : site.Plain) {p : Preconditions} (h : p.Fits) :
    container site p.toElement = .ok p := by
  have hnames : p.fields.map Prod.fst = preconditionsAttributes := rfl
  have hnodup : preconditionsAttributes.Nodup := by decide
  have honFail := optionalChoice_of_get? (get?_field hnames hnodup "onFail" rfl) site.context
  have honError := optionalChoice_of_get? (get?_field hnames hnodup "onError" rfl) site.context
  have honSqlOutput :=
    optionalChoice_of_get? (get?_field hnames hnodup "onUpdateSQL" rfl) site.context
  have honFailMessage : textOf? (.ofFields p.fields) "onFailMessage" = p.onFailMessage :=
    textOf?_of_get? (get?_field hnames hnodup "onFailMessage" rfl)
  have honErrorMessage : textOf? (.ofFields p.fields) "onErrorMessage" = p.onErrorMessage :=
    textOf?_of_get? (get?_field hnames hnodup "onErrorMessage" rfl)
  have hnested := preconditions_toElements hplain "preConditions" p.nested h
  rw [container]
  simp only [Preconditions.toElement, Element.made, checkAttributes_of_within (within_ofFields hnames),
    rejectPositional_nil, Expander.attributes_of_empty hplain, ok_bind, honFail, honError,
    honSqlOutput, honFailMessage, honErrorMessage, hnested]
  rfl

end Parts

end Changelog.Build
