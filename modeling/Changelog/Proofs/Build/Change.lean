import Changelog.Proofs.Build.Checks

namespace Changelog.Build

/-- No name has a value here, so that texts mean themselves. -/
def Site.Plain (site : Site) : Prop := site.expander.table = .empty

section Parts

variable {site : Site}

theorem bodyText_ofText (hplain : site.Plain) (name text : String) :
    bodyText site (.ofText name text) = .ok text := by
  show (checkAttributes name .empty [] site.context >>= fun _ =>
    Except.ok (site.expander.text text)) = .ok text
  rw [checkAttributes_of_within (within_empty []), ok_bind, Expander.text_of_empty hplain]

theorem parameter_toElement (hplain : site.Plain) (p : Parameter) :
    parameter site p.toElement = .ok p := by
  obtain ⟨name, value⟩ := p
  have hnames : (Parameter.fields ⟨name, value⟩).map Prod.fst = parameterAttributes := rfl
  have hname := get?_field hnames (by decide) "name" rfl
  have hvalue : textOf? (.ofFields (Parameter.fields ⟨name, value⟩)) "value" = value :=
    textOf?_of_get? (get?_field hnames (by decide) "value" rfl)
  rw [parameter, Parameter.toElement, Element.made]
  simp only [checkAttributes_of_within (within_ofFields hnames), Expander.attributes_of_empty hplain,
    requiredText_of_get? hname, hvalue, ok_bind]
  cases value <;> rfl

theorem commandArgument_element (hplain : site.Plain) (text : String) :
    commandArgument site (argumentElement text) = .ok text := by
  have hnames : (argumentFields text).map Prod.fst = argumentAttributes := rfl
  have hvalue := get?_field hnames (by decide) "value" rfl
  rw [commandArgument, argumentElement, Element.made]
  simp only [checkAttributes_of_within (within_ofFields hnames), Expander.attributes_of_empty hplain,
    rejectPositional_nil, ok_bind]
  exact requiredText_of_get? hvalue "arg" site.context

theorem column_toElement (hplain : site.Plain) {kind : ChangeKind} {c : Column} (h : c.Fits kind) :
    column site kind c.toElement = .ok c := by
  obtain ⟨attributes, constraints⟩ := c
  rw [column, Column.toElement, Element.made]
  simp only [checkAttributes_of_within h.attributes, Expander.attributes_of_empty hplain,
    rejectPositional_nil, ok_bind]
  cases constraints with
  | none => rfl
  | some a =>
    have hadd : addConstraints site none (.made "constraints" a [] []) = .ok (some a) := by
      rw [addConstraints, Element.made, if_neg (not_not.2 rfl),
        checkAttributes_of_within (h.constraints a rfl), rejectPositional_nil, ok_bind, ok_bind,
        Expander.attributes_of_empty hplain]
      exact congrArg (fun b => Except.ok (some b)) (Attributes.extend_empty a)
    rw [Option.toList_some, List.map_cons, List.map_nil, List.foldlM_cons, hadd, ok_bind]
    rfl

theorem part?_name {kind : ChangeKind} {part : ChangePart} (h : part.fits kind = true) :
    kind.part? part.name = some part := by
  rw [ChangeKind.part?]
  show (Named.ofName? (α := ChangePart) (Named.name part)).filter _ = _
  rw [Named.ofName?_name, Option.filter_some, if_pos h]

theorem addPart_of_column {change : Change} {e : Element} (hkind : change.kind.takesColumns = true)
    (hname : e.name = "column") :
    addPart site change e = (column site change.kind e).map fun c =>
      { change with columns := change.columns ++ [c] } := by
  have hfits : ChangePart.column.fits change.kind = true := hkind
  have hpart : change.kind.part? e.name = some .column := hname ▸ part?_name hfits
  rw [addPart, hpart]
  cases column site change.kind e <;> rfl

theorem addPart_column (hplain : site.Plain) {c : Change} {col : Column}
    (hfits : ChangePart.column.fits c.kind = true) (hcol : col.Fits c.kind) :
    addPart site c col.toElement = .ok { c with columns := c.columns ++ [col] } := by
  rw [addPart_of_column hfits rfl, column_toElement hplain hcol]
  rfl

theorem addPart_condition (hplain : site.Plain) {c : Change} {text : String}
    (hfits : ChangePart.condition.fits c.kind = true) :
    addPart site c (.ofText "where" text) = .ok { c with condition := some text } := by
  have hpart : c.kind.part? (Element.ofText "where" text).name = some .condition := part?_name hfits
  rw [addPart, hpart]
  dsimp only
  rw [bodyText_ofText hplain, ok_bind]
  rfl

theorem addPart_comment (hplain : site.Plain) {c : Change} {text : String}
    (hfits : ChangePart.comment.fits c.kind = true) :
    addPart site c (.ofText "comment" text) = .ok { c with comment := some text } := by
  have hpart : c.kind.part? (Element.ofText "comment" text).name = some .comment := part?_name hfits
  rw [addPart, hpart]
  dsimp only
  rw [bodyText_ofText hplain, ok_bind]
  rfl

theorem addPart_parameter (hplain : site.Plain) {c : Change} {p : Parameter}
    (hfits : ChangePart.parameter.fits c.kind = true) :
    addPart site c p.toElement = .ok { c with params := c.params ++ [p] } := by
  have hpart : c.kind.part? p.toElement.name = some .parameter := part?_name hfits
  rw [addPart, hpart]
  dsimp only
  rw [parameter_toElement hplain, ok_bind]
  rfl

theorem addPart_argument (hplain : site.Plain) {c : Change} {text : String}
    (hfits : ChangePart.argument.fits c.kind = true) :
    addPart site c (argumentElement text) = .ok { c with args := c.args ++ [text] } := by
  have hpart : c.kind.part? (argumentElement text).name = some .argument := part?_name hfits
  rw [addPart, hpart]
  dsimp only
  rw [commandArgument_element hplain, ok_bind]
  rfl

theorem changeText_toElement (hplain : site.Plain) {c : Change}
    (h : ∀ t ∈ c.text, c.kind.takesText = true) :
    changeText site c.kind c.toElement = .ok c.text := by
  obtain ⟨kind, attributes, text, comment, columns, condition, params, args⟩ := c
  cases text with
  | none =>
    unfold changeText
    split <;> rfl
  | some t =>
    rw [changeText, if_pos (h t rfl)]
    show Except.ok (some (site.expander.text t)) = _
    rw [Expander.text_of_empty hplain]

theorem change_toElement (hplain : site.Plain) {c : Change} (h : c.Fits) :
    change site c.kind c.toElement = .ok c := by
  have htext := changeText_toElement hplain h.text
  obtain ⟨kind, attributes, text, comment, columns, condition, params, args⟩ := c
  have hcolumns := foldlM_items (addPart site) Column.toElement
    (fun done => (⟨kind, attributes, text, none, done, none, [], []⟩ : Change)) columns
    (fun done col hcol => addPart_column hplain (h.columns col hcol).1 (h.columns col hcol).2) []
  have hcondition := foldlM_option (addPart site) (.ofText "where")
    (fun done => (⟨kind, attributes, text, none, columns, done, [], []⟩ : Change)) condition
    (fun t ht => addPart_condition hplain (h.condition t ht))
  have hcomment := foldlM_option (addPart site) (.ofText "comment")
    (fun done => (⟨kind, attributes, text, done, columns, condition, [], []⟩ : Change)) comment
    (fun t ht => addPart_comment hplain (h.comment t ht))
  have hparams := foldlM_items (addPart site) Parameter.toElement
    (fun done => (⟨kind, attributes, text, comment, columns, condition, done, []⟩ : Change)) params
    (fun done p hp => addPart_parameter hplain (h.params p hp)) []
  have hargs := foldlM_items (addPart site) argumentElement
    (fun done => (⟨kind, attributes, text, comment, columns, condition, params, done⟩ : Change)) args
    (fun done a ha => addPart_argument hplain (h.args a ha)) []
  rw [change]
  simp only [Change.toElement, Element.made, checkAttributes_of_within h.attributes, ok_bind] at htext ⊢
  rw [htext, ok_bind, Expander.attributes_of_empty hplain]
  exact foldlM_append_ok hcolumns
    (foldlM_append_ok hcondition (foldlM_append_ok hcomment (foldlM_append_ok hparams hargs)))

theorem changeOf_toElement (hplain : site.Plain) {c : Change} (h : c.Fits) (parent : String) :
    changeOf site parent c.toElement = .ok c := by
  have hkind : Named.ofName? (α := ChangeKind) c.toElement.name = some c.kind :=
    Named.ofName?_name c.kind
  rw [changeOf, hkind]
  exact change_toElement hplain h

end Parts

end Changelog.Build
