import Changelog.Proofs.Document.Choice
import Changelog.Proofs.Json.Layout
import Changelog.Report.Json

/-!
# Reports as JSON tell documents apart

Every part of a document is written with all that it is, so two documents with the same report are the
same, unless an attribute holds a float: one that is not finite is written as `null`.
-/

namespace Changelog

mutual

def Value.floatFree : Value → Bool
  | .float _ => false
  | .list items => Value.floatFreeAll items
  | _ => true

def Value.floatFreeAll : List Value → Bool
  | [] => true
  | v :: rest => v.floatFree && Value.floatFreeAll rest

end

def Attributes.floatFree (a : Attributes) : Bool := a.entries.all fun e => e.2.floatFree

def Column.floatFree (c : Column) : Bool :=
  c.attributes.floatFree && c.constraints.all Attributes.floatFree

def Change.floatFree (c : Change) : Bool := c.attributes.floatFree && c.columns.all Column.floatFree

def Check.floatFree (c : Check) : Bool := c.attributes.floatFree

mutual

def Precondition.floatFree : Precondition → Bool
  | .combination _ nested => Precondition.floatFreeAll nested
  | .check c => c.floatFree

def Precondition.floatFreeAll : List Precondition → Bool
  | [] => true
  | p :: rest => p.floatFree && Precondition.floatFreeAll rest

end

def Preconditions.floatFree (c : Preconditions) : Bool := Precondition.floatFreeAll c.nested

def ChangeSet.floatFree (c : ChangeSet) : Bool :=
  c.preconditions.all Preconditions.floatFree && c.changes.all Change.floatFree &&
    c.rollback.all Change.floatFree

def Document.floatFree (d : Document) : Bool :=
  d.preconditions.all Preconditions.floatFree && d.changeSets.all ChangeSet.floatFree

namespace Json

/-! ### Parts without floats -/

theorem floatFree_array (items : List Json) :
    (Json.array items).floatFree = true ↔ ∀ v ∈ items, v.floatFree = true := by
  rw [floatFree, floatFreeItems_eq, List.all_eq_true]

theorem floatFree_object (members : List (String × Json)) :
    (Json.object members).floatFree = true ↔ ∀ m ∈ members, m.2.floatFree = true := by
  rw [floatFree, floatFreeMembers_eq, List.all_eq_true]

theorem floatFree_objectOf (members : List (String × Option Json)) :
    (objectOf members).floatFree = true ↔ ∀ m ∈ members, ∀ v, m.2 = some v → v.floatFree = true := by
  rw [objectOf, floatFree_object]
  simp only [List.forall_mem_filterMap, Option.map_eq_some_iff, forall_exists_index, and_imp,
    forall_apply_eq_imp_iff₂]

theorem floatFree_nonempty? {α : Type} (ofItem : α → Json) (items : List α) :
    (∀ v, nonempty? ofItem items = some v → v.floatFree = true) ↔
      ∀ a ∈ items, (ofItem a).floatFree = true := by
  cases items with
  | nil => simp [nonempty?]
  | cons a rest => simp [nonempty?, floatFree_array]

theorem floatFree_string (s : String) : (Json.string s).floatFree = true := rfl

theorem floatFree_bool (b : Bool) : (Json.bool b).floatFree = true := rfl

theorem floatFree_ofNamed {α : Type} [Named α] (a : α) : (ofNamed a).floatFree = true := rfl

mutual

theorem floatFree_ofValue (v : Value) : (ofValue v).floatFree = v.floatFree := by
  cases v with
  | list items =>
    rw [ofValue, floatFree, Value.floatFree]
    exact floatFree_ofValues items
  | _ => rfl

theorem floatFree_ofValues (items : List Value) :
    floatFreeItems (ofValues items) = Value.floatFreeAll items := by
  cases items with
  | nil => rfl
  | cons v rest =>
    rw [ofValues, floatFreeItems, Value.floatFreeAll, floatFree_ofValue v, floatFree_ofValues rest]

end

theorem floatFree_ofAttributes (a : Attributes) : (ofAttributes a).floatFree = a.floatFree := by
  rw [ofAttributes, floatFree, floatFreeMembers_eq, List.all_map]
  exact congrArg (List.all a.entries) (funext fun e => floatFree_ofValue e.2)

attribute [simp] floatFree_array floatFree_object floatFree_objectOf floatFree_nonempty?
  floatFree_string floatFree_bool floatFree_ofNamed floatFree_ofAttributes Option.all_eq_true

@[simp] theorem floatFree_ofParameter (p : Parameter) : (ofParameter p).floatFree = true := by
  simp [ofParameter]

@[simp] theorem floatFree_ofColumn (c : Column) :
    (ofColumn c).floatFree = true ↔ c.floatFree = true := by
  simp [ofColumn, Column.floatFree]

@[simp] theorem floatFree_ofChange (c : Change) :
    (ofChange c).floatFree = true ↔ c.floatFree = true := by
  simp [ofChange, Change.floatFree]

@[simp] theorem floatFree_ofCheck (c : Check) :
    (ofCheck c).floatFree = true ↔ c.floatFree = true := by
  simp [ofCheck, Check.floatFree]

mutual

theorem floatFree_ofPrecondition (p : Precondition) : (ofPrecondition p).floatFree = p.floatFree := by
  cases p with
  | combination how nested =>
    rw [ofPrecondition, floatFree, floatFreeMembers, floatFreeMembers, Bool.and_true,
      floatFree, floatFree_ofPreconditionList nested, Precondition.floatFree]
  | check c =>
    rw [ofPrecondition, floatFree, floatFreeMembers, floatFreeMembers, Bool.and_true,
      Precondition.floatFree, Bool.eq_iff_iff, floatFree_ofCheck]

theorem floatFree_ofPreconditionList (nested : List Precondition) :
    floatFreeItems (ofPreconditionList nested) = Precondition.floatFreeAll nested := by
  cases nested with
  | nil => rfl
  | cons p rest =>
    rw [ofPreconditionList, floatFreeItems, Precondition.floatFreeAll, floatFree_ofPrecondition p,
      floatFree_ofPreconditionList rest]

end

@[simp] theorem floatFree_ofPreconditions (c : Preconditions) :
    (ofPreconditions c).floatFree = true ↔ c.floatFree = true := by
  have hnested : (Json.array (ofPreconditionList c.nested)).floatFree = c.floatFree :=
    floatFree_ofPreconditionList c.nested
  simp [ofPreconditions, hnested, -floatFree_array]

@[simp] theorem floatFree_ofSqlAdjustment (r : SqlAdjustment) :
    (ofSqlAdjustment r).floatFree = true := by
  cases h : r.edit <;> simp [ofSqlAdjustment, sqlEditMembers, h]

@[simp] theorem floatFree_ofChangeSet (c : ChangeSet) :
    (ofChangeSet c).floatFree = true ↔ c.floatFree = true := by
  cases hfail : c.failOnError <;> simp [ofChangeSet, ChangeSet.floatFree, and_assoc, hfail]

@[simp] theorem floatFree_ofBinding (b : Binding) : (ofBinding b).floatFree = true := by
  simp [ofBinding]

theorem floatFree_ofDocument (d : Document) :
    (ofDocument d).floatFree = true ↔ d.floatFree = true := by
  simp [ofDocument, Document.floatFree]

/-! ### Parts are told apart -/

theorem ofNamed_injective {α : Type} [Named α] [Named.Lawful α] :
    Function.Injective (ofNamed (α := α)) := by
  intro a b h
  have hname := congrArg (Named.ofName? (α := α)) (Json.string.inj h)
  rw [Named.ofName?_name, Named.ofName?_name] at hname
  exact Option.some.inj hname

theorem string_injective : Function.Injective Json.string := fun _ _ => Json.string.inj

theorem bool_injective : Function.Injective Json.bool := fun _ _ => Json.bool.inj

theorem nonempty?_injective {α : Type} {ofItem : α → Json} (h : Function.Injective ofItem) :
    Function.Injective (nonempty? ofItem) := by
  intro a b heq
  cases a with
  | nil =>
    cases b with
    | nil => rfl
    | cons y b => cases heq
  | cons x a =>
    cases b with
    | nil => cases heq
    | cons y b => exact h.list_map (Json.array.inj (Option.some.inj heq))

theorem array_map_injective {α : Type} {ofItem : α → Json} (h : Function.Injective ofItem) :
    Function.Injective fun items : List α => Json.array (items.map ofItem) :=
  fun _ _ heq => h.list_map (Json.array.inj heq)

/-- Members under the same names, none of them twice, are told apart also where some are left out. -/
theorem objectOf_inj {a b : List (String × Option Json)} (h : objectOf a = objectOf b)
    (hnames : a.map Prod.fst = b.map Prod.fst) (hnodup : (a.map Prod.fst).Nodup) : a = b := by
  have hleft : ∀ {key : String} {v : Json} {members : List (String × Option Json)},
      (key, v) ∈ members.filterMap (fun m => m.2.map (m.1, ·)) → key ∈ members.map Prod.fst := by
    intro key v members hmem
    obtain ⟨m, hm, heq⟩ := List.mem_filterMap.1 hmem
    obtain ⟨w, -, hw⟩ := Option.map_eq_some_iff.1 heq
    exact List.mem_map.2 ⟨m, hm, congrArg Prod.fst hw⟩
  replace h := Json.object.inj h
  induction a generalizing b with
  | nil =>
    cases b with
    | nil => rfl
    | cons n b => cases hnames
  | cons m a ih =>
    cases b with
    | nil => cases hnames
    | cons n b =>
      obtain ⟨key, v⟩ := m
      obtain ⟨key', w⟩ := n
      obtain ⟨hkey, htail⟩ := List.cons.inj hnames
      obtain ⟨hnot, hrest⟩ := List.nodup_cons.1 hnodup
      obtain rfl : key = key' := hkey
      -- A member on one side only would come later on the other side, under a name that is used up.
      cases v with
      | none =>
        cases w with
        | none => rw [ih htail hrest h]
        | some w =>
          have hmem : (key, w) ∈ a.filterMap fun m => m.2.map (m.1, ·) := h ▸ List.mem_cons_self ..
          exact absurd (hleft hmem) hnot
      | some v =>
        cases w with
        | none =>
          have hmem : (key, v) ∈ b.filterMap fun m => m.2.map (m.1, ·) := h ▸ List.mem_cons_self ..
          exact absurd (htail ▸ hleft hmem) hnot
        | some w =>
          obtain ⟨hvalue, hothers⟩ := List.cons.inj h
          obtain rfl : v = w := congrArg Prod.snd hvalue
          rw [ih htail hrest hothers]

theorem ofParameter_injective : Function.Injective ofParameter := by
  intro a b h
  have hmembers := objectOf_inj h rfl (by simp)
  simp only [List.cons.injEq, Prod.mk.injEq, true_and, and_true, Option.some.injEq] at hmembers
  obtain ⟨hname, hvalue⟩ := hmembers
  cases a
  cases b
  congr
  · exact string_injective hname
  · exact Option.map_injective string_injective hvalue

mutual

theorem ofValue_inj (v w : Value) (h : ofValue v = ofValue w) : v = w := by
  cases v with
  | list items =>
    cases w with
    | list items' =>
      rw [ofValue, ofValue] at h
      rw [ofValues_inj items items' (Json.array.inj h)]
    | _ => cases h
  | int i =>
    cases w with
    | int j => rw [Int64.toInt_inj.1 (Json.int.inj h)]
    | _ => cases h
  | _ =>
    cases w <;> cases h
    rfl

theorem ofValues_inj (a b : List Value) (h : ofValues a = ofValues b) : a = b := by
  cases a with
  | nil =>
    cases b with
    | nil => rfl
    | cons w b => cases h
  | cons v a =>
    cases b with
    | nil => cases h
    | cons w b =>
      rw [ofValues, ofValues, List.cons.injEq] at h
      rw [ofValue_inj v w h.1, ofValues_inj a b h.2]

end

theorem ofAttributes_injective : Function.Injective ofAttributes := by
  intro a b h
  refine Attributes.ext ?_
  have hentry : Function.Injective fun e : String × Value => (e.1, ofValue e.2) := by
    intro e f hef
    obtain ⟨hkey, hvalue⟩ := Prod.mk.inj hef
    exact Prod.ext hkey (ofValue_inj _ _ hvalue)
  exact hentry.list_map (Json.object.inj h)

theorem ofColumn_injective : Function.Injective ofColumn := by
  intro a b h
  have hmembers := objectOf_inj h rfl (by simp)
  simp only [List.cons.injEq, Prod.mk.injEq, true_and, and_true, Option.some.injEq] at hmembers
  obtain ⟨hattributes, hconstraints⟩ := hmembers
  have hconfig : Function.Injective fun a => Json.object [("attributes", ofAttributes a)] := by
    intro a b hab
    exact ofAttributes_injective (Prod.mk.inj (List.cons.inj (Json.object.inj hab)).1).2
  cases a
  cases b
  congr
  · exact ofAttributes_injective hattributes
  · exact Option.map_injective hconfig hconstraints

theorem ofChange_injective : Function.Injective ofChange := by
  intro a b h
  have hmembers := objectOf_inj h rfl (by simp)
  simp only [List.cons.injEq, Prod.mk.injEq, true_and, and_true, Option.some.injEq] at hmembers
  obtain ⟨hkind, hattributes, htext, hcomment, hcolumns, hcondition, hparams, hargs⟩ := hmembers
  cases a
  cases b
  congr
  · exact ofNamed_injective hkind
  · exact ofAttributes_injective hattributes
  · exact Option.map_injective string_injective htext
  · exact Option.map_injective string_injective hcomment
  · exact nonempty?_injective ofColumn_injective hcolumns
  · exact Option.map_injective string_injective hcondition
  · exact nonempty?_injective ofParameter_injective hparams
  · exact nonempty?_injective string_injective hargs

theorem ofCheck_injective : Function.Injective ofCheck := by
  intro a b h
  have hmembers := objectOf_inj h rfl (by simp)
  simp only [List.cons.injEq, Prod.mk.injEq, true_and, and_true, Option.some.injEq] at hmembers
  obtain ⟨hkind, hattributes, hsql, hparams⟩ := hmembers
  cases a
  cases b
  congr
  · exact ofNamed_injective hkind
  · exact ofAttributes_injective hattributes
  · exact Option.map_injective string_injective hsql
  · exact nonempty?_injective ofParameter_injective hparams

theorem Combinator.name_ne_check (how : Combinator) : how.name ≠ "check" := by
  cases how <;> decide

mutual

theorem ofPrecondition_inj (p q : Precondition) (h : ofPrecondition p = ofPrecondition q) :
    p = q := by
  cases p with
  | combination how nested =>
    cases q with
    | combination how' nested' =>
      rw [ofPrecondition, ofPrecondition] at h
      obtain ⟨hname, hnested⟩ := Prod.mk.inj (List.cons.inj (Json.object.inj h)).1
      have hhow : ofNamed how = ofNamed how' := congrArg Json.string hname
      rw [ofNamed_injective hhow, ofPreconditionList_inj nested nested' (Json.array.inj hnested)]
    | check c =>
      rw [ofPrecondition, ofPrecondition] at h
      exact absurd (Prod.mk.inj (List.cons.inj (Json.object.inj h)).1).1 (Combinator.name_ne_check how)
  | check c =>
    cases q with
    | combination how nested =>
      rw [ofPrecondition, ofPrecondition] at h
      exact absurd (Prod.mk.inj (List.cons.inj (Json.object.inj h)).1).1.symm
        (Combinator.name_ne_check how)
    | check c' =>
      rw [ofPrecondition, ofPrecondition] at h
      rw [ofCheck_injective (Prod.mk.inj (List.cons.inj (Json.object.inj h)).1).2]

theorem ofPreconditionList_inj (a b : List Precondition)
    (h : ofPreconditionList a = ofPreconditionList b) : a = b := by
  cases a with
  | nil =>
    cases b with
    | nil => rfl
    | cons q b => cases h
  | cons p a =>
    cases b with
    | nil => cases h
    | cons q b =>
      rw [ofPreconditionList, ofPreconditionList, List.cons.injEq] at h
      rw [ofPrecondition_inj p q h.1, ofPreconditionList_inj a b h.2]

end

theorem ofPreconditions_injective : Function.Injective ofPreconditions := by
  intro a b h
  have hmembers := objectOf_inj h rfl (by simp)
  simp only [List.cons.injEq, Prod.mk.injEq, true_and, and_true, Option.some.injEq] at hmembers
  obtain ⟨honFail, honError, honSqlOutput, hfailMessage, herrorMessage, hnested⟩ := hmembers
  cases a
  cases b
  congr
  · exact Option.map_injective ofNamed_injective honFail
  · exact Option.map_injective ofNamed_injective honError
  · exact Option.map_injective ofNamed_injective honSqlOutput
  · exact Option.map_injective string_injective hfailMessage
  · exact Option.map_injective string_injective herrorMessage
  · exact ofPreconditionList_inj _ _ (Json.array.inj hnested)

/-- The kind of an edit is written first, and says which other members there are. -/
theorem editKind_of_eq {a b : SqlAdjustment} (h : ofSqlAdjustment a = ofSqlAdjustment b) :
    a.edit.kind = b.edit.kind := by
  have hkind := (List.cons.inj (Json.object.inj h)).1
  exact ofNamed_injective (Prod.mk.inj hkind).2

theorem sqlEditNames_of_kind {a b : SqlEdit} (h : a.kind = b.kind) :
    (sqlEditMembers a).map Prod.fst = (sqlEditMembers b).map Prod.fst := by
  cases a <;> cases b <;> cases h <;> rfl

theorem sqlEdit_of_members {a b : SqlEdit} (hkind : a.kind = b.kind)
    (hmembers : sqlEditMembers a = sqlEditMembers b) : a = b := by
  cases a <;> cases b <;> cases hkind <;> simp_all [sqlEditMembers]

theorem ofSqlAdjustment_injective : Function.Injective ofSqlAdjustment := by
  intro a b h
  have hkind := editKind_of_eq h
  have hnames := sqlEditNames_of_kind hkind
  have hmembers := objectOf_inj h (by simp [hnames]) (by cases a.edit <;> simp [sqlEditMembers])
  obtain ⟨hedit, hrest⟩ := List.append_inj (List.cons.inj hmembers).2
    (by simpa using congrArg List.length hnames)
  simp only [List.cons.injEq, Prod.mk.injEq, true_and, and_true, Option.some.injEq] at hrest
  obtain ⟨hdbms, hcontext, hlabels, hrollback⟩ := hrest
  cases a
  cases b
  congr
  · exact sqlEdit_of_members hkind hedit
  · exact nonempty?_injective string_injective hdbms
  · exact Option.map_injective string_injective hcontext
  · exact nonempty?_injective string_injective hlabels
  · exact bool_injective hrollback

theorem ofChangeSet_injective : Function.Injective ofChangeSet := by
  intro a b h
  have hmembers := objectOf_inj h rfl (by simp)
  simp only [List.cons.injEq, Prod.mk.injEq, true_and, and_true, Option.some.injEq] at hmembers
  obtain ⟨hid, hauthor, hfilePath, hrunAlways, hrunOnChange, hcontext, hlabels, hdbms, htransaction,
    hfailOnError, hvalidation, hquoting, hcomments, hchecksums, hpreconditions, hchanges, hrollback,
    hadjustments⟩ := hmembers
  cases a
  cases b
  congr
  · exact string_injective hid
  · exact string_injective hauthor
  · exact string_injective hfilePath
  · exact bool_injective hrunAlways
  · exact bool_injective hrunOnChange
  · exact Option.map_injective string_injective hcontext
  · exact nonempty?_injective string_injective hlabels
  · exact nonempty?_injective string_injective hdbms
  · exact bool_injective htransaction
  · exact Option.map_injective bool_injective hfailOnError
  · exact ofNamed_injective hvalidation
  · exact Option.map_injective ofNamed_injective hquoting
  · exact Option.map_injective string_injective hcomments
  · exact nonempty?_injective string_injective hchecksums
  · exact Option.map_injective ofPreconditions_injective hpreconditions
  · exact array_map_injective ofChange_injective hchanges
  · exact nonempty?_injective ofChange_injective hrollback
  · exact nonempty?_injective ofSqlAdjustment_injective hadjustments

theorem ofBinding_injective : Function.Injective ofBinding := by
  intro a b h
  have hmembers := objectOf_inj h rfl (by simp)
  simp only [List.cons.injEq, Prod.mk.injEq, true_and, and_true, Option.some.injEq] at hmembers
  obtain ⟨hname, hvalue, hcontext, hlabels, hdbms, hglobal, hsource⟩ := hmembers
  cases a
  cases b
  congr
  · exact string_injective hname
  · exact string_injective hvalue
  · exact Option.map_injective string_injective hcontext
  · exact Option.map_injective string_injective hlabels
  · exact Option.map_injective string_injective hdbms
  · exact bool_injective hglobal
  · exact string_injective hsource

theorem ofDocument_injective : Function.Injective ofDocument := by
  intro a b h
  have hmembers := objectOf_inj h rfl (by simp)
  simp only [List.cons.injEq, Prod.mk.injEq, true_and, and_true, Option.some.injEq] at hmembers
  obtain ⟨hlogical, hphysical, hquoting, hpreconditions, hchangeSets, hproperties⟩ := hmembers
  cases a
  cases b
  congr
  · exact string_injective hlogical
  · exact string_injective hphysical
  · exact Option.map_injective ofNamed_injective hquoting
  · exact Option.map_injective ofPreconditions_injective hpreconditions
  · exact array_map_injective ofChangeSet_injective hchangeSets
  · exact nonempty?_injective ofBinding_injective hproperties

end Json

/-- Documents without floats are the same if their reports as JSON are. -/
theorem jsonReport_inj {d e : Document} (hd : d.floatFree = true) (he : e.floatFree = true)
    (h : jsonReport d = jsonReport e) : d = e := by
  have htext : (Json.ofDocument d).pretty = (Json.ofDocument e).pretty := by
    refine String.toList_injective (List.append_cancel_right (?_ : _ ++ ['\n'] = _ ++ ['\n']))
    simpa [jsonReport] using congrArg String.toList h
  exact Json.ofDocument_injective
    (Json.pretty_inj ((Json.floatFree_ofDocument d).2 hd) ((Json.floatFree_ofDocument e).2 he) htext)

def documentWith (constraints : Option Attributes) : Document :=
  { Document.ofPath "main" with
    preconditions := some (.ofNested [.combination .not []])
    changeSets :=
      [{ id := "1"
         author := "a \"b\""
         filePath := "main"
         runAlways := false
         runOnChange := false
         context := none
         labels := []
         dbms := []
         runInTransaction := true
         failOnError := none
         onValidationFail := .halt
         quotingStrategy := none
         comments := some "\\\n"
         validChecksums := []
         preconditions := none
         changes :=
           [{ Change.ofKind .addColumn (.ofList [("tableName", .string "t"), ("x", .null)]) with
              columns := [⟨.empty, constraints⟩] }]
         rollback := []
         sqlAdjustments := [⟨.replace "a" "b", [], none, [], true⟩] }] }

def repeatedName : Document :=
  documentWith (some (.ofList [("unique", .bool true), ("n", .int 1), ("unique", .null)]))

def singleName : Document := documentWith (some (.ofList [("unique", .null), ("n", .int 1)]))

theorem jsonReport_repeatedName : jsonReport repeatedName = jsonReport singleName := by
  have hjson : Json.ofDocument repeatedName = Json.ofDocument singleName := by rfl
  rw [jsonReport, jsonReport, hjson]

theorem jsonReport_inj_repeatedName :
    (repeatedName.floatFree = true ∧ singleName.floatFree = true ∧
      jsonReport repeatedName = jsonReport singleName) ∧ repeatedName = singleName := by
  have hrepeated : repeatedName.floatFree = true := by decide +kernel
  have hsingle : singleName.floatFree = true := by decide +kernel
  exact ⟨⟨hrepeated, hsingle, jsonReport_repeatedName⟩,
    jsonReport_inj hrepeated hsingle jsonReport_repeatedName⟩

end Changelog
