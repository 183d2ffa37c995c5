import Changelog.Proofs.Build.Change
import Changelog.Proofs.Build.Schema
import Changelog.Proofs.Value.OrderedMap

/-!
# Constraints of a column

A column may have its constraints in any number of elements.  They are taken together as one: the names in
the order they are first written, each with what is written for it last.
-/

namespace Changelog

/-- An element with constraints of a column, all of them named. -/
structure Element.HoldsConstraints (e : Element) : Prop where
  name : e.name = "constraints"
  args : e.args = []

def mergedAttributes (first : Element) (others : List Element) : Attributes :=
  others.foldl (fun a e => a.extend e.attributes) first.attributes

theorem mergedAttributes_eq (first : Element) (others : List Element) :
    mergedAttributes first others = .ofList ((first :: others).flatMap (·.attributes.entries)) := by
  have hfold : ∀ (a : Attributes), others.foldl (fun a e => a.extend e.attributes) a =
      a.insertAll (others.flatMap (·.attributes.entries)) := by
    induction others with
    | nil => exact fun _ => rfl
    | cons e rest ih =>
      intro a
      rw [List.foldl_cons, ih, List.flatMap_cons, Attributes.insertAll_append]
      rfl
  rw [mergedAttributes, hfold, List.flatMap_cons, Attributes.ofList, Attributes.insertAll_append]
  have hself : Attributes.empty.insertAll first.attributes.entries = first.attributes :=
    Attributes.ofList_entries first.attributes
  rw [hself]

namespace Build

variable {site : Site} {kind : ChangeKind}

theorem addConstraints_block {e : Element} (h : e.HoldsConstraints) (held : Option Attributes) :
    addConstraints site held e =
      (checkAttributes "constraints" e.attributes constraintAttributes site.context >>= fun _ =>
        .ok (some ((held.getD .empty).extend (site.expander.attributes e.attributes)))) := by
  rw [addConstraints, if_neg (not_not.2 h.name), h.args]
  rfl

/-- Names that are written before are not asked for again: attributes taken together are refused for the
same name as one after the other. -/
theorem checkAttributes_extend (element context : String) (a b : Attributes) (allowed : List String) :
    checkAttributes element (a.extend b) allowed context =
      (checkAttributes element a allowed context >>= fun _ =>
        checkAttributes element b allowed context) := by
  unfold checkAttributes
  rw [Attributes.keys_extend, List.find?_append]
  cases hfirst : a.keys.find? fun key => !allowed.contains key with
  | some key => rfl
  | none =>
    have hallowed : ∀ key ∈ a.keys, key ∈ allowed := by
      simpa [List.find?_eq_none] using hfirst
    have hrest : (b.keys.filter (· ∉ a.keys)).find? (fun key => !allowed.contains key) =
        b.keys.find? fun key => !allowed.contains key := by
      rw [List.find?_filter]
      congr 1
      funext key
      by_cases hkey : key ∈ a.keys
      · simp [hkey, hallowed key hkey]
      · simp [hkey]
    rw [hrest]
    rfl

theorem addConstraints_merge {x y both : Element} (hx : x.HoldsConstraints) (hy : y.HoldsConstraints)
    (hboth : both.HoldsConstraints) (hattributes : both.attributes = x.attributes.extend y.attributes)
    (held : Option Attributes) :
    (addConstraints site held x >>= fun next => addConstraints site next y) =
      addConstraints site held both := by
  rw [addConstraints_block hx, addConstraints_block hboth, hattributes, checkAttributes_extend,
    Expander.attributes, Expander.attributes, Attributes.mapValues_extend, ← Attributes.extend_assoc]
  cases checkAttributes "constraints" x.attributes constraintAttributes site.context with
  | error c => rfl
  | ok u =>
    rw [ok_bind, ok_bind, ok_bind, addConstraints_block hy]
    rfl

theorem foldlM_addConstraints_merge {x y both : Element} (hx : x.HoldsConstraints)
    (hy : y.HoldsConstraints) (hboth : both.HoldsConstraints)
    (hattributes : both.attributes = x.attributes.extend y.attributes) (before after : List Element)
    (held : Option Attributes) :
    (before ++ x :: y :: after).foldlM (addConstraints site) held =
      (before ++ both :: after).foldlM (addConstraints site) held := by
  rw [List.foldlM_append, List.foldlM_append]
  congr 1
  funext next
  rw [List.foldlM_cons, List.foldlM_cons, ← addConstraints_merge hx hy hboth hattributes, bind_assoc]
  rfl

/-- Any number of elements with constraints are as good as one with all of them. -/
theorem foldlM_addConstraints_whole {first whole : Element} {others : List Element}
    (h : ∀ e ∈ first :: others, e.HoldsConstraints) (hwhole : whole.HoldsConstraints)
    (hattributes : whole.attributes = mergedAttributes first others) (held : Option Attributes) :
    (first :: others).foldlM (addConstraints site) held = addConstraints site held whole := by
  obtain ⟨hfirst, hothers⟩ := List.forall_mem_cons.1 h
  induction others generalizing first with
  | nil =>
    have hsame : whole.attributes = first.attributes := hattributes
    rw [List.foldlM_cons, addConstraints_block hfirst, addConstraints_block hwhole, hsame]
    exact bind_pure _
  | cons second rest ih =>
    obtain ⟨hsecond, hrest⟩ := List.forall_mem_cons.1 hothers
    -- The first two are taken together, and there is one element less.
    let both : Element := { first with attributes := first.attributes.extend second.attributes }
    have hboth : both.HoldsConstraints := ⟨hfirst.name, hfirst.args⟩
    have hmerge : (first :: second :: rest).foldlM (addConstraints site) held =
        (both :: rest).foldlM (addConstraints site) held :=
      foldlM_addConstraints_merge hfirst hsecond hboth rfl [] rest held
    rw [hmerge]
    exact ih (List.forall_mem_cons.2 ⟨hboth, hrest⟩) hattributes hboth hrest

theorem within_mergedAttributes {first : Element} {others : List Element} {allowed : List String} :
    (mergedAttributes first others).Within allowed ↔
      ∀ e ∈ first :: others, e.attributes.Within allowed := by
  rw [mergedAttributes_eq, Attributes.Within, Attributes.keys_ofList]
  simp only [Attributes.mem_firstNames, List.map_flatMap, List.mem_flatMap]
  exact ⟨fun h e he key hkey => h key ⟨e, he, hkey⟩, fun h key ⟨e, he, hkey⟩ => h e he key hkey⟩

/-! ### All elements of a column -/

def mergedConstraints (expander : Expander) : List Element → Option Attributes
  | [] => none
  | first :: others => some (expander.attributes (mergedAttributes first others))

theorem foldlM_addConstraints_eq_ok_iff {children : List Element} {constraints : Option Attributes}
    (h : ∀ e ∈ children, e.HoldsConstraints) :
    children.foldlM (addConstraints site) none = .ok constraints ↔
      (∀ e ∈ children, e.attributes.Within constraintAttributes) ∧
        constraints = mergedConstraints site.expander children := by
  cases children with
  | nil => simp [mergedConstraints, pure, Except.pure, eq_comm]
  | cons first others =>
    let whole : Element := { first with attributes := mergedAttributes first others }
    obtain ⟨hfirst, -⟩ := List.forall_mem_cons.1 h
    have hwhole : whole.HoldsConstraints := ⟨hfirst.name, hfirst.args⟩
    have hwithin := checkAttributes_eq_ok_iff "constraints" (mergedAttributes first others)
      constraintAttributes site.context
    rw [foldlM_addConstraints_whole h hwhole rfl, addConstraints_block hwhole,
      ← within_mergedAttributes, Option.getD_none, Attributes.extend_empty]
    constructor
    · intro hok
      obtain ⟨u, hu, hnext⟩ := bind_eq_ok hok
      exact ⟨hwithin.1 hu, (Except.ok.inj hnext).symm⟩
    · rintro ⟨hallowed, rfl⟩
      rw [hwithin.2 hallowed]
      rfl

theorem column_congr {e : Element} {children : List Element}
    (h : children.foldlM (addConstraints site) none = e.children.foldlM (addConstraints site) none) :
    column site kind { e with children := children } = column site kind e := by
  unfold column
  rw [h]

theorem records_mergedConstraints {expander : Expander} {children : List Element} {a : Attributes}
    (h : mergedConstraints expander children = some a) :
    a.Records (children.flatMap fun e =>
      e.attributes.entries.map fun entry => (entry.1, expander.value entry.2)) := by
  cases children with
  | nil => nomatch h
  | cons first others =>
    obtain rfl := Option.some.inj h
    have hexpanded : expander.attributes (mergedAttributes first others) = .ofList
        (((first :: others).flatMap (·.attributes.entries)).map fun entry =>
          (entry.1, expander.value entry.2)) := by
      rw [mergedAttributes_eq]
      exact Attributes.mapValues_insertAll expander.value .empty _
    rw [hexpanded, List.map_flatMap]
    exact Attributes.records_ofList _

/-- A column that a change takes, with its constraints in any number of elements, is built exactly if the
column and each of them have only names that are allowed.  It has no constraints exactly if it has no such
element, and else those of one element that all of them were merged into; merging any two neighbours
changes nothing, whether the column is built or refused. -/
theorem column_of_constraints (site : Site) (kind : ChangeKind) (e : Element)
    (h : ∀ child ∈ e.children, child.HoldsConstraints) :
    (∀ change : Change, change.kind = kind → kind.takesColumns = true → e.name = "column" →
      addPart site change e = (column site kind e).map fun c =>
        { change with columns := change.columns ++ [c] }) ∧
    ((∃ c, column site kind e = .ok c) ↔
      (e.attributes.Within kind.columnAttributes ∧ e.args = []) ∧
        ∀ child ∈ e.children, child.attributes.Within constraintAttributes) ∧
    (∀ c, column site kind e = .ok c →
      c.attributes = site.expander.attributes e.attributes ∧
      (c.constraints = none ↔ e.children = []) ∧
      ∀ a ∈ c.constraints, a.Records (e.children.flatMap fun child =>
        child.attributes.entries.map fun entry => (entry.1, site.expander.value entry.2))) ∧
    (∀ first others whole, e.children = first :: others → whole.HoldsConstraints →
      whole.attributes = mergedAttributes first others →
      column site kind { e with children := [whole] } = column site kind e) ∧
    ∀ before x y after both, e.children = before ++ x :: y :: after → both.HoldsConstraints →
      both.attributes = x.attributes.extend y.attributes →
      column site kind { e with children := before ++ both :: after } = column site kind e := by
  refine ⟨?_, ?_, fun c hc => ?_, ?_, ?_⟩
  · rintro change rfl hcolumns hname
    exact addPart_of_column hcolumns hname
  · constructor
    · rintro ⟨c, hc⟩
      obtain ⟨hallowed, hargs, constraints, hconstraints, -⟩ := column_eq_ok_iff.1 hc
      exact ⟨⟨hallowed, hargs⟩, ((foldlM_addConstraints_eq_ok_iff h).1 hconstraints).1⟩
    · rintro ⟨⟨hallowed, hargs⟩, hchildren⟩
      have hconstraints : e.children.foldlM (addConstraints site) none =
          .ok (mergedConstraints site.expander e.children) :=
        (foldlM_addConstraints_eq_ok_iff h).2 ⟨hchildren, rfl⟩
      exact ⟨_, column_eq_ok_iff.2 ⟨hallowed, hargs, _, hconstraints, rfl⟩⟩
  · obtain ⟨-, -, constraints, hconstraints, rfl⟩ := column_eq_ok_iff.1 hc
    obtain ⟨-, rfl⟩ := (foldlM_addConstraints_eq_ok_iff h).1 hconstraints
    refine ⟨rfl, ?_, fun a ha => records_mergedConstraints ha⟩
    show mergedConstraints site.expander e.children = none ↔ e.children = []
    cases e.children <;> simp [mergedConstraints]
  · intro first others whole hchildren hwhole hattributes
    refine column_congr ?_
    rw [hchildren] at h ⊢
    rw [foldlM_addConstraints_whole h hwhole hattributes, List.foldlM_cons]
    exact bind_pure _
  · intro before x y after both hchildren hboth hattributes
    refine column_congr ?_
    have hx : x.HoldsConstraints := h x (hchildren ▸ by simp)
    have hy : y.HoldsConstraints := h y (hchildren ▸ by simp)
    rw [hchildren, foldlM_addConstraints_merge hx hy hboth hattributes]

def constraintsElement (entries : List (String × Value)) : Element :=
  .made "constraints" (.ofList entries) [] []

def keyColumn : Element :=
  .made "column" (.ofList [("name", .string "id")]) []
    [constraintsElement [("nullable", .bool false), ("primaryKeyName", .string "first")],
     constraintsElement [("primaryKey", .bool true)],
     constraintsElement [("primaryKeyName", .string "$\x7bs\x7d_pk"), ("nullable", .bool true)]]

def keySite : Site :=
  ⟨⟨⟨[⟨"s", "app", none, none, none, true, "main"⟩]⟩, "main", .any⟩, "main"⟩

theorem holdsConstraints_made (entries : List (String × Value)) :
    (constraintsElement entries).HoldsConstraints :=
  ⟨rfl, rfl⟩

def keyConstraints : Element :=
  constraintsElement [("nullable", .bool true), ("primaryKeyName", .string "$\x7bs\x7d_pk"),
    ("primaryKey", .bool true)]

theorem column_of_constraints_overlapping :
    (∀ child ∈ keyColumn.children, child.HoldsConstraints) ∧
    ∃ c a, column keySite .createTable keyColumn = .ok c ∧ c.constraints = some a ∧
      a.keys = ["nullable", "primaryKeyName", "primaryKey"] ∧
      a.get? "primaryKeyName" = some (.string "app_pk") ∧
      column keySite .createTable { keyColumn with children := [keyConstraints] } = .ok c := by
  have hchildren : ∀ child ∈ keyColumn.children, child.HoldsConstraints := by
    simp [keyColumn, Element.made, holdsConstraints_made]
  obtain ⟨-, -, -, hwhole, -⟩ := column_of_constraints keySite .createTable keyColumn hchildren
  have hmerged : keyConstraints.attributes =
      mergedAttributes (keyColumn.children.head (by decide)) keyColumn.children.tail := by
    with_unfolding_all rfl
  have hsingle := hwhole _ _ keyConstraints rfl (holdsConstraints_made _) hmerged
  have hbuilt : ∃ c a, column keySite .createTable keyColumn = .ok c ∧ c.constraints = some a ∧
      a.keys = ["nullable", "primaryKeyName", "primaryKey"] ∧
      a.get? "primaryKeyName" = some (.string "app_pk") := by
    with_unfolding_all exact ⟨_, _, rfl, rfl, rfl, rfl⟩
  obtain ⟨c, a, hc, ha, hkeys, hvalue⟩ := hbuilt
  exact ⟨hchildren, c, a, hc, ha, hkeys, hvalue, hsingle.trans hc⟩

end Build

end Changelog
