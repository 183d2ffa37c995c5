import Changelog.Resource.Memory
import Changelog.Proofs.Build.Checks
import Changelog.Proofs.Loading.Position

/-!
# Unknown attributes

Every builder checks the attributes of an element before it does anything with them.  So an attribute that
no element knows is refused wherever it is written, and the error names it and its element.
-/

namespace Changelog

open Build

/-- The attributes that elements may have, one list for each kind of element that has any. -/
def allowLists : List (List String) :=
  [rootAttributes, changeSetAttributes, preconditionsAttributes, propertyAttributes, includeAttributes,
    includeAllAttributes, rollbackAttributes, modifySqlAttributes, columnAttributes,
    loadDataColumnAttributes, constraintAttributes, parameterAttributes, argumentAttributes] ++
  (Named.all (α := SqlEditKind)).map SqlEditKind.attributes ++ ChangeKind.all.map ChangeKind.attributes ++
  CheckKind.all.map CheckKind.attributes

def Unlisted (key : String) : Prop := ∀ allowed ∈ allowLists, key ∉ allowed

def NamesAttribute (element key : String) (c : ChangelogError) : Prop :=
  ∃ context, c = .unknownAttribute element key context

mutual

/-- Whether, all through a tree, the elements that look at nothing inside them have nothing inside. -/
def Element.tidy : Element → Bool
  | ⟨name, _, _, children, _⟩ => (children.isEmpty || !blocklessNames.contains name) && tidyAll children

def tidyAll : List Element → Bool
  | [] => true
  | e :: rest => e.tidy && tidyAll rest

end

theorem tidyAll_append (elements more : List Element) :
    tidyAll (elements ++ more) = (tidyAll elements && tidyAll more) := by
  induction elements with
  | nil => rfl
  | cons e rest ih => rw [List.cons_append, tidyAll, ih, tidyAll, Bool.and_assoc]

theorem names_of_tidy {position : Position} {e : Element} (h : (position.fill e).tidy = true) :
    ∀ name ∈ position.names, name ∉ blocklessNames := by
  induction position with
  | nil => exact List.forall_mem_nil _
  | cons s position ih =>
    have hself : (s.around (Position.fill position e)).tidy = true := h
    rw [Surrounding.around, Element.tidy, tidyAll_append, tidyAll] at hself
    simp only [Bool.and_eq_true, Bool.or_eq_true, List.isEmpty_iff, List.append_eq_nil_iff,
      reduceCtorEq, and_false, false_or] at hself
    obtain ⟨hname, -, hinner, -⟩ := hself
    refine List.forall_mem_cons.2 ⟨?_, ih hinner⟩
    simpa using hname

namespace Build

theorem attributes_edit_mem (kind : SqlEditKind) : kind.attributes ∈ allowLists := by
  cases kind <;> simp [allowLists, Named.all]

theorem attributes_change_mem (kind : ChangeKind) : kind.attributes ∈ allowLists := by
  have hmem := List.mem_map_of_mem (f := ChangeKind.attributes) kind.mem_all
  exact List.mem_append_left _ (List.mem_append_right _ hmem)

theorem attributes_check_mem (kind : CheckKind) : kind.attributes ∈ allowLists := by
  have hmem := List.mem_map_of_mem (f := CheckKind.attributes) kind.mem_all
  exact List.mem_append_right _ hmem

section Added

variable {a a' : Attributes} {before after : List (String × Value)} {key : String} {value : Value}
  (hentries : a.entries = before ++ after) (hadded : a'.entries = before ++ (key, value) :: after)

include hentries hadded

theorem checkAttributes_added {allowed : List String} (hkey : key ∉ allowed) {element context : String}
    {u : Unit} (h : checkAttributes element a allowed context = .ok u) (context' : String) :
    checkAttributes element a' allowed context' = .error (.unknownAttribute element key context') := by
  have hallowed : ∀ k ∈ before.map Prod.fst, k ∈ allowed := by
    intro k hk
    refine (checkAttributes_eq_ok_iff element a allowed context).1 h k ?_
    rw [Attributes.keys, hentries, List.map_append]
    exact List.mem_append_left _ hk
  have hfirst : a'.keys.find? (fun k => !allowed.contains k) = some key := by
    rw [List.find?_eq_some_iff_append]
    refine ⟨by simpa using hkey, before.map Prod.fst, after.map Prod.fst, ?_, ?_⟩
    · rw [Attributes.keys, hadded, List.map_append, List.map_cons]
    · intro k hk
      simpa using hallowed k hk
  rw [checkAttributes, hfirst]

theorem refuses_check {allowed : List String} (hkey : key ∉ allowed) {β : Type}
    (element context context' : String) (k k' : Unit → Except ChangelogError β) :
    Refuses (NamesAttribute element key) β (checkAttributes element a allowed context >>= k)
      (checkAttributes element a' allowed context' >>= k') := by
  intro b hb
  obtain ⟨u, hu, -⟩ := bind_eq_ok hb
  rw [checkAttributes_added hentries hadded hkey hu context']
  exact ⟨_, rfl, context', rfl⟩

theorem refuses_renamed {old : String} (hold : old ≠ key) {reason : ChangelogError → Prop} {β : Type}
    (element replacement context context' : String) {k k' : Unit → Except ChangelogError β}
    (hk : Refuses reason β (k ()) (k' ())) :
    Refuses reason β (rejectRenamed element a old replacement context >>= k)
      (rejectRenamed element a' old replacement context' >>= k') := by
  intro b hb
  obtain ⟨u, hu, hb⟩ := bind_eq_ok hb
  have habsent := (rejectRenamed_eq_ok_iff element a old replacement context).1 hu
  have habsent' : old ∉ a'.keys := by
    rw [Attributes.keys, hentries, List.map_append] at habsent
    rw [Attributes.keys, hadded, List.map_append, List.map_cons]
    simp only [List.mem_append, List.mem_cons, not_or] at habsent ⊢
    exact ⟨habsent.1, hold, habsent.2⟩
  rw [(rejectRenamed_eq_ok_iff element a' old replacement context').2 habsent']
  exact hk b hb

end Added

/-- With one more attribute, which no element knows, an element is refused wherever it stands. -/
theorem everywhere_of_attribute {e : Element} {a' : Attributes} {before after : List (String × Value)}
    {key : String} {value : Value} (hentries : e.attributes.entries = before ++ after)
    (hadded : a'.entries = before ++ (key, value) :: after) (hkey : Unlisted key)
    (hrenamed : key ≠ "alwaysRun") :
    Everywhere (Refuses (NamesAttribute e.name key)) e { e with attributes := a' } := by
  have hR := lifts_refuses (NamesAttribute e.name key)
  refine everywhere_of_builders hR rfl fun α build hbuild => ?_
  obtain ⟨name, attributes, args, children, line⟩ := e
  dsimp only at hR hentries
  -- No builder but those that look for a renamed attribute does anything before this check.
  have hcheck : ∀ allowed ∈ allowLists, ∀ {β context context'} (k k' : Unit → Except ChangelogError β),
      Refuses (NamesAttribute name key) β (checkAttributes name attributes allowed context >>= k)
        (checkAttributes name a' allowed context' >>= k') :=
    fun allowed hlisted β context context' k k' =>
      refuses_check hentries hadded (hkey allowed hlisted) name context context' k k'
  cases hbuild with
  | root workspace load table path => exact hR.bind _ (hcheck rootAttributes (by simp [allowLists]) _ _)
  | changeSet expander d =>
    refine refuses_renamed hentries hadded hrenamed.symm _ _ _ _ ?_
    exact hcheck changeSetAttributes (by simp [allowLists]) _ _
  | container site => exact hcheck preconditionsAttributes (by simp [allowLists]) _ _
  | property accessor site => exact hcheck propertyAttributes (by simp [allowLists]) _ _
  | includeFile accessor site =>
    have hpath : "path" ≠ key := by
      rintro rfl
      exact hkey includeAllAttributes (by simp [allowLists]) (by decide)
    refine refuses_renamed hentries hadded hpath _ _ _ _ ?_
    exact hcheck includeAttributes (by simp [allowLists]) _ _
  | includeAll workspace site => exact hcheck includeAllAttributes (by simp [allowLists]) _ _
  | text site htext => exact refuses_check hentries hadded List.not_mem_nil _ _ _ _ _
  | rollback site d => exact hcheck rollbackAttributes (by simp [allowLists]) _ _
  | modifySql site => exact hcheck modifySqlAttributes (by simp [allowLists]) _ _
  | edit site kind => exact hcheck kind.attributes (attributes_edit_mem kind) _ _
  | change site kind => exact hcheck kind.attributes (attributes_change_mem kind) _ _
  | column site kind =>
    have hlisted : kind.columnAttributes ∈ allowLists := by
      unfold ChangeKind.columnAttributes
      split <;> simp [allowLists]
    exact hcheck kind.columnAttributes hlisted _ _
  | constraints site held => exact hcheck constraintAttributes (by simp [allowLists]) _ _
  | parameter site => exact hcheck parameterAttributes (by simp [allowLists]) _ _
  | argument site => exact hcheck argumentAttributes (by simp [allowLists]) _ _
  | combination site how => exact refuses_check hentries hadded List.not_mem_nil _ _ _ _ _
  | check site kind => exact hcheck kind.attributes (attributes_check_mem kind) _ _

end Build

/-! ### Attributes added in a tree -/

/-- An attribute that no element knows is refused wherever it is added in a tree that loads, and the error
names it and the element that it was added to. -/
theorem unknownAttribute_of_added {workspace : Workspace} {path : String} {position : Position} {e : Element}
    {added : Attributes} {before after : List (String × Value)} {key : String} {value : Value}
    {d : Document} (htidy : (position.fill e).tidy = true) (hentries : e.attributes.entries = before ++ after)
    (hadded : added.entries = before ++ (key, value) :: after) (hkey : Unlisted key)
    (hrenamed : key ≠ "alwaysRun") (h : workspace.loadElement (position.fill e) path = .ok d) :
    ∃ context, workspace.loadElement (position.fill { e with attributes := added }) path =
      .error (.unknownAttribute e.name key context) := by
  have hR := lifts_refuses (NamesAttribute e.name key)
  have hself := everywhere_of_attribute hentries hadded hkey hrenamed
  have htree := everywhere_fill hR hself (names_of_tidy htidy)
  let e' : Element := { e with attributes := added }
  have hselfName : e'.name = e.name := rfl
  have hselfArgs : e'.args = e.args := rfl
  have hname := Position.name_fill hselfName position
  have hargs := Position.args_fill hselfArgs position
  obtain ⟨c, hc, context, rfl⟩ := loadElement_of_everywhere hR htree hname hargs workspace path d h
  exact ⟨context, hc⟩

def columnElement (entries : List (String × Value)) : Element :=
  ⟨"column", .ofList entries, [], [], 1⟩

def columnPosition : Position := [
  ⟨"databaseChangeLog", .empty, [], [], [], 1⟩,
  ⟨"changeSet", .empty, [], [], [], 1⟩,
  ⟨"addColumn", .empty, [], [], [], 1⟩]

theorem unknownAttribute_of_added_column :
    ∃ d context, (columnPosition.fill (columnElement [("name", .string "c")])).tidy = true ∧
      Unlisted "colour" ∧
      Workspace.loadElement ⟨MemoryResources.accessor ⟨[], []⟩, .empty, {}⟩
        (columnPosition.fill (columnElement [("name", .string "c")])) "main" = .ok d ∧
      Workspace.loadElement ⟨MemoryResources.accessor ⟨[], []⟩, .empty, {}⟩
        (columnPosition.fill (columnElement [("colour", .string "red"), ("name", .string "c")])) "main" =
        .error (.unknownAttribute "column" "colour" context) := by
  have htidy : (columnPosition.fill (columnElement [("name", .string "c")])).tidy = true := by
    decide
  have hkey : Unlisted "colour" := by
    unfold Unlisted
    decide
  have hload : ∃ d, Workspace.loadElement ⟨MemoryResources.accessor ⟨[], []⟩, .empty, {}⟩
      (columnPosition.fill (columnElement [("name", .string "c")])) "main" = .ok d := by
    with_unfolding_all exact ⟨_, rfl⟩
  obtain ⟨d, hd⟩ := hload
  have hentries : (Attributes.ofList [("name", .string "c")]).entries =
      [] ++ [("name", .string "c")] := by
    with_unfolding_all rfl
  have hadded : (Attributes.ofList [("colour", .string "red"), ("name", .string "c")]).entries =
      [] ++ ("colour", .string "red") :: [("name", .string "c")] := by
    with_unfolding_all rfl
  have hrenamed : "colour" ≠ "alwaysRun" := by decide
  obtain ⟨context, hcontext⟩ := unknownAttribute_of_added htidy hentries hadded hkey hrenamed hd
  exact ⟨d, context, htidy, hkey, hd, hcontext⟩

end Changelog
