import Changelog.Proofs.Build.Checks
import Changelog.Proofs.Document.Schema
import Changelog.Proofs.Value.Names

/-!
# What is built follows the schema

Each builder checks an element before it takes anything from it, so that whatever it gives has only the
attributes and parts that its kind allows.
-/

namespace Changelog

namespace Build

theorem mem_keys_insertAll {a : Attributes} {entries : List (String × Value)} {key : String}
    (h : key ∈ (a.insertAll entries).keys) : key ∈ a.keys ∨ key ∈ entries.map Prod.fst := by
  rw [Attributes.keys_insertAll, List.mem_append, List.mem_filter, Attributes.mem_firstNames] at h
  exact h.imp_right And.left

section Attributes

variable {a b : Attributes} {allowed : List String}

theorem within_extend (ha : a.Within allowed) (hb : b.Within allowed) : (a.extend b).Within allowed := by
  intro key hkey
  rcases mem_keys_insertAll hkey with hkey | hkey
  · exact ha key hkey
  · exact hb key hkey

theorem within_expanded (e : Expander) (h : a.Within allowed) : (e.attributes a).Within allowed := by
  intro key hkey
  rw [Expander.attributes, Attributes.keys_mapValues] at hkey
  exact h key hkey

theorem within_of_checkAttributes {element context : String} {u : Unit}
    (h : checkAttributes element a allowed context = .ok u) : a.Within allowed :=
  (checkAttributes_eq_ok_iff element a allowed context).1 h

theorem isItem_of_mem_namesOf {key name : String} (h : name ∈ namesOf a key) : IsItem name := by
  unfold namesOf at h
  split at h
  · exact Value.isItem_of_mem_names h
  · nomatch h

end Attributes

section Parts

variable {site : Site} {e : Element}

/-! ### Changes -/

theorem fits_of_part? {kind : ChangeKind} {name : String} {part : ChangePart}
    (h : kind.part? name = some part) : part.fits kind = true := by
  rw [ChangeKind.part?, Option.filter_eq_some_iff] at h
  exact h.2

theorem addConstraints_within {constraints next : Option Attributes}
    (hc : ∀ a ∈ constraints, a.Within constraintAttributes)
    (h : addConstraints site constraints e = .ok next) :
    ∀ a ∈ next, a.Within constraintAttributes := by
  unfold addConstraints at h
  split at h
  · nomatch h
  · obtain ⟨_, hattributes, h⟩ := bind_eq_ok h
    obtain ⟨_, -, h⟩ := bind_eq_ok h
    obtain rfl := Except.ok.inj h
    have hexpanded := within_expanded site.expander (within_of_checkAttributes hattributes)
    rintro a ⟨⟩
    refine within_extend ?_ hexpanded
    cases constraints with
    | none => exact within_empty _
    | some held => exact hc held rfl

theorem column_eq_ok_iff {kind : ChangeKind} {c : Column} :
    column site kind e = .ok c ↔
      e.attributes.Within kind.columnAttributes ∧ e.args = [] ∧
        ∃ constraints, e.children.foldlM (addConstraints site) none = .ok constraints ∧
          c = ⟨site.expander.attributes e.attributes, constraints⟩ := by
  have hwithin := checkAttributes_eq_ok_iff "column" e.attributes kind.columnAttributes site.context
  have hargs := rejectPositional_eq_ok_iff e.name e.args site.context
  constructor
  · intro hok
    unfold column at hok
    obtain ⟨u, hu, hok⟩ := bind_eq_ok hok
    obtain ⟨w, hw, hok⟩ := bind_eq_ok hok
    obtain ⟨constraints, hconstraints, hok⟩ := bind_eq_ok hok
    exact ⟨hwithin.1 hu, hargs.1 hw, constraints, hconstraints, (Except.ok.inj hok).symm⟩
  · rintro ⟨hallowed, hnone, constraints, hconstraints, rfl⟩
    rw [column, hwithin.2 hallowed, ok_bind, hargs.2 hnone, ok_bind, hconstraints, ok_bind]
    rfl

theorem column_fits {kind : ChangeKind} {c : Column} (h : column site kind e = .ok c) :
    c.Fits kind := by
  obtain ⟨hattributes, -, constraints, hconstraints, rfl⟩ := column_eq_ok_iff.1 h
  refine ⟨within_expanded _ hattributes, ?_⟩
  exact foldlM_keeps (fun _ _ _ hc hnext => addConstraints_within hc hnext) (by nofun) hconstraints

theorem addPart_fits {c next : Change} (hc : c.Fits) (h : addPart site c e = .ok next) : next.Fits := by
  unfold addPart at h
  cases hpart : c.kind.part? e.name with
  | none =>
    rw [hpart] at h
    nomatch h
  | some part =>
    have hfits := fits_of_part? hpart
    rw [hpart] at h
    cases part with
    | column =>
      obtain ⟨col, hcol, h⟩ := bind_eq_ok h
      obtain rfl := Except.ok.inj h
      refine { hc with columns := List.forall_mem_append.2 ⟨hc.columns, ?_⟩ }
      exact List.forall_mem_singleton.2 ⟨hfits, column_fits hcol⟩
    | condition =>
      obtain ⟨text, -, h⟩ := bind_eq_ok h
      obtain rfl := Except.ok.inj h
      exact { hc with condition := fun _ _ => hfits }
    | comment =>
      obtain ⟨text, -, h⟩ := bind_eq_ok h
      obtain rfl := Except.ok.inj h
      exact { hc with comment := fun _ _ => hfits }
    | parameter =>
      obtain ⟨p, -, h⟩ := bind_eq_ok h
      obtain rfl := Except.ok.inj h
      exact { hc with params := fun _ _ => hfits }
    | argument =>
      obtain ⟨text, -, h⟩ := bind_eq_ok h
      obtain rfl := Except.ok.inj h
      exact { hc with args := fun _ _ => hfits }

theorem takesText_of_changeText {kind : ChangeKind} {text : Option String}
    (h : changeText site kind e = .ok text) : ∀ t ∈ text, kind.takesText = true := by
  unfold changeText at h
  split at h
  · next htakes => exact fun _ _ => htakes
  · obtain ⟨_, -, rfl⟩ := map_eq_ok h
    nofun

theorem change_fits {kind : ChangeKind} {c : Change} (h : change site kind e = .ok c) : c.Fits := by
  obtain ⟨_, hattributes, h⟩ := bind_eq_ok h
  obtain ⟨text, htext, h⟩ := bind_eq_ok h
  refine foldlM_keeps (fun _ _ _ hc hnext => addPart_fits hc hnext) ?_ h
  exact ⟨within_expanded _ (within_of_checkAttributes hattributes), takesText_of_changeText htext,
    List.forall_mem_nil _, by nofun, by nofun, List.forall_mem_nil _, List.forall_mem_nil _⟩

theorem changeOf_valid {parent : String} {c : Change} (h : changeOf site parent e = .ok c) :
    c.Valid := by
  unfold changeOf at h
  split at h
  · exact (change_fits h).valid
  · nomatch h

/-! ### Preconditions -/

theorem query_isSome_iff {kind : CheckKind} {sql : Option String} (h : query site kind e = .ok sql) :
    sql.isSome = true ↔ kind = .sqlCheck := by
  unfold query at h
  split at h
  · next hkind =>
    split at h
    · split at h
      · obtain rfl := Except.ok.inj h
        exact iff_of_true rfl hkind
      · nomatch h
    · nomatch h
  · next hkind =>
    obtain ⟨_, -, rfl⟩ := map_eq_ok h
    exact iff_of_false Bool.false_ne_true hkind

theorem addCheckPart_fits {c next : Check} (hc : c.Fits) (h : addCheckPart site c e = .ok next) :
    next.Fits := by
  unfold addCheckPart at h
  split at h
  · next hkind =>
    obtain ⟨p, -, h⟩ := bind_eq_ok h
    obtain rfl := Except.ok.inj h
    exact { hc with params := fun _ _ => hkind.1 }
  · nomatch h

theorem check_fits {kind : CheckKind} {c : Check} (h : check site kind e = .ok c) : c.Fits := by
  obtain ⟨_, hattributes, h⟩ := bind_eq_ok h
  obtain ⟨sql, hsql, h⟩ := bind_eq_ok h
  refine foldlM_keeps (fun _ _ _ hc hnext => addCheckPart_fits hc hnext) ?_ h
  exact ⟨within_expanded _ (within_of_checkAttributes hattributes), query_isSome_iff hsql,
    List.forall_mem_nil _⟩

mutual

theorem precondition_valid {parent : String} (e : Element) {p : Precondition}
    (h : precondition site parent e = .ok p) : ∀ c ∈ p.checks, c.Valid := by
  obtain ⟨name, attributes, args, children, line⟩ := e
  rw [precondition] at h
  split at h
  · obtain ⟨_, -, h⟩ := bind_eq_ok h
    obtain ⟨_, -, h⟩ := bind_eq_ok h
    obtain ⟨nested, hnested, h⟩ := bind_eq_ok h
    obtain rfl := Except.ok.inj h
    exact preconditions_valid children hnested
  · split at h
    · obtain ⟨c, hcheck, rfl⟩ := map_eq_ok h
      intro other hother
      obtain rfl := List.mem_singleton.1 hother
      exact (check_fits hcheck).valid
    · nomatch h

theorem preconditions_valid {parent : String} (elements : List Element) {ps : List Precondition}
    (h : preconditions site parent elements = .ok ps) :
    ∀ c ∈ Precondition.checksOfAll ps, c.Valid := by
  cases elements with
  | nil =>
    obtain rfl : [] = ps := Except.ok.inj h
    exact List.forall_mem_nil _
  | cons e rest =>
    rw [preconditions] at h
    obtain ⟨p, hp, h⟩ := bind_eq_ok h
    obtain ⟨others, hothers, h⟩ := bind_eq_ok h
    obtain rfl := Except.ok.inj h
    intro c hc
    rcases List.mem_append.1 hc with hc | hc
    · exact precondition_valid e hp c hc
    · exact preconditions_valid rest hothers c hc

end

theorem container_valid {p : Preconditions} (h : container site e = .ok p) : p.Valid := by
  obtain ⟨_, -, h⟩ := bind_eq_ok h
  obtain ⟨_, -, h⟩ := bind_eq_ok h
  obtain ⟨onFail, -, h⟩ := bind_eq_ok h
  obtain ⟨onError, -, h⟩ := bind_eq_ok h
  obtain ⟨onSqlOutput, -, h⟩ := bind_eq_ok h
  obtain ⟨nested, hnested, h⟩ := bind_eq_ok h
  obtain rfl := Except.ok.inj h
  exact preconditions_valid e.children hnested

/-! ### Rollbacks and adjustments of SQL -/

theorem ofSql_fits (sql : String) : (Change.ofSql sql).Fits :=
  ⟨within_empty _, fun _ _ => rfl, List.forall_mem_nil _, by nofun, by nofun, List.forall_mem_nil _,
    List.forall_mem_nil _⟩

theorem rollbackText_valid {changes : List Change} (h : rollbackText site e = .ok changes) :
    ∀ c ∈ changes, c.Valid := by
  unfold rollbackText at h
  split at h
  · obtain rfl := Except.ok.inj h
    exact List.forall_mem_nil _
  · obtain rfl := Except.ok.inj h
    intro c hc
    obtain rfl := List.mem_singleton.1 hc
    exact (ofSql_fits _).valid
  · nomatch h

theorem referencedChanges_valid {document : Document} (hd : document.Valid) {attributes : Attributes}
    {changes : List Change} (h : referencedChanges site document attributes = .ok changes) :
    ∀ c ∈ changes, c.Valid := by
  unfold referencedChanges at h
  split at h
  · obtain rfl := Except.ok.inj h
    exact List.forall_mem_nil _
  · dsimp only at h
    split at h
    · next found hfound =>
      obtain rfl := Except.ok.inj h
      exact (hd.changeSets found (List.mem_of_find?_eq_some hfound)).changes
    · nomatch h

theorem rollback_valid {document : Document} (hd : document.Valid) {changes : List Change}
    (h : rollback site document e = .ok changes) : ∀ c ∈ changes, c.Valid := by
  obtain ⟨_, -, h⟩ := bind_eq_ok h
  obtain ⟨written, hwritten, h⟩ := bind_eq_ok h
  obtain ⟨reused, hreused, h⟩ := bind_eq_ok h
  obtain ⟨inside, hinside, h⟩ := bind_eq_ok h
  obtain rfl := Except.ok.inj h
  intro c hc
  rcases List.mem_append.1 hc with hc | hc
  · rcases List.mem_append.1 hc with hc | hc
    · exact rollbackText_valid hwritten c hc
    · exact referencedChanges_valid hd hreused c hc
  · obtain ⟨child, -, hchild⟩ := mem_of_mapM hinside c hc
    exact changeOf_valid hchild

theorem read_of_sqlEditOf {attributes : Attributes} {kind : SqlEditKind} {pattern new : String}
    (h : sqlEditOf site attributes kind = .ok (.replacePattern pattern new)) :
    ∃ p, Pattern.read pattern = .ok p := by
  cases kind with
  | prepend =>
    obtain ⟨_, -, h⟩ := map_eq_ok h
    nomatch h
  | append =>
    obtain ⟨_, -, h⟩ := map_eq_ok h
    nomatch h
  | replace =>
    obtain ⟨_, -, h⟩ := bind_eq_ok h
    nomatch h
  | replacePattern =>
    obtain ⟨written, -, h⟩ := bind_eq_ok h
    cases hread : Pattern.read written with
    | error cause =>
      rw [hread] at h
      nomatch h
    | ok p =>
      rw [hread] at h
      obtain ⟨rfl, -⟩ := SqlEdit.replacePattern.inj (Except.ok.inj h)
      exact ⟨p, hread⟩

theorem read_of_sqlEdit {pattern new : String}
    (h : sqlEdit site e = .ok (.replacePattern pattern new)) : ∃ p, Pattern.read pattern = .ok p := by
  unfold sqlEdit at h
  split at h
  · obtain ⟨_, -, h⟩ := bind_eq_ok h
    obtain ⟨_, -, h⟩ := bind_eq_ok h
    exact read_of_sqlEditOf h
  · nomatch h

theorem sqlAdjustments_fits {adjustments : List SqlAdjustment}
    (h : sqlAdjustments site e = .ok adjustments) : ∀ a ∈ adjustments, a.Fits := by
  obtain ⟨_, -, h⟩ := bind_eq_ok h
  obtain ⟨_, -, h⟩ := bind_eq_ok h
  obtain ⟨edits, hedits, h⟩ := bind_eq_ok h
  obtain rfl := Except.ok.inj h
  intro a ha
  obtain ⟨edit, hedit, rfl⟩ := List.mem_map.1 ha
  obtain ⟨child, -, hchild⟩ := mem_of_mapM hedits edit hedit
  have hnames : ∀ key, ∀ s ∈ namesOf (site.expander.attributes e.attributes) key, IsItem s :=
    fun _ _ hs => isItem_of_mem_namesOf hs
  refine ⟨hnames "dbms", hnames "labels", fun pattern new hpattern => ?_⟩
  obtain rfl : edit = .replacePattern pattern new := hpattern
  exact read_of_sqlEdit hchild

theorem changeSetOf_valid {document : Document} {attributes : Attributes} {c : ChangeSet}
    (h : changeSetOf site document attributes = .ok c) : c.Valid := by
  obtain ⟨onValidationFail, -, h⟩ := bind_eq_ok h
  obtain ⟨quoting, -, h⟩ := bind_eq_ok h
  obtain rfl := Except.ok.inj h
  have hnames : ∀ key, ∀ s ∈ namesOf attributes key, IsItem s := fun _ _ hs =>
    isItem_of_mem_namesOf hs
  exact ⟨hnames "dbms", hnames "labels", fun p hp => absurd hp (Option.not_mem_none p),
    List.forall_mem_nil _, List.forall_mem_nil _, List.forall_mem_nil _⟩

theorem addChangeSetPart_valid {document : Document} (hd : document.Valid) {c next : ChangeSet}
    (hc : c.Valid) (h : addChangeSetPart site document c e = .ok next) : next.Valid := by
  unfold addChangeSetPart at h
  cases hpart : Named.ofName? (α := ChangeSetPart) e.name with
  | none =>
    rw [hpart] at h
    obtain ⟨change, hchange, h⟩ := bind_eq_ok h
    obtain rfl := Except.ok.inj h
    refine { hc with changes := List.forall_mem_append.2 ⟨hc.changes, ?_⟩ }
    exact List.forall_mem_singleton.2 (changeOf_valid hchange)
  | some part =>
    rw [hpart] at h
    cases part with
    | comment =>
      obtain ⟨text, -, h⟩ := bind_eq_ok h
      obtain rfl := Except.ok.inj h
      exact { hc with }
    | validChecksum =>
      obtain ⟨text, -, h⟩ := bind_eq_ok h
      obtain rfl := Except.ok.inj h
      exact { hc with }
    | preconditions =>
      obtain ⟨p, hp, h⟩ := bind_eq_ok h
      obtain rfl := Except.ok.inj h
      refine { hc with preconditions := ?_ }
      rintro other ⟨⟩
      exact container_valid hp
    | rollback =>
      obtain ⟨changes, hchanges, h⟩ := bind_eq_ok h
      obtain rfl := Except.ok.inj h
      exact { hc with rollback := List.forall_mem_append.2 ⟨hc.rollback, rollback_valid hd hchanges⟩ }
    | modifySql =>
      obtain ⟨adjustments, hadjustments, h⟩ := bind_eq_ok h
      obtain rfl := Except.ok.inj h
      exact { hc with
        sqlAdjustments :=
          List.forall_mem_append.2 ⟨hc.sqlAdjustments, sqlAdjustments_fits hadjustments⟩ }

theorem changeSet_valid {expander : Expander} {document : Document} (hd : document.Valid)
    {c : ChangeSet} (h : changeSet expander document e = .ok c) : c.Valid := by
  obtain ⟨_, -, h⟩ := bind_eq_ok h
  obtain ⟨_, -, h⟩ := bind_eq_ok h
  obtain ⟨_, -, h⟩ := bind_eq_ok h
  obtain ⟨bare, hbare, h⟩ := bind_eq_ok h
  exact foldlM_keeps (fun _ _ _ hc hnext => addChangeSetPart_valid hd hc hnext)
    (changeSetOf_valid hbare) h

end Parts

end Build

end Changelog
