import Changelog.Build.Document
import Changelog.Proofs.Steps

/-!
# Elements by their names

Which builder an element goes to is decided by its name alone.  Two elements of one name that their
builders treat alike are therefore treated alike wherever they stand, and so are the elements around them.
-/

namespace Changelog.Build

def editOf (site : Site) (kind : SqlEditKind) (e : Element) : Except ChangelogError SqlEdit := do
  checkAttributes kind.name e.attributes kind.attributes site.context
  rejectPositional e.name e.args site.context
  sqlEditOf site (site.expander.attributes e.attributes) kind

def combination (site : Site) (how : Combinator) (e : Element) : Except ChangelogError Precondition := do
  checkAttributes e.name e.attributes [] site.context
  rejectPositional e.name e.args site.context
  let nested ← e.children.mapM (precondition site e.name)
  return .combination how nested

/-- The elements that hold a text and nothing else. -/
def textNames : List String := ["comment", "validCheckSum", "where"]

/-- The elements whose builders look at no element inside them. -/
def blocklessNames : List String :=
  ["property", "include", "includeAll", "constraints", "param", "arg", "prepend", "append", "replace",
   "regExpReplace"]

/-- What an element of a given name is built with. -/
inductive Builder : String → (α : Type) → (Element → Except ChangelogError α) → Prop
  | root (workspace : Workspace) (load : Loader) (table : PropertyTable) (path : String) :
      Builder rootName Progress (document workspace load table path)
  | changeSet (expander : Expander) (d : Document) :
      Builder "changeSet" ChangeSet (changeSet expander d)
  | container (site : Site) : Builder "preConditions" Preconditions (container site)
  | property (accessor : Accessor) (site : Site) :
      Builder "property" (List Binding) (propertyBindings accessor site)
  | includeFile (accessor : Accessor) (site : Site) :
      Builder "include" (List String) (includedFile accessor site)
  | includeAll (workspace : Workspace) (site : Site) :
      Builder "includeAll" (List String) (includedFiles workspace site)
  | text (site : Site) {name : String} (hname : name ∈ textNames) : Builder name String (bodyText site)
  | rollback (site : Site) (d : Document) : Builder "rollback" (List Change) (rollback site d)
  | modifySql (site : Site) : Builder "modifySql" (List SqlAdjustment) (sqlAdjustments site)
  | edit (site : Site) (kind : SqlEditKind) : Builder kind.name SqlEdit (editOf site kind)
  | change (site : Site) (kind : ChangeKind) : Builder kind.name Change (change site kind)
  | column (site : Site) (kind : ChangeKind) : Builder "column" Column (column site kind)
  | constraints (site : Site) (held : Option Attributes) :
      Builder "constraints" (Option Attributes) (addConstraints site held)
  | parameter (site : Site) : Builder "param" Parameter (parameter site)
  | argument (site : Site) : Builder "arg" String (commandArgument site)
  | combination (site : Site) (how : Combinator) :
      Builder how.name Precondition (combination site how)
  | check (site : Site) (kind : CheckKind) : Builder kind.name Check (check site kind)

inductive Step : (σ : Type) → (σ → Element → Except ChangelogError σ) → Prop
  | documentPart (workspace : Workspace) (load : Loader) : Step Progress (addDocumentPart workspace load)
  | changeSetPart (site : Site) (d : Document) : Step ChangeSet (addChangeSetPart site d)
  | changePart (site : Site) : Step Change (addPart site)
  | constraints (site : Site) : Step (Option Attributes) (addConstraints site)
  | checkPart (site : Site) : Step Check (addCheckPart site)

inductive Item : (α : Type) → (Element → Except ChangelogError α) → Prop
  | change (site : Site) (parent : String) : Item Change (changeOf site parent)
  | edit (site : Site) : Item SqlEdit (sqlEdit site)
  | precondition (site : Site) (parent : String) : Item Precondition (precondition site parent)

/-! ### Relations between results -/

abbrev ResultRelation := (α : Type) → Except ChangelogError α → Except ChangelogError α → Prop

/-- A relation between results that goes through whatever is done with them. -/
structure Lifts (R : ResultRelation) : Prop where
  error {α : Type} (c : ChangelogError) (y : Except ChangelogError α) : R α (.error c) y
  bind {α β : Type} {x y : Except ChangelogError α} (k : α → Except ChangelogError β) (h : R α x y) :
    R β (x >>= k) (y >>= k)
  after {α β : Type} (x : Except ChangelogError α) {k k' : α → Except ChangelogError β}
    (h : ∀ a, R β (k a) (k' a)) : R β (x >>= k) (x >>= k')

/-- Where the first gives a result, the second fails for a reason. -/
def Refuses (reason : ChangelogError → Prop) (α : Type) (x y : Except ChangelogError α) : Prop :=
  ∀ a, x = .ok a → ∃ c, y = .error c ∧ reason c

def Keeps (α : Type) (x y : Except ChangelogError α) : Prop := ∀ a, x = .ok a → y = .ok a

theorem lifts_refuses (reason : ChangelogError → Prop) : Lifts (Refuses reason) where
  error c y a h := nomatch h
  bind k h b hb := by
    obtain ⟨a, ha, -⟩ := bind_eq_ok hb
    obtain ⟨c, hc, hreason⟩ := h a ha
    exact ⟨c, by rw [hc]; rfl, hreason⟩
  after x _ _ h b hb := by
    obtain ⟨a, rfl, hb⟩ := bind_eq_ok hb
    exact h a b hb

theorem lifts_keeps : Lifts Keeps where
  error c y a h := nomatch h
  bind k h b hb := by
    obtain ⟨a, ha, hb⟩ := bind_eq_ok hb
    rw [h a ha]
    exact hb
  after x _ _ h b hb := by
    obtain ⟨a, rfl, hb⟩ := bind_eq_ok hb
    exact h a b hb

section Relation

variable {R : ResultRelation}

theorem Lifts.map (hR : Lifts R) {α β : Type} {x y : Except ChangelogError α} (f : α → β) (h : R α x y) :
    R β (x.map f) (y.map f) := by
  have hmap : ∀ z : Except ChangelogError α, z.map f = z >>= fun a => pure (f a) := by
    intro z
    cases z <;> rfl
  rw [hmap x, hmap y]
  exact hR.bind _ h

/-- Wherever the elements may stand, they are treated alike. -/
structure Everywhere (R : ResultRelation) (e e' : Element) : Prop where
  root : e.name = rootName → ∀ workspace load table path,
    R Progress (document workspace load table path e) (document workspace load table path e')
  step : ∀ σ step, Step σ step → ∀ s, R σ (step s e) (step s e')
  item : ∀ α item, Item α item → R α (item e) (item e')

structure Inside (R : ResultRelation) (children children' : List Element) : Prop where
  steps : ∀ σ step, Step σ step → ∀ s, R σ (children.foldlM step s) (children'.foldlM step s)
  items : ∀ α item, Item α item → R (List α) (children.mapM item) (children'.mapM item)
  text : ∀ site (e : Element), R String (bodyText site { e with children := children })
    (bodyText site { e with children := children' })

/-! ### From builders to steps -/

theorem preconditions_eq_mapM (site : Site) (parent : String) (elements : List Element) :
    preconditions site parent elements = elements.mapM (precondition site parent) := by
  induction elements with
  | nil =>
    rw [preconditions]
    rfl
  | cons e rest ih => rw [preconditions, List.mapM_cons, ih]

theorem precondition_eq (site : Site) (parent : String) (e : Element) :
    precondition site parent e =
      match Named.ofName? (α := Combinator) e.name with
      | some how => combination site how e
      | none =>
        match Named.ofName? (α := CheckKind) e.name with
        | some kind => (check site kind e).map .check
        | none => .error (.invalidElement e.name parent site.context) := by
  cases e
  rw [precondition]
  simp only [preconditions_eq_mapM]
  rfl

theorem Builder.of_name {name name' : String} {α : Type} {build : Element → Except ChangelogError α}
    (hname : name = name') (h : Builder name α build) : Builder name' α build := hname ▸ h

section Dispatch

variable {e e' : Element} (hR : Lifts R) (hname : e'.name = e.name)
  (h : ∀ α build, Builder e.name α build → R α (build e) (build e'))

include hR hname h

theorem item_of_builders (α : Type) (item : Element → Except ChangelogError α) (hitem : Item α item) :
    R α (item e) (item e') := by
  cases hitem with
  | change site parent =>
    unfold changeOf
    rw [hname]
    cases hkind : Named.ofName? (α := ChangeKind) e.name with
    | none => exact hR.error _ _
    | some kind => exact h _ _ (.of_name (Named.name_of_ofName? hkind) (.change site kind))
  | edit site =>
    unfold sqlEdit
    rw [hname]
    cases hkind : Named.ofName? (α := SqlEditKind) e.name with
    | none => exact hR.error _ _
    | some kind =>
      have hedit := h _ _ (.of_name (Named.name_of_ofName? hkind) (.edit site kind))
      unfold editOf at hedit
      rw [hname] at hedit
      exact hedit
  | precondition site parent =>
    rw [precondition_eq, precondition_eq, hname]
    cases hhow : Named.ofName? (α := Combinator) e.name with
    | some how => exact h _ _ (.of_name (Named.name_of_ofName? hhow) (.combination site how))
    | none =>
      cases hkind : Named.ofName? (α := CheckKind) e.name with
      | none => exact hR.error _ _
      | some kind => exact hR.map _ (h _ _ (.of_name (Named.name_of_ofName? hkind) (.check site kind)))

theorem documentPart_of_builders (workspace : Workspace) (load : Loader) (progress : Progress) :
    R Progress (addDocumentPart workspace load progress e)
      (addDocumentPart workspace load progress e') := by
  unfold addDocumentPart
  rw [hname]
  cases hpart : Named.ofName? (α := DocumentPart) e.name with
  | none => exact hR.error _ _
  | some part =>
    have hpartName := Named.name_of_ofName? hpart
    cases part with
    | changeSet => exact hR.bind _ (h _ _ (.of_name hpartName (.changeSet _ _)))
    | preconditions => exact hR.bind _ (h _ _ (.of_name hpartName (.container _)))
    | property => exact hR.bind _ (h _ _ (.of_name hpartName (.property _ _)))
    | includeFile => exact hR.bind _ (h _ _ (.of_name hpartName (.includeFile _ _)))
    | includeAll => exact hR.bind _ (h _ _ (.of_name hpartName (.includeAll _ _)))

theorem changeSetPart_of_builders (site : Site) (d : Document) (c : ChangeSet) :
    R ChangeSet (addChangeSetPart site d c e) (addChangeSetPart site d c e') := by
  unfold addChangeSetPart
  rw [hname]
  cases hpart : Named.ofName? (α := ChangeSetPart) e.name with
  | none => exact hR.bind _ (item_of_builders hR hname h _ _ (.change site "changeSet"))
  | some part =>
    have hpartName := Named.name_of_ofName? hpart
    cases part with
    | comment => exact hR.bind _ (h _ _ (.of_name hpartName (.text site (by decide))))
    | validChecksum => exact hR.bind _ (h _ _ (.of_name hpartName (.text site (by decide))))
    | preconditions => exact hR.bind _ (h _ _ (.of_name hpartName (.container site)))
    | rollback => exact hR.bind _ (h _ _ (.of_name hpartName (.rollback site d)))
    | modifySql => exact hR.bind _ (h _ _ (.of_name hpartName (.modifySql site)))

theorem changePart_of_builders (site : Site) (c : Change) :
    R Change (addPart site c e) (addPart site c e') := by
  unfold addPart
  rw [hname]
  cases hpart : c.kind.part? e.name with
  | none => exact hR.error _ _
  | some part =>
    rw [ChangeKind.part?, Option.filter_eq_some_iff] at hpart
    have hpartName := Named.name_of_ofName? hpart.1
    cases part with
    | column => exact hR.bind _ (h _ _ (.of_name hpartName (.column site _)))
    | condition => exact hR.bind _ (h _ _ (.of_name hpartName (.text site (by decide))))
    | comment => exact hR.bind _ (h _ _ (.of_name hpartName (.text site (by decide))))
    | parameter => exact hR.bind _ (h _ _ (.of_name hpartName (.parameter site)))
    | argument => exact hR.bind _ (h _ _ (.of_name hpartName (.argument site)))

theorem checkPart_of_builders (site : Site) (c : Check) :
    R Check (addCheckPart site c e) (addCheckPart site c e') := by
  unfold addCheckPart
  rw [hname]
  split
  · next hparam => exact hR.bind _ (h _ _ (.of_name hparam.2.symm (.parameter site)))
  · exact hR.error _ _

omit hname in
theorem constraints_of_builders (site : Site) (held : Option Attributes) :
    R (Option Attributes) (addConstraints site held e) (addConstraints site held e') := by
  by_cases hconstraints : e.name = "constraints"
  · exact h _ _ (.of_name hconstraints.symm (.constraints site held))
  · unfold addConstraints
    rw [if_pos hconstraints]
    exact hR.error _ _

theorem everywhere_of_builders : Everywhere R e e' where
  root hroot workspace load table path := h _ _ (.of_name hroot.symm (.root workspace load table path))
  step σ step hstep s := by
    cases hstep with
    | documentPart workspace load => exact documentPart_of_builders hR hname h workspace load s
    | changeSetPart site d => exact changeSetPart_of_builders hR hname h site d s
    | changePart site => exact changePart_of_builders hR hname h site s
    | constraints site => exact constraints_of_builders hR h site s
    | checkPart site => exact checkPart_of_builders hR hname h site s
  item := item_of_builders hR hname h

end Dispatch

theorem bodyText_of_children {site : Site} {e : Element} (h : e.children ≠ []) :
    bodyText site e =
      (checkAttributes e.name e.attributes [] site.context >>= fun _ => .error (site.oneText e)) := by
  unfold bodyText
  split
  · next hnone => exact absurd hnone h
  · rfl

theorem inside_of_everywhere (hR : Lifts R) {e e' : Element} (h : Everywhere R e e')
    (before after : List Element) : Inside R (before ++ e :: after) (before ++ e' :: after) where
  steps σ step hstep s := by
    rw [List.foldlM_append, List.foldlM_append]
    refine hR.after _ fun t => ?_
    rw [List.foldlM_cons, List.foldlM_cons]
    exact hR.bind _ (h.step σ step hstep t)
  items α item hitem := by
    rw [List.mapM_append, List.mapM_append]
    refine hR.after _ fun first => hR.bind _ ?_
    rw [List.mapM_cons, List.mapM_cons]
    exact hR.bind _ (h.item α item hitem)
  text site parent := by
    rw [bodyText_of_children (by simp)]
    exact hR.after _ fun _ => hR.error _ _

theorem everywhere_of_children (hR : Lifts R) {e : Element} {children' : List Element}
    (hblockless : e.name ∈ blocklessNames → ∀ α x, R α x x)
    (hinside : e.name ∉ blocklessNames → Inside R e.children children') :
    Everywhere R e { e with children := children' } := by
  refine everywhere_of_builders hR rfl fun α build hbuild => ?_
  obtain ⟨name, attributes, args, children, line⟩ := e
  dsimp only at hblockless hinside
  -- What a builder does before it comes to the elements inside sees neither list of them.
  cases hbuild with
  | root workspace load table path =>
    have hsteps := (hinside (by decide)).steps _ _ (.documentPart workspace load)
    exact hR.after _ fun bare => hsteps ⟨table, bare⟩
  | changeSet expander d =>
    have hsteps := fun site => (hinside (by decide)).steps _ _ (.changeSetPart site d)
    exact hR.after _ fun _ => hR.after _ fun _ => hR.after _ fun _ => hR.after _ fun bare => hsteps _ bare
  | container site =>
    unfold container
    rw [preconditions_eq_mapM, preconditions_eq_mapM]
    have hitems := (hinside (by decide)).items _ _ (.precondition site "preConditions")
    exact hR.after _ fun _ => hR.after _ fun _ => hR.after _ fun _ => hR.after _ fun _ =>
      hR.after _ fun _ => hR.bind _ hitems
  | property accessor site => exact hblockless (by decide) _ _
  | includeFile accessor site => exact hblockless (by decide) _ _
  | includeAll workspace site => exact hblockless (by decide) _ _
  | text site htext =>
    have hapart : ∀ name ∈ textNames, name ∉ blocklessNames := by decide
    exact (hinside (hapart name htext)).text site ⟨name, attributes, args, children, line⟩
  | rollback site d =>
    have hitems := (hinside (by decide)).items _ _ (.change site "rollback")
    exact hR.after _ fun _ => hR.after _ fun _ => hR.after _ fun _ => hR.bind _ hitems
  | modifySql site =>
    have hitems := (hinside (by decide)).items _ _ (.edit site)
    exact hR.after _ fun _ => hR.after _ fun _ => hR.bind _ hitems
  | edit site kind =>
    have hname : kind.name ∈ blocklessNames := by cases kind <;> decide
    exact hblockless hname _ _
  | change site kind =>
    have hname : kind.name ∉ blocklessNames := by cases kind <;> decide
    have hsteps := (hinside hname).steps _ _ (.changePart site)
    exact hR.after _ fun _ => hR.after _ fun _ => hsteps _
  | column site kind =>
    have hsteps := (hinside (by decide)).steps _ _ (.constraints site)
    exact hR.after _ fun _ => hR.after _ fun _ => hR.bind _ (hsteps none)
  | constraints site held => exact hblockless (by decide) _ _
  | parameter site => exact hblockless (by decide) _ _
  | argument site => exact hblockless (by decide) _ _
  | combination site how =>
    have hname : how.name ∉ blocklessNames := by cases how <;> decide
    have hitems := (hinside hname).items _ _ (.precondition site how.name)
    exact hR.after _ fun _ => hR.after _ fun _ => hR.bind _ hitems
  | check site kind =>
    have hname : kind.name ∉ blocklessNames := by cases kind <;> decide
    have hsteps := (hinside hname).steps _ _ (.checkPart site)
    exact hR.after _ fun _ => hR.after _ fun _ => hsteps _

end Relation

end Changelog.Build
