import Changelog.Proofs.Loading.Parts

/-!
# Included change sets

The change sets of a document are those that its elements bring, one element after the other, and an
inclusion brings all change sets of the files it includes.
-/

namespace Changelog

namespace Document

/-- The document without anything that its elements have brought. -/
def head (document : Document) : Document :=
  { document with preconditions := none, changeSets := [], properties := [] }

end Document

namespace Loading

open Build Workspace

/-- The change sets of included files, each loaded with the bindings made before it. -/
def broughtBy (load : Loader) (table : PropertyTable) :
    List String → Except ChangelogError (List ChangeSet)
  | [] => .ok []
  | file :: files => do
    let included ← load table file
    let others ← broughtBy load included.table files
    return included.document.changeSets ++ others

def contribution (workspace : Workspace) (load : Loader) (progress : Progress) (e : Element) :
    Except ChangelogError (List ChangeSet) :=
  let site := progress.site workspace.options.scope
  match Named.ofName? (α := DocumentPart) e.name with
  | some .changeSet => do
    let c ← changeSet site.expander progress.document e
    return [c]
  | some .includeFile => do
    let files ← includedFile workspace.accessor site e
    broughtBy load progress.table files
  | some .includeAll => do
    let files ← includedFiles workspace site e
    broughtBy load progress.table files
  | some .preconditions => .ok []
  | some .property => .ok []
  | none => .error (.invalidElement e.name rootName site.context)

def contributions (workspace : Workspace) (load : Loader) (progress : Progress) :
    List Element → Except ChangelogError (List (List ChangeSet))
  | [] => .ok []
  | e :: elements => do
    let own ← contribution workspace load progress e
    let next ← addDocumentPart workspace load progress e
    let others ← contributions workspace load next elements
    return own :: others

structure Extends (progress next : Progress) (brought : List ChangeSet) : Prop where
  changeSets : next.document.changeSets = progress.document.changeSets ++ brought
  head : next.document.head = progress.document.head

theorem Extends.refl (progress : Progress) : Extends progress progress [] :=
  ⟨(List.append_nil _).symm, rfl⟩

theorem Extends.trans {progress between next : Progress} {brought more : List ChangeSet}
    (hfirst : Extends progress between brought) (hrest : Extends between next more) :
    Extends progress next (brought ++ more) where
  changeSets := by rw [hrest.changeSets, hfirst.changeSets, List.append_assoc]
  head := hrest.head.trans hfirst.head

theorem Extends.logicalPath {progress next : Progress} {brought : List ChangeSet}
    (h : Extends progress next brought) :
    next.document.logicalPath = progress.document.logicalPath := by
  have hhead := congrArg Document.logicalPath h.head
  exact hhead

theorem Extends.quotingStrategy {progress next : Progress} {brought : List ChangeSet}
    (h : Extends progress next brought) :
    next.document.quotingStrategy = progress.document.quotingStrategy := by
  have hhead := congrArg Document.quotingStrategy h.head
  exact hhead

section Progress

variable {workspace : Workspace} {load : Loader} {progress next : Progress}

theorem extends_of_inclusions {files : List String}
    (h : files.foldlM (addInclusion load) progress = .ok next) :
    ∃ brought, broughtBy load progress.table files = .ok brought ∧ Extends progress next brought := by
  induction files generalizing progress with
  | nil =>
    obtain rfl := Except.ok.inj h
    exact ⟨[], rfl, .refl progress⟩
  | cons file files ih =>
    rw [List.foldlM_cons] at h
    obtain ⟨between, hbetween, h⟩ := bind_eq_ok h
    obtain ⟨included, hincluded, hbetween⟩ := bind_eq_ok hbetween
    obtain rfl := Except.ok.inj hbetween
    obtain ⟨others, hothers, hrest⟩ := ih h
    have hfirst : Extends progress ⟨included.table, splice progress.document included.document⟩
        included.document.changeSets := ⟨rfl, rfl⟩
    refine ⟨included.document.changeSets ++ others, ?_, hfirst.trans hrest⟩
    rw [broughtBy, hincluded, ok_bind, hothers]
    rfl

theorem extends_of_element {e : Element} (h : addDocumentPart workspace load progress e = .ok next) :
    ∃ brought, contribution workspace load progress e = .ok brought ∧
      Extends progress next brought := by
  unfold addDocumentPart at h
  unfold contribution
  cases hpart : Named.ofName? (α := DocumentPart) e.name with
  | none =>
    rw [hpart] at h
    nomatch h
  | some part =>
    rw [hpart] at h
    cases part with
    | changeSet =>
      obtain ⟨c, hc, h⟩ := bind_eq_ok h
      obtain rfl := Except.ok.inj h
      refine ⟨[c], ?_, rfl, rfl⟩
      dsimp only
      rw [hc]
      rfl
    | preconditions =>
      obtain ⟨p, -, h⟩ := bind_eq_ok h
      obtain rfl := Except.ok.inj h
      exact ⟨[], rfl, (List.append_nil _).symm, rfl⟩
    | property =>
      obtain ⟨bindings, -, h⟩ := bind_eq_ok h
      obtain rfl := Except.ok.inj h
      exact ⟨[], rfl, (List.append_nil _).symm, rfl⟩
    | includeFile =>
      obtain ⟨files, hfiles, h⟩ := bind_eq_ok h
      dsimp only
      rw [hfiles, ok_bind]
      exact extends_of_inclusions h
    | includeAll =>
      obtain ⟨files, hfiles, h⟩ := bind_eq_ok h
      dsimp only
      rw [hfiles, ok_bind]
      exact extends_of_inclusions h

theorem extends_of_elements {elements : List Element}
    (h : elements.foldlM (addDocumentPart workspace load) progress = .ok next) :
    ∃ brought, contributions workspace load progress elements = .ok brought ∧
      Extends progress next brought.flatten := by
  induction elements generalizing progress with
  | nil =>
    obtain rfl := Except.ok.inj h
    exact ⟨[], rfl, .refl progress⟩
  | cons e elements ih =>
    rw [List.foldlM_cons] at h
    obtain ⟨between, hbetween, h⟩ := bind_eq_ok h
    obtain ⟨own, hown, hfirst⟩ := extends_of_element hbetween
    obtain ⟨others, hothers, hrest⟩ := ih h
    refine ⟨own :: others, ?_, hfirst.trans hrest⟩
    rw [contributions, hown, ok_bind, hbetween, ok_bind, hothers]
    rfl

end Progress

/-! ### Change sets of the whole tree -/

mutual

/-- The change sets that a part declares, those of included documents in their place. -/
def Part.declared : Part → List ChangeSet
  | .changeSet c => [c]
  | .included _ parts => declaredBy parts
  | .preconditions _ => []
  | .bindings _ => []

def declaredBy : List Part → List ChangeSet
  | [] => []
  | part :: rest => part.declared ++ declaredBy rest

end

theorem head_addTo (part : Part) (document : Document) :
    (part.addTo document).head = document.head := by
  cases part <;> rfl

theorem head_assemble (parts : List Part) (document : Document) :
    (assemble parts document).head = document.head := by
  induction parts generalizing document with
  | nil => rfl
  | cons part rest ih => rw [assemble, ih, head_addTo]

theorem eq_head_of_documentOf {site : Site} {root : Element} {bare : Document}
    (h : documentOf site root = .ok bare) : bare = bare.head := by
  obtain ⟨-, -, h⟩ := bind_eq_ok h
  obtain ⟨quoting, -, h⟩ := bind_eq_ok h
  obtain rfl := Except.ok.inj h
  rfl

section Tree

variable {workspace : Workspace}

theorem Loaded.FromRoot.changeSets {loaded : Loaded} (h : loaded.FromRoot workspace) :
    loaded.bare.changeSets = [] := by
  obtain ⟨site, root, hbare⟩ := h.begins
  rw [eq_head_of_documentOf hbare]
  rfl

mutual

theorem changeSets_addTo (part : Part) (document : Document) (h : FromFiles workspace [part]) :
    (part.addTo document).changeSets = document.changeSets ++ part.declared := by
  cases part with
  | changeSet c => rfl
  | preconditions p => exact (List.append_nil _).symm
  | bindings bindings => exact (List.append_nil _).symm
  | included bare inner =>
    obtain ⟨stack, table, path, hfile⟩ := h bare inner (List.mem_singleton_self _)
    have hroot := fromRoot_fileParts hfile
    have hinner := changeSets_assemble inner bare hroot.includes
    rw [hroot.changeSets, List.nil_append] at hinner
    rw [Part.addTo, Part.declared, ← hinner]
    rfl

theorem changeSets_assemble (parts : List Part) (document : Document)
    (h : FromFiles workspace parts) :
    (assemble parts document).changeSets = document.changeSets ++ declaredBy parts := by
  cases parts with
  | nil => exact (List.append_nil _).symm
  | cons part rest =>
    rw [assemble, changeSets_assemble rest _ h.tail, changeSets_addTo part document h.head, declaredBy,
      List.append_assoc]

end

end Tree

end Loading

end Changelog
