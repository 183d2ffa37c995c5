import Changelog.Resource.Memory
import Changelog.Proofs.Build.Inclusion
import Changelog.Proofs.Loading.Inclusion
import Changelog.Proofs.Source.Document

/-!
# Where change sets come from

A load retraced in the texts that it reads: which element declares a change set, which files an inclusion
picks up, and what was bound before.  No inclusion changes what the root of the including document says.
-/

namespace Changelog

/-- What a change set records of the document that declares it, after its id. -/
def ChangeSet.origin (c : ChangeSet) : String × String × Option QuotingStrategy :=
  (c.id, c.filePath, c.quotingStrategy)

namespace Loading

open Build Workspace

/-- The change sets that an element brings: the one that it declares, or those of the files that it picks
up. -/
inductive Contributes (workspace : Workspace) (load : Loader) (progress : Progress) (e : Element) :
    List ChangeSet → Prop
  | changeSet (hname : e.name = "changeSet") {c : ChangeSet}
      (h : changeSet (progress.expander workspace.options.scope) progress.document e = .ok c) :
      Contributes workspace load progress e [c]
  | inclusion {files : List String}
      (hfiles : PicksUp workspace (progress.site workspace.options.scope) e files)
      {brought : List ChangeSet} (h : broughtBy load progress.table files = .ok brought) :
      Contributes workspace load progress e brought
  | nothing (hname : e.name = "property" ∨ e.name = "preConditions") :
      Contributes workspace load progress e []

/-- The change sets that each element brings, built where the elements before it have left off. -/
inductive ContributesEach (workspace : Workspace) (load : Loader) :
    Progress → List Element → List (List ChangeSet) → Prop
  | nil (progress : Progress) : ContributesEach workspace load progress [] []
  | cons {progress next : Progress} {e : Element} {elements : List Element} {own : List ChangeSet}
      {others : List (List ChangeSet)} (h : Contributes workspace load progress e own)
      (hnext : addDocumentPart workspace load progress e = .ok next)
      (hrest : ContributesEach workspace load next elements others) :
      ContributesEach workspace load progress (e :: elements) (own :: others)

section Contributions

variable {workspace : Workspace} {load : Loader} {progress : Progress}

theorem contributes_of_contribution {e : Element} {brought : List ChangeSet}
    (h : contribution workspace load progress e = .ok brought) :
    Contributes workspace load progress e brought := by
  unfold contribution at h
  cases hpart : Named.ofName? (α := DocumentPart) e.name with
  | none =>
    rw [hpart] at h
    nomatch h
  | some part =>
    rw [hpart] at h
    have hname := (Named.name_of_ofName? hpart).symm
    cases part with
    | changeSet =>
      obtain ⟨c, hc, h⟩ := bind_eq_ok h
      obtain rfl := Except.ok.inj h
      exact .changeSet hname hc
    | preconditions =>
      obtain rfl := Except.ok.inj h
      exact .nothing (.inr hname)
    | property =>
      obtain rfl := Except.ok.inj h
      exact .nothing (.inl hname)
    | includeFile =>
      obtain ⟨files, hfiles, h⟩ := bind_eq_ok h
      exact .inclusion ((includedFile_eq_ok_iff hname).1 hfiles) h
    | includeAll =>
      obtain ⟨files, hfiles, h⟩ := bind_eq_ok h
      exact .inclusion ((includedFiles_eq_ok_iff hname).1 hfiles) h

theorem contributesEach_of_contributions {elements : List Element} {brought : List (List ChangeSet)}
    (h : contributions workspace load progress elements = .ok brought) :
    ContributesEach workspace load progress elements brought := by
  induction elements generalizing progress brought with
  | nil =>
    obtain rfl := Except.ok.inj h
    exact .nil progress
  | cons e elements ih =>
    rw [contributions] at h
    obtain ⟨own, hown, h⟩ := bind_eq_ok h
    obtain ⟨between, hbetween, h⟩ := bind_eq_ok h
    obtain ⟨others, hothers, h⟩ := bind_eq_ok h
    obtain rfl := Except.ok.inj h
    exact .cons (contributes_of_contribution hown) hbetween (ih hothers)

end Contributions

/-! ### The texts behind the parts -/

/-- A change set that an element declares in a document that began as `bare`: its path is the document's
logical path, and its quoting strategy is its own or else the document's. -/
structure Declares (scope : Scope) (bare : Document) (progress : Progress) (e : Element) (c : ChangeSet) :
    Prop where
  name : e.name = "changeSet"
  built : changeSet (progress.expander scope) progress.document e = .ok c
  filePath : c.filePath = bare.logicalPath
  quotingStrategy : ∃ own, optionalChoice QuotingStrategy
      ((progress.expander scope).attributes e.attributes) "objectQuotingStrategy"
        (changeSetContext progress.document e) = .ok own ∧
    c.quotingStrategy = own.or bare.quotingStrategy

mutual

/-- A file that is not being read gives what the root element of its text gives. -/
inductive FileGives (workspace : Workspace) : List String → PropertyTable → String → Loaded → Prop
  | intro {stack : List String} {table : PropertyTable} {path text : String} {root : Element}
      {loaded : Loaded} (hopen : ¬isOpen stack path) (hread : workspace.accessor.read path = .ok text)
      (htext : Source.readElements text = .ok [root]) (hroot : rootOf path [root] = .ok root)
      (h : RootGives workspace (stack ++ [path]) table path root loaded) :
      FileGives workspace stack table path loaded

/-- A root gives the document that its attributes begin and what its elements bring, in their order. -/
inductive RootGives (workspace : Workspace) :
    List String → PropertyTable → String → Element → Loaded → Prop
  | intro {stack : List String} {table : PropertyTable} {path : String} {root : Element}
      {bare : Document} {parts : List Part}
      (hbare : documentOf ⟨⟨table, path, workspace.options.scope⟩, path⟩ root = .ok bare)
      (h : ElementsGive workspace stack bare ⟨table, bare⟩ root.children parts) :
      RootGives workspace stack table path root ⟨bare, parts⟩

/-- Each element is built where those before it have left off, and finds the head of the document as it
began. -/
inductive ElementsGive (workspace : Workspace) :
    List String → Document → Progress → List Element → List Part → Prop
  | nil {stack : List String} {bare : Document} {progress : Progress} :
      ElementsGive workspace stack bare progress [] []
  | cons {stack : List String} {bare : Document} {progress : Progress} {e : Element}
      {elements : List Element} (own : List Part) {rest : List Part} (hhead : progress.document.head = bare)
      (h : ElementGives workspace stack bare progress e own)
      (hrest : ElementsGive workspace stack bare (advance progress own) elements rest) :
      ElementsGive workspace stack bare progress (e :: elements) (own ++ rest)

inductive ElementGives (workspace : Workspace) :
    List String → Document → Progress → Element → List Part → Prop
  | changeSet {stack : List String} {bare : Document} {progress : Progress} {e : Element}
      {c : ChangeSet} (h : Declares workspace.options.scope bare progress e c) :
      ElementGives workspace stack bare progress e [.changeSet c]
  | preconditions {stack : List String} {bare : Document} {progress : Progress} {e : Element}
      {p : Preconditions} (hname : e.name = "preConditions")
      (h : container (progress.site workspace.options.scope) e = .ok p) :
      ElementGives workspace stack bare progress e [.preconditions p]
  | property {stack : List String} {bare : Document} {progress : Progress} {e : Element}
      {bindings : List Binding} (hname : e.name = "property")
      (h : propertyBindings workspace.accessor (progress.site workspace.options.scope) e = .ok bindings) :
      ElementGives workspace stack bare progress e [.bindings bindings]
  | inclusion {stack : List String} {bare : Document} {progress : Progress} {e : Element}
      {files : List String} {parts : List Part}
      (hfiles : PicksUp workspace (progress.site workspace.options.scope) e files)
      (h : FilesGive workspace stack progress.table files parts) :
      ElementGives workspace stack bare progress e parts

/-- The files that an element picks up, each loaded with the bindings made before it. -/
inductive FilesGive (workspace : Workspace) :
    List String → PropertyTable → List String → List Part → Prop
  | nil {stack : List String} {table : PropertyTable} : FilesGive workspace stack table [] []
  | cons {stack : List String} {table : PropertyTable} {file : String} {files : List String}
      {loaded : Loaded} {rest : List Part} (h : FileGives workspace stack table file loaded)
      (hrest : FilesGive workspace stack (table.defineAll (boundBy loaded.parts)) files rest) :
      FilesGive workspace stack table (file :: files) (loaded.part :: rest)

end

/-! ### Provenance -/

theorem addChangeSetPart_provenance {site : Site} {document : Document} {c next : ChangeSet} {e : Element}
    (h : addChangeSetPart site document c e = .ok next) :
    next.filePath = c.filePath ∧ next.quotingStrategy = c.quotingStrategy := by
  unfold addChangeSetPart at h
  split at h
  all_goals
    obtain ⟨part, -, h⟩ := bind_eq_ok h
    obtain rfl := Except.ok.inj h
    exact ⟨rfl, rfl⟩

theorem declares_of_changeSet {scope : Scope} {bare : Document} {progress : Progress} {e : Element}
    {c : ChangeSet} (hname : e.name = "changeSet") (hhead : progress.document.head = bare)
    (h : changeSet (progress.expander scope) progress.document e = .ok c) :
    Declares scope bare progress e c := by
  have hbuilt := h
  obtain ⟨-, -, h⟩ := bind_eq_ok h
  obtain ⟨-, -, h⟩ := bind_eq_ok h
  obtain ⟨-, -, h⟩ := bind_eq_ok h
  obtain ⟨begun, hbegun, h⟩ := bind_eq_ok h
  obtain ⟨onValidationFail, -, hbegun⟩ := bind_eq_ok hbegun
  obtain ⟨own, hown, hbegun⟩ := bind_eq_ok hbegun
  obtain rfl := Except.ok.inj hbegun
  have hkept := foldlM_keeps
    (K := fun c : ChangeSet => c.filePath = progress.document.logicalPath ∧
      c.quotingStrategy = own.or progress.document.quotingStrategy)
    (fun s a t hs hnext => by
      obtain ⟨hpath, hquoting⟩ := addChangeSetPart_provenance hnext
      exact ⟨hpath.trans hs.1, hquoting.trans hs.2⟩) ⟨rfl, rfl⟩ h
  subst hhead
  exact ⟨hname, hbuilt, hkept.1, own, hown, hkept.2⟩

section Given

variable {workspace : Workspace} {stack : List String} {load : PartLoader}
  (hload : ∀ table path loaded, load table path = .ok loaded → FileGives workspace stack table path loaded)

include hload

theorem filesGive_of_includedParts {files : List String} {table : PropertyTable} {parts : List Part}
    (h : includedParts load table files = .ok parts) : FilesGive workspace stack table files parts := by
  induction files generalizing table parts with
  | nil =>
    obtain rfl := Except.ok.inj h
    exact .nil
  | cons file files ih =>
    rw [includedParts] at h
    obtain ⟨loaded, hloaded, h⟩ := bind_eq_ok h
    obtain ⟨rest, hrest, h⟩ := bind_eq_ok h
    obtain rfl := Except.ok.inj h
    exact .cons (hload _ _ _ hloaded) (ih hrest)

theorem elementGives_of_elementParts {progress : Progress} {e : Element} {parts : List Part}
    {bare : Document} (hhead : progress.document.head = bare)
    (h : elementParts workspace load progress e = .ok parts) :
    ElementGives workspace stack bare progress e parts := by
  unfold elementParts at h
  cases hpart : Named.ofName? (α := DocumentPart) e.name with
  | none =>
    rw [hpart] at h
    nomatch h
  | some part =>
    rw [hpart] at h
    have hname := (Named.name_of_ofName? hpart).symm
    cases part with
    | changeSet =>
      obtain ⟨c, hc, h⟩ := bind_eq_ok h
      obtain rfl := Except.ok.inj h
      exact .changeSet (declares_of_changeSet hname hhead hc)
    | preconditions =>
      obtain ⟨p, hp, h⟩ := bind_eq_ok h
      obtain rfl := Except.ok.inj h
      exact .preconditions hname hp
    | property =>
      obtain ⟨bindings, hbindings, h⟩ := bind_eq_ok h
      obtain rfl := Except.ok.inj h
      exact .property hname hbindings
    | includeFile =>
      obtain ⟨files, hfiles, h⟩ := bind_eq_ok h
      exact .inclusion ((includedFile_eq_ok_iff hname).1 hfiles) (filesGive_of_includedParts hload h)
    | includeAll =>
      obtain ⟨files, hfiles, h⟩ := bind_eq_ok h
      exact .inclusion ((includedFiles_eq_ok_iff hname).1 hfiles) (filesGive_of_includedParts hload h)

theorem elementsGive_of_elementsParts {progress : Progress} {elements : List Element} {parts : List Part}
    {bare : Document} (hhead : progress.document.head = bare)
    (h : elementsParts workspace load progress elements = .ok parts) :
    ElementsGive workspace stack bare progress elements parts := by
  induction elements generalizing progress parts with
  | nil =>
    obtain rfl := Except.ok.inj h
    exact .nil
  | cons e elements ih =>
    rw [elementsParts] at h
    obtain ⟨own, hown, h⟩ := bind_eq_ok h
    obtain ⟨rest, hrest, h⟩ := bind_eq_ok h
    obtain rfl := Except.ok.inj h
    have hnext : (advance progress own).document.head = bare :=
      (head_assemble own progress.document).trans hhead
    exact .cons own hhead (elementGives_of_elementParts hload hhead hown) (ih hnext hrest)

theorem rootGives_of_documentParts {table : PropertyTable} {path : String} {root : Element}
    {loaded : Loaded} (h : documentParts workspace load table path root = .ok loaded) :
    RootGives workspace stack table path root loaded := by
  obtain ⟨bare, hbare, h⟩ := bind_eq_ok h
  obtain ⟨parts, hparts, h⟩ := bind_eq_ok h
  obtain rfl := Except.ok.inj h
  exact .intro hbare (elementsGive_of_elementsParts hload (eq_head_of_documentOf hbare).symm hparts)

end Given

theorem eq_of_rootOf {path : String} {elements : List Element} {root : Element}
    (h : rootOf path elements = .ok root) : elements = [root] := by
  unfold rootOf at h
  split at h
  · split at h
    · nomatch h
    · split at h
      · nomatch h
      · obtain rfl := Except.ok.inj h
        rfl
  · nomatch h

theorem fileGives_of_sourceParts {workspace : Workspace} {stack : List String} {load : PartLoader}
    {table : PropertyTable} {path source : String} {loaded : Loaded} (hopen : ¬isOpen stack path)
    (hread : workspace.accessor.read path = .ok source)
    (hload : ∀ table file loaded, load table file = .ok loaded →
      FileGives workspace (stack ++ [path]) table file loaded)
    (h : sourceParts workspace load table path source = .ok loaded) :
    FileGives workspace stack table path loaded := by
  unfold sourceParts at h
  cases helements : Source.readElements source with
  | error e =>
    rw [helements] at h
    nomatch h
  | ok elements =>
    rw [helements] at h
    obtain ⟨root, hroot, hparts⟩ := bind_eq_ok h
    obtain rfl := eq_of_rootOf hroot
    exact .intro hopen hread helements hroot (rootGives_of_documentParts hload hparts)

theorem fileGives_of_fileParts {workspace : Workspace} {stack : List String} {table : PropertyTable}
    {path : String} {loaded : Loaded} (h : fileParts workspace stack table path = .ok loaded) :
    FileGives workspace stack table path loaded := by
  by_cases hopen : isOpen stack path
  · rw [fileParts_of_open hopen] at h
    nomatch h
  · cases hread : workspace.accessor.read path with
    | error cause =>
      rw [fileParts_of_unreadable hopen hread] at h
      nomatch h
    | ok source =>
      rw [fileParts_of_read hopen hread] at h
      -- What the file includes is read with one place less that is not open.
      exact fileGives_of_sourceParts hopen hread (fun _ _ _ hfile => fileGives_of_fileParts hfile) h
termination_by (unopened workspace.accessor stack).length
decreasing_by exact length_unopened_lt hread hopen

section Given

variable {workspace : Workspace}

mutual

theorem FileGives.eq_ok {stack : List String} {table : PropertyTable} {path : String} {loaded : Loaded}
    (h : FileGives workspace stack table path loaded) : fileParts workspace stack table path = .ok loaded := by
  match h with
  | .intro hopen hread htext hroot h =>
    rw [fileParts_of_read hopen hread, sourceParts, htext]
    dsimp only
    rw [hroot, ok_bind]
    exact h.eq_ok

theorem RootGives.eq_ok {stack : List String} {table : PropertyTable} {path : String} {root : Element}
    {loaded : Loaded} (h : RootGives workspace stack table path root loaded) :
    documentParts workspace (fileParts workspace stack) table path root = .ok loaded := by
  match h with
  | .intro hbare h =>
    rw [documentParts, hbare, ok_bind, h.eq_ok]
    rfl

theorem ElementsGive.eq_ok {stack : List String} {bare : Document} {progress : Progress}
    {elements : List Element} {parts : List Part}
    (h : ElementsGive workspace stack bare progress elements parts) :
    elementsParts workspace (fileParts workspace stack) progress elements = .ok parts := by
  match h with
  | .nil => rfl
  | .cons own hhead h hrest =>
    rw [elementsParts, h.eq_ok, ok_bind, hrest.eq_ok]
    rfl

theorem ElementGives.eq_ok {stack : List String} {bare : Document} {progress : Progress} {e : Element}
    {parts : List Part} (h : ElementGives workspace stack bare progress e parts) :
    elementParts workspace (fileParts workspace stack) progress e = .ok parts := by
  match h with
  | .changeSet h =>
    have hbuilt : changeSet (progress.site workspace.options.scope).expander progress.document e = _ :=
      h.built
    rw [elementParts, h.name]
    show (changeSet (progress.site workspace.options.scope).expander progress.document e >>= _) = _
    rw [hbuilt]
    rfl
  | .preconditions hname h =>
    rw [elementParts, hname]
    show (container (progress.site workspace.options.scope) e >>= _) = _
    rw [h]
    rfl
  | .property hname h =>
    rw [elementParts, hname]
    show (propertyBindings workspace.accessor (progress.site workspace.options.scope) e >>= _) = _
    rw [h]
    rfl
  | .inclusion hfiles h =>
    rcases hfiles.name with hname | hname
    · rw [elementParts, hname]
      show (includedFile workspace.accessor (progress.site workspace.options.scope) e >>= _) = _
      rw [(includedFile_eq_ok_iff hname).2 hfiles]
      exact h.eq_ok
    · rw [elementParts, hname]
      show (includedFiles workspace (progress.site workspace.options.scope) e >>= _) = _
      rw [(includedFiles_eq_ok_iff hname).2 hfiles]
      exact h.eq_ok

theorem FilesGive.eq_ok {stack : List String} {table : PropertyTable} {files : List String}
    {parts : List Part} (h : FilesGive workspace stack table files parts) :
    includedParts (fileParts workspace stack) table files = .ok parts := by
  match h with
  | .nil => rfl
  | .cons h hrest =>
    rw [includedParts, h.eq_ok, ok_bind, hrest.eq_ok]
    rfl

end

end Given

theorem rootGives_iff {workspace : Workspace} {stack : List String} {table : PropertyTable} {path : String}
    {root : Element} {loaded : Loaded} :
    RootGives workspace stack table path root loaded ↔
      documentParts workspace (fileParts workspace stack) table path root = .ok loaded :=
  ⟨RootGives.eq_ok, rootGives_of_documentParts fun _ _ _ hfile => fileGives_of_fileParts hfile⟩

/-! ### Built documents -/

/-- A document holds the change sets that its elements bring, in place, and what an element brings leaves
its head alone.  Over the whole tree these are the change sets that the texts declare, each with the
logical path and the quoting strategy of the document whose text declares it. -/
theorem changeSets_of_document {workspace : Workspace} {stack : List String} {table : PropertyTable}
    {path : String} {root : Element} {p : Progress}
    (h : document workspace (workspace.loadFile stack) table path root = .ok p) :
    (∃ bare brought,
      documentOf ⟨⟨table, path, workspace.options.scope⟩, path⟩ root = .ok bare ∧
      ContributesEach workspace (workspace.loadFile stack) ⟨table, bare⟩ root.children brought ∧
      p.document.changeSets = brought.flatten ∧
      ∀ before after between, root.children = before ++ after →
        before.foldlM (addDocumentPart workspace (workspace.loadFile stack)) ⟨table, bare⟩ = .ok between →
        between.document.head = bare) ∧
    ∃ loaded, (∀ other, RootGives workspace stack table path root other ↔ other = loaded) ∧
      p.document = loaded.document ∧ p.document.changeSets = declaredBy loaded.parts := by
  -- The parts give the change sets of the whole tree, the steps those of each element of the root.
  have hparts := h
  rw [document_eq_parts (partsOf_fileParts workspace stack)] at hparts
  obtain ⟨loaded, hloaded, rfl⟩ := map_eq_ok hparts
  obtain ⟨bare, hbare, hsteps⟩ := bind_eq_ok h
  obtain ⟨brought, hbrought, hextends⟩ := extends_of_elements hsteps
  have hroot := fromRoot_documentParts hloaded
  have hempty : bare.changeSets = [] := by
    rw [eq_head_of_documentOf hbare]
    rfl
  have hflatten := hextends.changeSets
  rw [hempty, List.nil_append] at hflatten
  have hdeclared := changeSets_assemble loaded.parts loaded.bare hroot.includes
  rw [hroot.changeSets, List.nil_append] at hdeclared
  have honly : ∀ other, RootGives workspace stack table path root other ↔ other = loaded := by
    intro other
    rw [rootGives_iff, hloaded, Except.ok.injEq]
    exact eq_comm
  refine ⟨⟨bare, brought, hbare, contributesEach_of_contributions hbrought, hflatten, ?_⟩,
    loaded, honly, rfl, hdeclared⟩
  intro before after between _ hbefore
  obtain ⟨_, -, hkept⟩ := extends_of_elements hbefore
  exact hkept.head.trans (eq_head_of_documentOf hbare).symm

/-! ### A file that includes another, and a directory -/

def leafText : String := "databaseChangeLog \x7b changeSet(id: \"4\") \x7b empty \x7d \x7d"

def renamedText : String :=
  "databaseChangeLog(logicalFilePath: \"b\", objectQuotingStrategy: \"LEGACY\") " ++
    "\x7b changeSet(id: \"2\") \x7b empty \x7d; include(file: \"c\") \x7d"

/-- An element with one attribute, whose text is given between double quotes. -/
def writtenElement (name key : Written.Name) (value : List (Written.QuotedChar .double)) (block : Written.Block) :
    Written.Element :=
  .node name (.parens [] [⟨[], .named key [] [.space] (.string (.short .double value)), []⟩] ⟨none, []⟩) block

def writtenChangeSet (id : List (Written.QuotedChar .double)) : Written.Element :=
  writtenElement (.ofString "changeSet") (.ofString "id") id
    (.braces [false] [.space] (.last (.node (.ofString "empty") .none .none)) [.space])

def leafDocument : Written.Document where
  before := []
  inside := .last (.node (.ofString "databaseChangeLog") .none
    (.braces [false] [.space] (.last (writtenChangeSet [.plain '4' (by decide)])) [.space]))
  after := []

def renamedDocument : Written.Document where
  before := []
  inside := .last (.node (.ofString "databaseChangeLog")
    (.parens []
      [⟨[], .named (.ofString "logicalFilePath") [] [.space]
          (.string (.short .double [.plain 'b' (by decide)])), []⟩,
        ⟨[.space], .named (.ofString "objectQuotingStrategy") [] [.space]
          (.string (.short .double [.plain 'L' (by decide), .plain 'E' (by decide),
            .plain 'G' (by decide), .plain 'A' (by decide), .plain 'C' (by decide),
            .plain 'Y' (by decide)])), []⟩]
      ⟨none, []⟩)
    (.braces [false] [.space]
      (.cons (writtenChangeSet [.plain '2' (by decide)]) ⟨false, [.space]⟩
        (.last (writtenElement (.ofString "include") (.ofString "file") [.plain 'c' (by decide)] .none)))
      [.space]))
  after := []

def nestedWorkspace : Workspace where
  accessor := MemoryResources.accessor
    { texts := [("a", some renamedText), ("c", some leafText), ("d/x.changelog", some leafText),
        ("d/y.changelog", some leafText)]
      listings := [("d", ["d/y.changelog", "d/z.txt", "d/x.changelog"])] }

def emptyChangeSet (id : String) : Element where
  name := "changeSet"
  attributes := .ofList [("id", .string id)]
  args := []
  children := [
    { name := "empty", attributes := .empty, args := [], children := [], line := 1 }]
  line := 1

def inclusionElement (name key path : String) : Element where
  name := name
  attributes := .ofList [(key, .string path)]
  args := []
  children := []
  line := 1

def leafRoot : Element where
  name := "databaseChangeLog"
  attributes := .empty
  args := []
  children := [emptyChangeSet "4"]
  line := 1

def renamedRoot : Element where
  name := "databaseChangeLog"
  attributes := .ofList [("logicalFilePath", .string "b"), ("objectQuotingStrategy", .string "LEGACY")]
  args := []
  children := [emptyChangeSet "2", inclusionElement "include" "file" "c"]
  line := 1

def nestedRoot : Element where
  name := "databaseChangeLog"
  attributes := .empty
  args := []
  children := [emptyChangeSet "1", inclusionElement "include" "file" "a",
    inclusionElement "includeAll" "path" "d", emptyChangeSet "3"]
  line := 1

theorem readElements_leafText : Source.readElements leafText = .ok [leafRoot] := by
  have htext : leafDocument.text = leafText.toList := by
    decide
  have helements : leafDocument.elements = [leafRoot] := by
    with_unfolding_all rfl
  rw [Written.readElements_of_text htext (by decide), helements]

theorem readElements_renamedText : Source.readElements renamedText = .ok [renamedRoot] := by
  have htext : renamedDocument.text = renamedText.toList := by
    decide +kernel
  have helements : renamedDocument.elements = [renamedRoot] := by
    with_unfolding_all rfl
  rw [Written.readElements_of_text htext (by decide), helements]

def builtChangeSet (id path : String) (quoting : Option QuotingStrategy) : ChangeSet where
  id := id
  author := ""
  filePath := path
  runAlways := false
  runOnChange := false
  context := none
  labels := []
  dbms := []
  runInTransaction := true
  failOnError := none
  onValidationFail := .halt
  quotingStrategy := quoting
  comments := none
  validChecksums := []
  preconditions := none
  changes := [.ofKind .empty .empty]
  rollback := []
  sqlAdjustments := []

def leafLoaded (path : String) : Loaded := ⟨.ofPath path, [.changeSet (builtChangeSet "4" path none)]⟩

def renamedLoaded : Loaded where
  bare := { Document.ofPath "a" with logicalPath := "b", quotingStrategy := some .legacy }
  parts := [.changeSet (builtChangeSet "2" "b" (some .legacy)), (leafLoaded "c").part]

def nestedLoaded : Loaded where
  bare := .ofPath "main"
  parts := [.changeSet (builtChangeSet "1" "main" none), renamedLoaded.part,
    (leafLoaded "d/x.changelog").part, (leafLoaded "d/y.changelog").part,
    .changeSet (builtChangeSet "3" "main" none)]

theorem fileGives_leaf {stack : List String} {path : String} (hopen : ¬isOpen stack path)
    (hread : nestedWorkspace.accessor.read path = .ok leafText) :
    FileGives nestedWorkspace stack .empty path (leafLoaded path) := by
  have hbare : documentOf ⟨⟨.empty, path, nestedWorkspace.options.scope⟩, path⟩ leafRoot =
      .ok (.ofPath path) := by
    with_unfolding_all rfl
  have hdeclares : Declares nestedWorkspace.options.scope (.ofPath path) ⟨.empty, .ofPath path⟩
      (emptyChangeSet "4") (builtChangeSet "4" path none) := by
    refine ⟨rfl, ?_, rfl, none, ?_, rfl⟩
    · with_unfolding_all rfl
    · with_unfolding_all rfl
  have helements : ElementsGive nestedWorkspace (stack ++ [path]) (.ofPath path) ⟨.empty, .ofPath path⟩
      [emptyChangeSet "4"] [.changeSet (builtChangeSet "4" path none)] :=
    .cons [_] rfl (.changeSet hdeclares) .nil
  have hroot : rootOf path [leafRoot] = .ok leafRoot := rfl
  exact .intro hopen hread readElements_leafText hroot (.intro hbare helements)

theorem picksUp_include (document : Document) {file : String} (hfile : file = "a" ∨ file = "c") :
    PicksUp nestedWorkspace ((Progress.mk .empty document).site nestedWorkspace.options.scope)
      (inclusionElement "include" "file" file) [file] := by
  have hnames : NamesFile ((Progress.mk .empty document).site nestedWorkspace.options.scope)
      (inclusionElement "include" "file" file) file := by
    refine ⟨rfl, ?_, rfl, file, ?_, ?_⟩
    · rcases hfile with rfl | rfl <;> decide
    · rcases hfile with rfl | rfl <;> with_unfolding_all rfl
    · rcases hfile with rfl | rfl <;> with_unfolding_all rfl
  refine .file hnames (.inr ?_)
  rcases hfile with rfl | rfl <;> rfl

theorem picksUp_includeAll (document : Document) :
    PicksUp nestedWorkspace ((Progress.mk .empty document).site nestedWorkspace.options.scope)
      (inclusionElement "includeAll" "path" "d") ["d/x.changelog", "d/y.changelog"] := by
  have hdirectory : NamesDirectory nestedWorkspace.filters
      ((Progress.mk .empty document).site nestedWorkspace.options.scope)
      (inclusionElement "includeAll" "path" "d") "d" ⟨fun _ => true⟩ := by
    refine ⟨rfl, by decide, rfl, ⟨"d", ?_, ?_⟩, ?_⟩
    · with_unfolding_all rfl
    · with_unfolding_all rfl
    · with_unfolding_all rfl
  have hsurviving : surviving nestedWorkspace ⟨fun _ => true⟩ ["d/y.changelog", "d/z.txt", "d/x.changelog"] =
      ["d/y.changelog", "d/x.changelog"] := by
    decide +kernel
  refine .directory hdirectory rfl (by decide +kernel) ?_ (List.cons_ne_nil _ _)
  rw [hsurviving]
  exact List.Perm.swap _ _ _

theorem fileGives_renamed : FileGives nestedWorkspace ["main"] .empty "a" renamedLoaded := by
  have hbare : documentOf ⟨⟨.empty, "a", nestedWorkspace.options.scope⟩, "a"⟩ renamedRoot =
      .ok renamedLoaded.bare := by
    with_unfolding_all rfl
  have hdeclares : Declares nestedWorkspace.options.scope renamedLoaded.bare ⟨.empty, renamedLoaded.bare⟩
      (emptyChangeSet "2") (builtChangeSet "2" "b" (some .legacy)) := by
    refine ⟨rfl, ?_, rfl, none, ?_, rfl⟩
    · with_unfolding_all rfl
    · with_unfolding_all rfl
  have hleaf : FilesGive nestedWorkspace ["main", "a"] .empty ["c"] [(leafLoaded "c").part] :=
    .cons (fileGives_leaf (by decide) rfl) .nil
  have hsecond : ElementsGive nestedWorkspace ["main", "a"] renamedLoaded.bare
      (advance ⟨.empty, renamedLoaded.bare⟩ [.changeSet (builtChangeSet "2" "b" (some .legacy))])
      [inclusionElement "include" "file" "c"] [(leafLoaded "c").part] :=
    .cons [_] rfl (.inclusion (picksUp_include _ (.inr rfl)) hleaf) .nil
  have helements : ElementsGive nestedWorkspace ["main", "a"] renamedLoaded.bare
      ⟨.empty, renamedLoaded.bare⟩ renamedRoot.children renamedLoaded.parts :=
    .cons [_] rfl (.changeSet hdeclares) hsecond
  have hroot : rootOf "a" [renamedRoot] = .ok renamedRoot := rfl
  exact .intro (by decide) rfl readElements_renamedText hroot (.intro hbare helements)

theorem rootGives_nestedRoot :
    RootGives nestedWorkspace ["main"] .empty "main" nestedRoot nestedLoaded := by
  have hbare : documentOf ⟨⟨.empty, "main", nestedWorkspace.options.scope⟩, "main"⟩ nestedRoot =
      .ok (.ofPath "main") := by
    with_unfolding_all rfl
  have hdeclares : ∀ {id changeSets}, id = "1" ∨ id = "3" →
      Declares nestedWorkspace.options.scope (.ofPath "main")
        ⟨.empty, { Document.ofPath "main" with changeSets := changeSets }⟩
        (emptyChangeSet id) (builtChangeSet id "main" none) := by
    intro id changeSets hid
    rcases hid with rfl | rfl
    · refine ⟨rfl, ?_, rfl, none, ?_, rfl⟩
      · with_unfolding_all rfl
      · with_unfolding_all rfl
    · refine ⟨rfl, ?_, rfl, none, ?_, rfl⟩
      · with_unfolding_all rfl
      · with_unfolding_all rfl
  have hrenamed : FilesGive nestedWorkspace ["main"] .empty ["a"] [renamedLoaded.part] :=
    .cons fileGives_renamed .nil
  have hleaves : FilesGive nestedWorkspace ["main"] .empty ["d/x.changelog", "d/y.changelog"]
      [(leafLoaded "d/x.changelog").part, (leafLoaded "d/y.changelog").part] :=
    .cons (fileGives_leaf (by decide) rfl) (.cons (fileGives_leaf (by decide) rfl) .nil)
  refine .intro hbare ?_
  refine .cons [.changeSet (builtChangeSet "1" "main" none)] rfl (.changeSet (hdeclares (.inl rfl))) ?_
  refine .cons [renamedLoaded.part] rfl (.inclusion (picksUp_include _ (.inl rfl)) hrenamed) ?_
  refine .cons [(leafLoaded "d/x.changelog").part, (leafLoaded "d/y.changelog").part] rfl
    (.inclusion (picksUp_includeAll _) hleaves) ?_
  exact .cons [.changeSet (builtChangeSet "3" "main" none)] rfl (.changeSet (hdeclares (.inr rfl))) .nil

theorem changeSets_of_document_including :
    ∃ p, document nestedWorkspace (nestedWorkspace.loadFile ["main"]) .empty "main" nestedRoot = .ok p ∧
      p.document.changeSets.map ChangeSet.origin =
        [("1", "main", none), ("2", "b", some .legacy), ("4", "c", none), ("4", "d/x.changelog", none),
          ("4", "d/y.changelog", none), ("3", "main", none)] ∧
      (∃ brought, ContributesEach nestedWorkspace (nestedWorkspace.loadFile ["main"])
          ⟨.empty, .ofPath "main"⟩ nestedRoot.children brought ∧
        p.document.changeSets = brought.flatten) ∧
      p.document.changeSets = declaredBy nestedLoaded.parts := by
  have hparts := rootGives_iff.1 rootGives_nestedRoot
  have hdocument : document nestedWorkspace (nestedWorkspace.loadFile ["main"]) .empty "main" nestedRoot =
      .ok (nestedLoaded.progress .empty) := by
    rw [document_eq_parts (partsOf_fileParts nestedWorkspace ["main"]), hparts]
    rfl
  obtain ⟨⟨bare, brought, hbare, hbrought, hflatten, -⟩, loaded, honly, -, hdeclared⟩ :=
    changeSets_of_document hdocument
  have hmain : documentOf ⟨⟨.empty, "main", nestedWorkspace.options.scope⟩, "main"⟩ nestedRoot =
      .ok (.ofPath "main") := by
    with_unfolding_all rfl
  obtain rfl := Except.ok.inj (hmain.symm.trans hbare)
  obtain rfl := (honly nestedLoaded).1 rootGives_nestedRoot
  exact ⟨_, hdocument, rfl, ⟨brought, hbrought, hflatten⟩, hdeclared⟩

end Loading

end Changelog
