import Changelog.Proofs.Loading.Machine

/-!
# What a load is made of

A load as the tree of all that the elements of the files bring in, in the order of the files' texts.  The
document and the bindings that loading gives are read off this tree.
-/

namespace Changelog.Loading

open Build Workspace

/-- What an element has brought into a document; an inclusion brings the document as it began and the
parts of its own elements. -/
inductive Part
  | changeSet (c : ChangeSet)
  | preconditions (p : Preconditions)
  | bindings (bindings : List Binding)
  | included (bare : Document) (parts : List Part)

mutual

def Part.bound : Part → List Binding
  | .bindings bindings => bindings
  | .included _ parts => boundBy parts
  | .changeSet _ => []
  | .preconditions _ => []

def boundBy : List Part → List Binding
  | [] => []
  | part :: rest => part.bound ++ boundBy rest

end

mutual

def Part.addTo : Part → Document → Document
  | .changeSet c, document => { document with changeSets := document.changeSets ++ [c] }
  | .preconditions p, document => { document with preconditions := some p }
  | .bindings _, document => document
  | .included bare parts, document => splice document (assemble parts bare)

def assemble : List Part → Document → Document
  | [], document => document
  | part :: rest, document => assemble rest (part.addTo document)

end

theorem boundBy_append (parts more : List Part) : boundBy (parts ++ more) = boundBy parts ++ boundBy more := by
  induction parts with
  | nil => rfl
  | cons part rest ih => rw [List.cons_append, boundBy, ih, boundBy, List.append_assoc]

theorem assemble_append (parts more : List Part) (document : Document) :
    assemble (parts ++ more) document = assemble more (assemble parts document) := by
  induction parts generalizing document with
  | nil => rfl
  | cons part rest ih => rw [List.cons_append, assemble, ih, assemble]

structure Loaded where
  bare : Document
  parts : List Part

def Loaded.document (loaded : Loaded) : Document := assemble loaded.parts loaded.bare

def Loaded.part (loaded : Loaded) : Part := .included loaded.bare loaded.parts

def advance (progress : Progress) (parts : List Part) : Progress :=
  ⟨progress.table.defineAll (boundBy parts), assemble parts progress.document⟩

def Loaded.progress (table : PropertyTable) (loaded : Loaded) : Progress :=
  ⟨table.defineAll (boundBy loaded.parts), loaded.document⟩

theorem advance_nil (progress : Progress) : advance progress [] = progress := by
  obtain ⟨⟨bindings⟩, document⟩ := progress
  rw [advance, boundBy, PropertyTable.defineAll, List.append_nil, assemble]

theorem advance_append (progress : Progress) (parts more : List Part) :
    advance progress (parts ++ more) = advance (advance progress parts) more := by
  rw [advance, advance, advance, boundBy_append, assemble_append, PropertyTable.defineAll,
    PropertyTable.defineAll, PropertyTable.defineAll, List.append_assoc]

/-! ### Loading the parts -/

abbrev PartLoader := PropertyTable → String → Except ChangelogError Loaded

def includedParts (load : PartLoader) (table : PropertyTable) :
    List String → Except ChangelogError (List Part)
  | [] => .ok []
  | file :: files => do
    let loaded ← load table file
    let rest ← includedParts load (table.defineAll (boundBy loaded.parts)) files
    return loaded.part :: rest

def elementParts (workspace : Workspace) (load : PartLoader) (progress : Progress) (e : Element) :
    Except ChangelogError (List Part) :=
  let site := progress.site workspace.options.scope
  match Named.ofName? (α := DocumentPart) e.name with
  | some .changeSet => do
    let c ← changeSet site.expander progress.document e
    return [.changeSet c]
  | some .preconditions => do
    let p ← container site e
    return [.preconditions p]
  | some .property => do
    let bindings ← propertyBindings workspace.accessor site e
    return [.bindings bindings]
  | some .includeFile => do
    let files ← includedFile workspace.accessor site e
    includedParts load progress.table files
  | some .includeAll => do
    let files ← includedFiles workspace site e
    includedParts load progress.table files
  | none => .error (.invalidElement e.name rootName site.context)

def elementsParts (workspace : Workspace) (load : PartLoader) (progress : Progress) :
    List Element → Except ChangelogError (List Part)
  | [] => .ok []
  | e :: elements => do
    let parts ← elementParts workspace load progress e
    let rest ← elementsParts workspace load (advance progress parts) elements
    return parts ++ rest

def documentParts (workspace : Workspace) (load : PartLoader) (table : PropertyTable) (path : String)
    (root : Element) : Except ChangelogError Loaded := do
  let bare ← documentOf ⟨⟨table, path, workspace.options.scope⟩, path⟩ root
  let parts ← elementsParts workspace load ⟨table, bare⟩ root.children
  return ⟨bare, parts⟩

def sourceParts (workspace : Workspace) (load : PartLoader) (table : PropertyTable)
    (path source : String) : Except ChangelogError Loaded :=
  match Source.readElements source with
  | .error e => .error (.malformedSource path e)
  | .ok elements => do
    let root ← rootOf path elements
    documentParts workspace load table path root

def fileParts (workspace : Workspace) (stack : List String) (table : PropertyTable) (path : String) :
    Except ChangelogError Loaded :=
  if _hopen : isOpen stack path then .error (.circularInclude path (stack ++ [path]))
  else
    match _hread : workspace.accessor.read path with
    | .error cause => .error (.unreadable path cause)
    | .ok source =>
      sourceParts workspace (fun t p => fileParts workspace (stack ++ [path]) t p) table path source
termination_by (unopened workspace.accessor stack).length
decreasing_by exact length_unopened_lt _hread _hopen

section File

variable {workspace : Workspace} {stack : List String} {path : String}

theorem fileParts_of_open (h : isOpen stack path) (table : PropertyTable) :
    fileParts workspace stack table path = .error (.circularInclude path (stack ++ [path])) := by
  rw [fileParts, dif_pos h]

theorem fileParts_of_unreadable (hopen : ¬isOpen stack path) {cause : ResourceError}
    (hread : workspace.accessor.read path = .error cause) (table : PropertyTable) :
    fileParts workspace stack table path = .error (.unreadable path cause) := by
  rw [fileParts, dif_neg hopen]
  split
  · next other hother =>
    rw [hread, Except.error.injEq] at hother
    rw [hother]
  · next source hother =>
    rw [hread] at hother
    cases hother

theorem fileParts_of_read (hopen : ¬isOpen stack path) {source : String}
    (hread : workspace.accessor.read path = .ok source) (table : PropertyTable) :
    fileParts workspace stack table path =
      sourceParts workspace (fileParts workspace (stack ++ [path])) table path source := by
  rw [fileParts, dif_neg hopen]
  split
  · next cause hother =>
    rw [hread] at hother
    cases hother
  · next other hother =>
    rw [hread, Except.ok.injEq] at hother
    rw [hother]

end File

/-! ### The parts make up what is loaded -/

def PartsOf (load : Loader) (loadParts : PartLoader) : Prop :=
  ∀ table path, load table path = (loadParts table path).map (Loaded.progress table)

section Agreement

variable {workspace : Workspace} {load : Loader} {loadParts : PartLoader}

theorem advance_part (progress : Progress) (loaded : Loaded) :
    advance progress [loaded.part] =
      ⟨progress.table.defineAll (boundBy loaded.parts), splice progress.document loaded.document⟩ := by
  rw [advance, boundBy, boundBy, List.append_nil]
  rfl

theorem addInclusion_eq (h : PartsOf load loadParts) (progress : Progress) (file : String) :
    addInclusion load progress file =
      (loadParts progress.table file).map fun loaded => advance progress [loaded.part] := by
  rw [addInclusion, h]
  cases loadParts progress.table file with
  | error e => rfl
  | ok loaded => exact congrArg Except.ok (advance_part progress loaded).symm

theorem foldlM_addInclusion (h : PartsOf load loadParts) (progress : Progress) (files : List String) :
    files.foldlM (addInclusion load) progress =
      (includedParts loadParts progress.table files).map (advance progress) := by
  induction files generalizing progress with
  | nil => exact congrArg Except.ok (advance_nil progress).symm
  | cons file files ih =>
    rw [List.foldlM_cons, addInclusion_eq h, includedParts]
    cases loadParts progress.table file with
    | error e => rfl
    | ok loaded =>
      have htable : (advance progress [loaded.part]).table =
          progress.table.defineAll (boundBy loaded.parts) := by
        rw [advance_part]
      have hrest := ih (advance progress [loaded.part])
      rw [htable] at hrest
      refine hrest.trans ?_
      rw [ok_bind]
      cases includedParts loadParts (progress.table.defineAll (boundBy loaded.parts)) files with
      | error e => rfl
      | ok rest => exact congrArg Except.ok (advance_append progress [loaded.part] rest).symm

theorem addDocumentPart_eq_parts (h : PartsOf load loadParts) (progress : Progress) (e : Element) :
    addDocumentPart workspace load progress e =
      (elementParts workspace loadParts progress e).map (advance progress) := by
  unfold addDocumentPart elementParts
  cases Named.ofName? (α := DocumentPart) e.name with
  | none => rfl
  | some part =>
    cases part with
    | changeSet =>
      dsimp only
      cases changeSet (progress.site workspace.options.scope).expander progress.document e with
      | error e => rfl
      | ok c => exact congrArg Except.ok (advance_nil _).symm
    | preconditions =>
      dsimp only
      cases container (progress.site workspace.options.scope) e with
      | error e => rfl
      | ok p => exact congrArg Except.ok (advance_nil _).symm
    | property =>
      dsimp only
      cases propertyBindings workspace.accessor (progress.site workspace.options.scope) e with
      | error e => rfl
      | ok bindings =>
        have hadvance : advance progress [.bindings bindings] =
            { progress with table := progress.table.defineAll bindings } := by
          rw [advance, boundBy, boundBy, List.append_nil]
          rfl
        exact congrArg Except.ok hadvance.symm
    -- An inclusion adds the parts of its files one by one, each time with the bindings made so far.
    | includeFile =>
      dsimp only
      cases includedFile workspace.accessor (progress.site workspace.options.scope) e with
      | error e => rfl
      | ok files => exact foldlM_addInclusion h progress files
    | includeAll =>
      dsimp only
      cases includedFiles workspace (progress.site workspace.options.scope) e with
      | error e => rfl
      | ok files => exact foldlM_addInclusion h progress files

theorem foldlM_addDocumentPart (h : PartsOf load loadParts) (progress : Progress)
    (elements : List Element) :
    elements.foldlM (addDocumentPart workspace load) progress =
      (elementsParts workspace loadParts progress elements).map (advance progress) := by
  induction elements generalizing progress with
  | nil => exact congrArg Except.ok (advance_nil progress).symm
  | cons e elements ih =>
    rw [List.foldlM_cons, addDocumentPart_eq_parts h, elementsParts]
    cases elementParts workspace loadParts progress e with
    | error e => rfl
    | ok parts =>
      refine (ih (advance progress parts)).trans ?_
      rw [ok_bind]
      cases elementsParts workspace loadParts (advance progress parts) elements with
      | error e => rfl
      | ok rest => exact congrArg Except.ok (advance_append progress parts rest).symm

theorem document_eq_parts (h : PartsOf load loadParts) (table : PropertyTable) (path : String)
    (root : Element) :
    document workspace load table path root =
      (documentParts workspace loadParts table path root).map (Loaded.progress table) := by
  unfold document documentParts
  cases documentOf ⟨⟨table, path, workspace.options.scope⟩, path⟩ root with
  | error e => rfl
  | ok bare =>
    rw [ok_bind, ok_bind, foldlM_addDocumentPart h]
    cases elementsParts workspace loadParts ⟨table, bare⟩ root.children <;> rfl

theorem documentOfSource_eq_parts (h : PartsOf load loadParts) (table : PropertyTable)
    (path source : String) :
    documentOfSource workspace load table path source =
      (sourceParts workspace loadParts table path source).map (Loaded.progress table) := by
  unfold documentOfSource sourceParts
  cases Source.readElements source with
  | error e => rfl
  | ok elements =>
    dsimp only
    cases rootOf path elements with
    | error e => rfl
    | ok root => exact document_eq_parts h table path root

end Agreement

theorem partsOf_fileParts (workspace : Workspace) (stack : List String) :
    PartsOf (workspace.loadFile stack) (fileParts workspace stack) := by
  intro table path
  by_cases hopen : isOpen stack path
  · rw [loadFile_of_open hopen, fileParts_of_open hopen]
    rfl
  · cases hread : workspace.accessor.read path with
    | error cause =>
      rw [loadFile_of_unreadable hopen hread, fileParts_of_unreadable hopen hread]
      rfl
    | ok source =>
      rw [loadFile_of_read hopen hread, fileParts_of_read hopen hread]
      exact documentOfSource_eq_parts (partsOf_fileParts workspace (stack ++ [path])) table path source
termination_by (unopened workspace.accessor stack).length
decreasing_by exact length_unopened_lt hread hopen

/-! ### Loading from a file, a text or an element -/

def Loaded.finished (loaded : Loaded) : Document :=
  { loaded.document with properties := boundBy loaded.parts }

theorem load_eq_parts (workspace : Workspace) (path : String) :
    workspace.load path = (fileParts workspace [] .empty path).map Loaded.finished := by
  rw [load, partsOf_fileParts]
  cases fileParts workspace [] .empty path <;> rfl

theorem loadSource_eq_parts (workspace : Workspace) (source path : String) :
    workspace.loadSource source path =
      (sourceParts workspace (fileParts workspace [path]) .empty path source).map Loaded.finished := by
  rw [loadSource, documentOfSource_eq_parts (partsOf_fileParts workspace [path])]
  cases sourceParts workspace (fileParts workspace [path]) .empty path source <;> rfl

def rootParts (workspace : Workspace) (root : Element) (path : String) : Except ChangelogError Loaded := do
  let root ← rootOf path [root]
  documentParts workspace (fileParts workspace [path]) .empty path root

theorem loadElement_eq_parts (workspace : Workspace) (root : Element) (path : String) :
    workspace.loadElement root path = (rootParts workspace root path).map Loaded.finished := by
  unfold loadElement rootParts
  cases rootOf path [root] with
  | error e => rfl
  | ok root =>
    rw [ok_bind, ok_bind, document_eq_parts (partsOf_fileParts workspace [path])]
    cases documentParts workspace (fileParts workspace [path]) .empty path root <;> rfl

/-- The ways to load a document that has the given root. -/
inductive Loads (workspace : Workspace) (path : String) (root : Element) (d : Document) : Prop
  | element (h : workspace.loadElement root path = .ok d)
  | source (text : String) (hroot : Source.readElements text = .ok [root])
      (h : workspace.loadSource text path = .ok d)
  | file (text : String) (hread : workspace.accessor.read path = .ok text)
      (hroot : Source.readElements text = .ok [root]) (h : workspace.load path = .ok d)

theorem sourceParts_of_root {workspace : Workspace} {path source : String} {root : Element}
    (hroot : Source.readElements source = .ok [root]) :
    sourceParts workspace (fileParts workspace [path]) .empty path source =
      rootParts workspace root path := by
  rw [sourceParts, hroot]
  rfl

theorem fileParts_of_root {workspace : Workspace} {path source : String} {root : Element}
    (hread : workspace.accessor.read path = .ok source)
    (hroot : Source.readElements source = .ok [root]) :
    fileParts workspace [] .empty path = rootParts workspace root path := by
  have hopen : ¬isOpen [] path := List.not_mem_nil
  rw [fileParts_of_read hopen hread, List.nil_append, sourceParts_of_root hroot]

theorem Loads.parts {workspace : Workspace} {path : String} {root : Element} {d : Document}
    (h : Loads workspace path root d) :
    ∃ loaded, rootParts workspace root path = .ok loaded ∧ loaded.finished = d := by
  have hparts : (rootParts workspace root path).map Loaded.finished = .ok d := by
    cases h with
    | element h => rw [← h, loadElement_eq_parts]
    | source text hroot h => rw [← h, loadSource_eq_parts, sourceParts_of_root hroot]
    | file text hread hroot h => rw [← h, load_eq_parts, fileParts_of_root hread hroot]
  cases hroot : rootParts workspace root path with
  | error e =>
    rw [hroot] at hparts
    cases hparts
  | ok loaded =>
    rw [hroot] at hparts
    exact ⟨loaded, rfl, Except.ok.inj hparts⟩

/-! ### Included documents -/

section Included

variable {workspace : Workspace} {load : PartLoader} {bare : Document} {inner : List Part}

theorem mem_includedParts {table : PropertyTable} {files : List String} {parts : List Part}
    (h : includedParts load table files = .ok parts) (hmem : .included bare inner ∈ parts) :
    ∃ table file, load table file = .ok ⟨bare, inner⟩ := by
  induction files generalizing table parts with
  | nil =>
    obtain rfl : [] = parts := Except.ok.inj h
    cases hmem
  | cons file files ih =>
    rw [includedParts] at h
    obtain ⟨loaded, hloaded, h⟩ := bind_eq_ok h
    obtain ⟨rest, hrest, h⟩ := bind_eq_ok h
    obtain rfl : loaded.part :: rest = parts := Except.ok.inj h
    cases List.mem_cons.1 hmem with
    | inl hhead =>
      obtain ⟨rfl, rfl⟩ := Part.included.inj hhead
      exact ⟨table, file, hloaded⟩
    | inr htail => exact ih hrest htail

theorem mem_elementParts {progress : Progress} {e : Element} {parts : List Part}
    (h : elementParts workspace load progress e = .ok parts) (hmem : .included bare inner ∈ parts) :
    ∃ table file, load table file = .ok ⟨bare, inner⟩ := by
  unfold elementParts at h
  cases hpart : Named.ofName? (α := DocumentPart) e.name with
  | none =>
    rw [hpart] at h
    cases h
  | some part =>
    rw [hpart] at h
    cases part with
    | changeSet =>
      obtain ⟨c, -, h⟩ := bind_eq_ok h
      obtain rfl := Except.ok.inj h
      cases List.mem_singleton.1 hmem
    | preconditions =>
      obtain ⟨p, -, h⟩ := bind_eq_ok h
      obtain rfl := Except.ok.inj h
      cases List.mem_singleton.1 hmem
    | property =>
      obtain ⟨bindings, -, h⟩ := bind_eq_ok h
      obtain rfl := Except.ok.inj h
      cases List.mem_singleton.1 hmem
    | includeFile =>
      obtain ⟨files, -, h⟩ := bind_eq_ok h
      exact mem_includedParts h hmem
    | includeAll =>
      obtain ⟨files, -, h⟩ := bind_eq_ok h
      exact mem_includedParts h hmem

theorem mem_elementsParts {progress : Progress} {elements : List Element} {parts : List Part}
    (h : elementsParts workspace load progress elements = .ok parts)
    (hmem : .included bare inner ∈ parts) : ∃ table file, load table file = .ok ⟨bare, inner⟩ := by
  induction elements generalizing progress parts with
  | nil =>
    obtain rfl : [] = parts := Except.ok.inj h
    cases hmem
  | cons e elements ih =>
    rw [elementsParts] at h
    obtain ⟨first, hfirst, h⟩ := bind_eq_ok h
    obtain ⟨rest, hrest, h⟩ := bind_eq_ok h
    obtain rfl : first ++ rest = parts := Except.ok.inj h
    cases List.mem_append.1 hmem with
    | inl hhead => exact mem_elementParts hfirst hhead
    | inr htail => exact ih hrest htail

end Included

/-- All documents included were loaded from files. -/
def FromFiles (workspace : Workspace) (parts : List Part) : Prop :=
  ∀ bare inner, .included bare inner ∈ parts →
    ∃ stack table path, fileParts workspace stack table path = .ok ⟨bare, inner⟩

theorem FromFiles.head {workspace : Workspace} {part : Part} {rest : List Part}
    (h : FromFiles workspace (part :: rest)) : FromFiles workspace [part] :=
  fun bare inner hmem => h bare inner (List.mem_cons.2 (.inl (List.mem_singleton.1 hmem)))

theorem FromFiles.tail {workspace : Workspace} {part : Part} {rest : List Part}
    (h : FromFiles workspace (part :: rest)) : FromFiles workspace rest :=
  fun bare inner hmem => h bare inner (List.mem_cons_of_mem _ hmem)

/-- A document begins with the attributes of its root, and all that it includes comes from files. -/
structure Loaded.FromRoot (workspace : Workspace) (loaded : Loaded) : Prop where
  begins : ∃ site root, documentOf site root = .ok loaded.bare
  includes : FromFiles workspace loaded.parts

section FromRoot

variable {workspace : Workspace} {stack : List String} {table : PropertyTable} {path : String}
  {loaded : Loaded}

theorem fromRoot_documentParts {root : Element}
    (h : documentParts workspace (fileParts workspace stack) table path root = .ok loaded) :
    loaded.FromRoot workspace := by
  obtain ⟨bare, hbare, h⟩ := bind_eq_ok h
  obtain ⟨parts, hparts, h⟩ := bind_eq_ok h
  obtain rfl := Except.ok.inj h
  refine ⟨⟨_, _, hbare⟩, fun bare inner hmem => ?_⟩
  obtain ⟨table, path, hfile⟩ := mem_elementsParts hparts hmem
  exact ⟨stack, table, path, hfile⟩

theorem fromRoot_sourceParts {source : String}
    (h : sourceParts workspace (fileParts workspace stack) table path source = .ok loaded) :
    loaded.FromRoot workspace := by
  unfold sourceParts at h
  cases helements : Source.readElements source with
  | error e =>
    rw [helements] at h
    cases h
  | ok elements =>
    rw [helements] at h
    obtain ⟨root, -, h⟩ := bind_eq_ok h
    exact fromRoot_documentParts h

theorem fromRoot_fileParts (h : fileParts workspace stack table path = .ok loaded) :
    loaded.FromRoot workspace := by
  by_cases hopen : isOpen stack path
  · rw [fileParts_of_open hopen] at h
    cases h
  · cases hread : workspace.accessor.read path with
    | error cause =>
      rw [fileParts_of_unreadable hopen hread] at h
      cases h
    | ok source =>
      rw [fileParts_of_read hopen hread] at h
      exact fromRoot_sourceParts h

theorem fromRoot_rootParts {root : Element} (h : rootParts workspace root path = .ok loaded) :
    loaded.FromRoot workspace := by
  obtain ⟨root, -, h⟩ := bind_eq_ok h
  exact fromRoot_documentParts h

end FromRoot

end Changelog.Loading
