import Changelog.Resource.Memory
import Changelog.Proofs.Loading.Agreement
import Changelog.Proofs.Build.Inclusion
import Changelog.Proofs.Loading.Inclusion

/-!
# The order of listings

The files of a directory are included in the order of their paths.  The order in which an accessor lists
them is therefore never seen: not in a document, not in its bindings, and not in what is reported first.
-/

namespace Changelog

open Build Workspace

/-- Two listings fail both, or they list the same files, each as often, in whatever order. -/
inductive SameListing : Except ResourceError (List String) → Except ResourceError (List String) → Prop
  | failed (cause cause' : ResourceError) : SameListing (.error cause) (.error cause')
  | listed {files files' : List String} (h : files.Perm files') : SameListing (.ok files) (.ok files')

structure SameResources (a b : Accessor) : Prop where
  read : ∀ path, a.read path = b.read path
  has : ∀ path, a.has path = b.has path
  list : ∀ directory, SameListing (a.list directory) (b.list directory)

theorem changelogsOf_of_perm (extension : String) (filter : PathFilter) {files files' : List String}
    (h : files.Perm files') : changelogsOf extension filter files = changelogsOf extension filter files' := by
  have hperm : (changelogsOf extension filter files).Perm (changelogsOf extension filter files') :=
    (List.mergeSort_perm _ _).trans ((h.filter _).trans (List.mergeSort_perm _ _).symm)
  exact List.Perm.eq_of_pairwise (fun _ _ _ _ hab hba => String.le_antisymm hab hba)
    (sorted_changelogsOf extension filter files)
    (sorted_changelogsOf extension filter files') hperm

section Same

variable {a b : Accessor} (h : SameResources a b)

include h

theorem propertyBindings_of_same (site : Site) (e : Element) :
    propertyBindings a site e = propertyBindings b site e := by
  unfold propertyBindings propertyEntries
  simp only [h.read]

theorem includedFile_of_same (site : Site) (e : Element) :
    includedFile a site e = includedFile b site e := by
  unfold includedFile
  simp only [h.has]

variable (filters : FilterRegistry) (options : Options)

theorem includedFiles_of_same (site : Site) (e : Element) :
    includedFiles ⟨a, filters, options⟩ site e = includedFiles ⟨b, filters, options⟩ site e := by
  unfold includedFiles
  refine congrArg (_ >>= ·) (funext fun _ => ?_)
  refine congrArg (_ >>= ·) (funext fun _ => ?_)
  refine congrArg (_ >>= ·) (funext fun written => ?_)
  refine congrArg (_ >>= ·) (funext fun filter => ?_)
  dsimp only
  have hlisting := h.list (placeOf (site.expander.attributes e.attributes) site.expander.document written)
  generalize a.list _ = own, b.list _ = other at hlisting ⊢
  cases hlisting with
  | failed cause cause' => rfl
  | listed hperm =>
    dsimp only
    rw [changelogsOf_of_perm _ _ hperm]

theorem addDocumentPart_of_same (load : Loader) :
    addDocumentPart ⟨a, filters, options⟩ load = addDocumentPart ⟨b, filters, options⟩ load := by
  funext progress e
  unfold addDocumentPart
  simp only [propertyBindings_of_same h, includedFile_of_same h, includedFiles_of_same h]

theorem agree_of_sameResources :
    Loading.Agree ⟨a, filters, options⟩ ⟨b, filters, options⟩ where
  read := h.read
  begins _ _ _ := rfl
  part load progress e := by rw [addDocumentPart_of_same h]

theorem documentOfSource_of_same (load : Loader) (table : PropertyTable) (path source : String) :
    documentOfSource ⟨a, filters, options⟩ load table path source =
      documentOfSource ⟨b, filters, options⟩ load table path source :=
  (agree_of_sameResources h filters options).documentOfSource load table path source

theorem loadFile_of_same (stack : List String) :
    loadFile ⟨a, filters, options⟩ stack = loadFile ⟨b, filters, options⟩ stack :=
  (agree_of_sameResources h filters options).loadFile stack

end Same

/-- Accessors that differ only in the order of their listings give the same documents, with the same
bindings, and the same errors, whatever is included and in whichever way a document is loaded. -/
theorem load_of_sameResources {a b : Accessor} (h : SameResources a b) (filters : FilterRegistry)
    (options : Options) :
    (∀ path, load ⟨a, filters, options⟩ path = load ⟨b, filters, options⟩ path) ∧
    (∀ source path,
      loadSource ⟨a, filters, options⟩ source path = loadSource ⟨b, filters, options⟩ source path) ∧
    ∀ root path,
      loadElement ⟨a, filters, options⟩ root path = loadElement ⟨b, filters, options⟩ root path := by
  refine ⟨fun path => ?_, fun source path => ?_, fun root path => ?_⟩
  · rw [load, load, loadFile_of_same h]
  · rw [loadSource, loadSource, documentOfSource_of_same h, loadFile_of_same h]
  · unfold loadElement document
    rw [addDocumentPart_of_same h, loadFile_of_same h]

/-! ### A directory in two orders -/

def undecodable (listing : List String) : Accessor :=
  MemoryResources.accessor ⟨[("d/a.changelog", none), ("d/b.changelog", none)], [("d", listing)]⟩

def includeAllElement : Element where
  name := "includeAll"
  attributes := .ofList [("path", .string "d")]
  args := []
  children := []
  line := 1

def includeAllRoot : Element where
  name := "databaseChangeLog"
  attributes := .empty
  args := []
  children := [includeAllElement]
  line := 1

theorem sameResources_undecodable {listing listing' : List String} (h : listing.Perm listing') :
    SameResources (undecodable listing) (undecodable listing') where
  read path := rfl
  has path := rfl
  list directory := by
    show SameListing (MemoryResources.list _ directory) (MemoryResources.list _ directory)
    unfold MemoryResources.list
    dsimp only
    rw [List.lookup_cons, List.lookup_cons]
    cases directory == "d" with
    | true => exact .listed h
    | false => exact .failed _ _

theorem changelogsOf_undecodable :
    changelogsOf defaultExtension ⟨fun _ => true⟩ ["d/a.changelog", "d/b.changelog"] =
      ["d/a.changelog", "d/b.changelog"] := by
  have hfiltered : (["d/a.changelog", "d/b.changelog"].filter
      fun path => Path.hasExtension path defaultExtension && true) =
        ["d/a.changelog", "d/b.changelog"] := by
    decide +kernel
  have hsorted : ["d/a.changelog", "d/b.changelog"].Pairwise fun a b => decide (a ≤ b) = true := by
    decide +kernel
  exact (congrArg (List.mergeSort · _) hfiltered).trans (List.mergeSort_of_pairwise hsorted)

theorem includedFiles_undecodable :
    includedFiles ⟨undecodable ["d/a.changelog", "d/b.changelog"], .empty, {}⟩
      ⟨⟨.empty, "main", .any⟩, "main"⟩ includeAllElement = .ok ["d/a.changelog", "d/b.changelog"] := by
  let attributes := Expander.attributes ⟨.empty, "main", .any⟩ includeAllElement.attributes
  have hattributes :
      checkAttributes "includeAll" includeAllElement.attributes includeAllAttributes "main" = .ok () := by
    decide +kernel
  have hpositional :
      rejectPositional includeAllElement.name includeAllElement.args "main" = .ok () := rfl
  have hpath : requiredText attributes "includeAll" "path" "main" = .ok "d" := by
    with_unfolding_all rfl
  have hfilter : namedFilter .empty ⟨⟨.empty, "main", .any⟩, "main"⟩ attributes =
      .ok ⟨fun _ => true⟩ := by
    with_unfolding_all rfl
  have hplace : placeOf attributes "main" "d" = "d" := by
    with_unfolding_all rfl
  unfold includedFiles
  rw [hattributes, ok_bind, hpositional, ok_bind]
  dsimp only
  rw [hpath, ok_bind, hfilter, ok_bind, hplace]
  dsimp only [undecodable, MemoryResources.accessor]
  have hlisted : MemoryResources.list
      ⟨[("d/a.changelog", none), ("d/b.changelog", none)], [("d", ["d/a.changelog", "d/b.changelog"])]⟩
      "d" = .ok ["d/a.changelog", "d/b.changelog"] := rfl
  rw [hlisted]
  dsimp only
  rw [changelogsOf_undecodable]
  rfl

/-- The first of the files is reported, as the files are sorted. -/
theorem loadElement_undecodable :
    loadElement ⟨undecodable ["d/a.changelog", "d/b.changelog"], .empty, {}⟩ includeAllRoot "main" =
      .error (.unreadable "d/a.changelog" .undecodable) := by
  have hroot : rootOf "main" [includeAllRoot] = .ok includeAllRoot := rfl
  have hbare : documentOf ⟨⟨.empty, "main", .any⟩, "main"⟩ includeAllRoot = .ok (.ofPath "main") := by
    with_unfolding_all rfl
  have hchildren : includeAllRoot.children = [includeAllElement] := rfl
  have hpart : Named.ofName? (α := DocumentPart) includeAllElement.name = some .includeAll := by decide
  have hopen : ¬isOpen ["main"] "d/a.changelog" := by decide
  have hread : (undecodable ["d/a.changelog", "d/b.changelog"]).read "d/a.changelog" =
      .error .undecodable := rfl
  have hinclude : addDocumentPart ⟨undecodable ["d/a.changelog", "d/b.changelog"], .empty, {}⟩
      (loadFile ⟨undecodable ["d/a.changelog", "d/b.changelog"], .empty, {}⟩ ["main"])
      ⟨.empty, .ofPath "main"⟩ includeAllElement = .error (.unreadable "d/a.changelog" .undecodable) := by
    unfold addDocumentPart
    rw [hpart]
    refine (congrArg (· >>= _) includedFiles_undecodable).trans ?_
    rw [ok_bind, List.foldlM_cons, addInclusion, Loading.loadFile_of_unreadable hopen hread]
    rfl
  rw [loadElement, hroot, ok_bind, document, hbare, ok_bind, hchildren, List.foldlM_cons, hinclude]
  rfl

theorem load_of_sameResources_reversed :
    SameResources (undecodable ["d/b.changelog", "d/a.changelog"])
      (undecodable ["d/a.changelog", "d/b.changelog"]) ∧
    loadElement ⟨undecodable ["d/b.changelog", "d/a.changelog"], .empty, {}⟩ includeAllRoot "main" =
      .error (.unreadable "d/a.changelog" .undecodable) ∧
    loadElement ⟨undecodable ["d/a.changelog", "d/b.changelog"], .empty, {}⟩ includeAllRoot "main" =
      .error (.unreadable "d/a.changelog" .undecodable) := by
  have hsame := sameResources_undecodable (List.Perm.swap "d/a.changelog" "d/b.changelog" [])
  have hsorted := loadElement_undecodable
  exact ⟨hsame, ((load_of_sameResources hsame .empty {}).2.2 _ _).trans hsorted, hsorted⟩

end Changelog
