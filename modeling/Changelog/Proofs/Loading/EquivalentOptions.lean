import Changelog.Resource.Memory
import Changelog.Proofs.Build.Lines
import Changelog.Proofs.Loading.Agreement
import Changelog.Proofs.Property.Selection

/-!
# Options that mean the same

The options of a run are asked in every expansion and in every inclusion of a directory.  Their order,
repetitions and the case of their letters decide neither which binding counts nor which files are read.
-/

namespace Changelog

open Build

structure Options.Same (a b : Options) : Prop where
  scope : a.scope.Same b.scope
  extension : Text.lowered a.extension = Text.lowered b.extension

/-- One place in one document, seen in two runs that expand its texts alike. -/
structure Build.SameSite (site site' : Site) : Prop where
  text : site.expander.text = site'.expander.text
  document : site.expander.document = site'.expander.document
  context : site.context = site'.context

namespace Loading

section Site

variable {site site' : Site} (h : SameSite site site')

include h

theorem propertyBindings_of_sameSite (accessor : Accessor) (e : Element) :
    propertyBindings accessor site e = propertyBindings accessor site' e := by
  unfold propertyBindings propertyEntries
  rw [Expander.attributes_of_text h.text, h.document, h.context]

theorem includedFile_of_sameSite (accessor : Accessor) (e : Element) :
    includedFile accessor site e = includedFile accessor site' e := by
  unfold includedFile
  rw [Expander.attributes_of_text h.text, h.document, h.context]

theorem documentOf_of_sameSite (root : Element) : documentOf site root = documentOf site' root := by
  unfold documentOf
  rw [Expander.attributes_of_text h.text, h.document, h.context]

theorem includedFiles_of_sameSite {a b : Options}
    (hextension : Text.lowered a.extension = Text.lowered b.extension) (accessor : Accessor)
    (filters : FilterRegistry) (e : Element) :
    includedFiles ⟨accessor, filters, a⟩ site e = includedFiles ⟨accessor, filters, b⟩ site' e := by
  have hpath : ∀ path, Path.hasExtension path a.extension = Path.hasExtension path b.extension := by
    intro path
    unfold Path.hasExtension
    rw [← Text.lowered, ← Text.lowered, hextension]
  unfold includedFiles namedFilter changelogsOf
  simp only [Expander.attributes_of_text h.text, h.document, h.context, hpath]

end Site

section Options

variable {a b : Options} (h : a.Same b)

include h

theorem sameSite_of_same (table : PropertyTable) (document context : String) :
    SameSite ⟨⟨table, document, a.scope⟩, context⟩ ⟨⟨table, document, b.scope⟩, context⟩ where
  text := Expander.text_of_seen (Scope.seen_of_same h.scope table document)
  document := rfl
  context := rfl

theorem addDocumentPart_of_sameOptions (accessor : Accessor) (filters : FilterRegistry) (load : Loader)
    (progress : Progress) (e : Element) :
    addDocumentPart ⟨accessor, filters, a⟩ load progress e =
      addDocumentPart ⟨accessor, filters, b⟩ load progress e := by
  have hsite : SameSite (progress.site a.scope) (progress.site b.scope) := sameSite_of_same h _ _ _
  have hlines : e.withoutLines = e.withoutLines := rfl
  unfold addDocumentPart
  cases Named.ofName? (α := DocumentPart) e.name with
  | none => rfl
  | some part =>
    cases part with
    | changeSet =>
      have hbuilt := changeSet_of_lines hsite.text hlines progress.document
      exact congrArg (· >>= _) hbuilt.symm
    | preconditions =>
      have hbuilt := container_of_lines hsite.text rfl hlines
      exact congrArg (· >>= _) hbuilt.symm
    | property => exact congrArg (· >>= _) (propertyBindings_of_sameSite hsite accessor e)
    | includeFile => exact congrArg (· >>= _) (includedFile_of_sameSite hsite accessor e)
    | includeAll =>
      exact congrArg (· >>= _) (includedFiles_of_sameSite hsite h.extension accessor filters e)

theorem agree_of_sameOptions (accessor : Accessor) (filters : FilterRegistry) :
    Agree ⟨accessor, filters, a⟩ ⟨accessor, filters, b⟩ where
  read _ := rfl
  begins table path root := documentOf_of_sameSite (sameSite_of_same h table path path) root
  part := addDocumentPart_of_sameOptions h accessor filters

end Options

/-- Options that are the same up to the order, the repetitions and the case of what they list give the same
documents and the same errors, in whichever way a document is loaded. -/
theorem load_of_sameOptions {a b : Options} (h : a.Same b) (accessor : Accessor) (filters : FilterRegistry) :
    (∀ path, Workspace.load ⟨accessor, filters, a⟩ path = Workspace.load ⟨accessor, filters, b⟩ path) ∧
    (∀ source path, Workspace.loadSource ⟨accessor, filters, a⟩ source path =
      Workspace.loadSource ⟨accessor, filters, b⟩ source path) ∧
    ∀ root path, Workspace.loadElement ⟨accessor, filters, a⟩ root path =
      Workspace.loadElement ⟨accessor, filters, b⟩ root path := by
  have hagree := agree_of_sameOptions h accessor filters
  exact ⟨hagree.load, hagree.loadSource, hagree.loadElement⟩

def plainOptions : Options where
  scope := ⟨["dev", "test"], [], some "oracle"⟩

def respelledOptions : Options where
  scope := ⟨["TEST", "Dev", "test"], [], some "Oracle"⟩
  extension := "ChangeLog"

def valueElement (attributes : List (String × Value)) : Element where
  name := "property"
  attributes := .ofList attributes
  args := []
  children := []
  line := 1

def selectiveRoot : Element where
  name := "databaseChangeLog"
  attributes := .empty
  args := []
  children := [
    valueElement [("name", .string "id"), ("value", .string "other"), ("dbms", .string "!ORACLE")],
    valueElement [("name", .string "id"), ("value", .string "own"), ("context", .string "Test, prod"),
      ("dbms", .string "h2, oracle")],
    { name := "changeSet", attributes := .ofList [("id", .string "$\x7bid\x7d")], args := []
      children := [], line := 4 }]
  line := 1

theorem same_respelled : respelledOptions.Same plainOptions where
  scope := {
    contexts := by
      have hleft : respelledOptions.scope.contexts.map Text.lowered =
          ["test".toList, "dev".toList, "test".toList] := by decide
      have hright : plainOptions.scope.contexts.map Text.lowered = ["dev".toList, "test".toList] := by
        decide
      intro name
      rw [hleft, hright]
      simp only [List.mem_cons, List.not_mem_nil, or_false]
      tauto
    labels := fun _ => Iff.rfl
    database := by decide }
  extension := by decide

theorem load_of_sameOptions_respelled :
    respelledOptions.Same plainOptions ∧
    ∃ d, Workspace.loadElement ⟨MemoryResources.accessor ⟨[], []⟩, .empty, plainOptions⟩ selectiveRoot
        "main" = .ok d ∧
      Workspace.loadElement ⟨MemoryResources.accessor ⟨[], []⟩, .empty, respelledOptions⟩ selectiveRoot
        "main" = .ok d ∧
      d.changeSets.map ChangeSet.id = ["own"] := by
  have hloaded : ∃ d, Workspace.loadElement ⟨MemoryResources.accessor ⟨[], []⟩, .empty, plainOptions⟩
      selectiveRoot "main" = .ok d ∧ d.changeSets.map ChangeSet.id = ["own"] := by
    with_unfolding_all exact ⟨_, rfl, rfl⟩
  obtain ⟨d, hd, hids⟩ := hloaded
  have hsame := (load_of_sameOptions same_respelled (MemoryResources.accessor ⟨[], []⟩) .empty).2.2
  exact ⟨same_respelled, d, hd, (hsame selectiveRoot "main").trans hd, hids⟩

end Loading

end Changelog
