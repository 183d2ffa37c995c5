import Changelog.Resource.Memory
import Changelog.Proofs.Build.Lines
import Changelog.Proofs.Loading.Parts
import Changelog.Proofs.Source.Document

/-!
# Ways to load a document

A document can be loaded from a file, from a text or from a root element.  The three ways agree, and the
lines of the elements do not matter.
-/

namespace Changelog

open Build

section Lines

variable {workspace : Workspace} {load : Loader}

theorem addDocumentPart_of_lines {e e' : Element} (h : e.withoutLines = e'.withoutLines)
    (progress : Progress) :
    addDocumentPart workspace load progress e' = addDocumentPart workspace load progress e := by
  let site := progress.site workspace.options.scope
  have hchangeSet : changeSet site.expander progress.document e' =
      changeSet site.expander progress.document e := changeSet_of_lines rfl h _
  have hcontainer : container site e' = container site e := container_of_lines rfl rfl h
  obtain ⟨name, a, args, children, line⟩ := e
  obtain ⟨name', b, args', children', line'⟩ := e'
  rw [Element.withoutLines, Element.withoutLines] at h
  obtain ⟨rfl, rfl, rfl, -, -⟩ := Element.mk.inj h
  unfold addDocumentPart
  cases Named.ofName? (α := DocumentPart) name with
  | none => rfl
  | some part =>
    cases part with
    | changeSet => exact congrArg (· >>= _) hchangeSet
    | preconditions => exact congrArg (· >>= _) hcontainer
    | property => rfl
    | includeFile => rfl
    | includeAll => rfl

theorem addDocumentParts_of_lines {elements elements' : List Element}
    (h : List.Forall₂ (fun e e' => e.withoutLines = e'.withoutLines) elements elements')
    (progress : Progress) :
    elements'.foldlM (addDocumentPart workspace load) progress =
      elements.foldlM (addDocumentPart workspace load) progress := by
  induction h generalizing progress with
  | nil => rfl
  | cons hhead _ ih =>
    rw [List.foldlM_cons, List.foldlM_cons, addDocumentPart_of_lines hhead]
    exact congrArg (_ >>= ·) (funext ih)

theorem loadElement_of_lines {root root' : Element} (h : root.withoutLines = root'.withoutLines)
    (path : String) : workspace.loadElement root' path = workspace.loadElement root path := by
  obtain ⟨name, a, args, children, line⟩ := root
  obtain ⟨name', b, args', children', line'⟩ := root'
  rw [Element.withoutLines, Element.withoutLines] at h
  obtain ⟨rfl, rfl, rfl, hchildren, -⟩ := Element.mk.inj h
  unfold Workspace.loadElement
  dsimp only [rootOf]
  split
  · rfl
  · split
    · rfl
    · rw [ok_bind, ok_bind, document, document]
      dsimp only [documentOf]
      simp only [addDocumentParts_of_lines (forall₂_of_withoutLines hchildren)]

end Lines

/-- A file is loaded as its text is, a text as its root element is, and an element as every other one that
is the same but for its lines. -/
theorem loads_agree (workspace : Workspace) (path : String) :
    (∀ source, workspace.accessor.read path = .ok source →
      workspace.load path = workspace.loadSource source path) ∧
    (∀ source root, Source.readElements source = .ok [root] →
      workspace.loadSource source path = workspace.loadElement root path) ∧
    ∀ root root', root.withoutLines = root'.withoutLines →
      workspace.loadElement root' path = workspace.loadElement root path := by
  refine ⟨fun source hread => ?_, fun source root hroot => ?_, fun root root' h =>
    loadElement_of_lines h path⟩
  · have hopen : ¬Workspace.isOpen [] path := List.not_mem_nil
    rw [Workspace.load, Loading.loadFile_of_read hopen hread, List.nil_append, Workspace.loadSource]
  · rw [Loading.loadSource_eq_parts, Loading.sourceParts_of_root hroot, Loading.loadElement_eq_parts]

def selfText : String := "databaseChangeLog \x7b\n include(file: \"./m\") \x7d"

def selfDocument : Written.Document where
  before := []
  inside := .last (.node (.ofString "databaseChangeLog") .none
    (.braces [false] [.lineFeed, .space]
      (.last (.node (.ofString "include")
        (.parens []
          [⟨[], .named (.ofString "file") [] [.space]
            (.string (.short .double [.plain '.' (by decide), .plain '/' (by decide),
              .plain 'm' (by decide)])), []⟩]
          ⟨none, []⟩)
        .none))
      [.space]))
  after := []

def selfWorkspace : Workspace where
  accessor := MemoryResources.accessor ⟨[("m", some selfText)], []⟩

def selfInclude (line : Nat) : Element where
  name := "include"
  attributes := .ofList [("file", .string "./m")]
  args := []
  children := []
  line := line

def selfRoot (line : Nat) : Element where
  name := "databaseChangeLog"
  attributes := .empty
  args := []
  children := [selfInclude line]
  line := 1

theorem readElements_selfText : Source.readElements selfText = .ok [selfRoot 2] := by
  have htext : selfDocument.text = selfText.toList := by
    decide
  have helements : selfDocument.elements = [selfRoot 2] := by
    with_unfolding_all rfl
  rw [Written.readElements_of_text htext (by decide), helements]

theorem loadElement_selfRoot (line : Nat) :
    selfWorkspace.loadElement (selfRoot line) "m" = .error (.circularInclude "./m" ["m", "./m"]) := by
  have hopen : Workspace.isOpen ["m"] "./m" := by decide
  have hroot : rootOf "m" [selfRoot line] = .ok (selfRoot line) := rfl
  have hbare : documentOf ⟨⟨.empty, "m", selfWorkspace.options.scope⟩, "m"⟩ (selfRoot line) =
      .ok (.ofPath "m") := by
    with_unfolding_all rfl
  have hchildren : (selfRoot line).children = [selfInclude line] := rfl
  have hinclude : ∀ load : Loader,
      addDocumentPart selfWorkspace load ⟨.empty, .ofPath "m"⟩ (selfInclude line) =
        ["./m"].foldlM (addInclusion load) ⟨.empty, .ofPath "m"⟩ := by
    intro load
    with_unfolding_all rfl
  rw [Workspace.loadElement, hroot, ok_bind, document, hbare, ok_bind, hchildren, List.foldlM_cons,
    hinclude, List.foldlM_cons, addInclusion, Loading.loadFile_of_open hopen]
  rfl

/-- All three ways report the circle, whatever the line. -/
theorem loads_agree_self :
    selfWorkspace.accessor.read "m" = .ok selfText ∧ Source.readElements selfText = .ok [selfRoot 2] ∧
      (selfRoot 2).withoutLines = (selfRoot 7).withoutLines ∧
      selfWorkspace.load "m" = .error (.circularInclude "./m" ["m", "./m"]) ∧
      selfWorkspace.loadSource selfText "m" = .error (.circularInclude "./m" ["m", "./m"]) ∧
      selfWorkspace.loadElement (selfRoot 7) "m" = .error (.circularInclude "./m" ["m", "./m"]) := by
  obtain ⟨hfile, hsource, hlines⟩ := loads_agree selfWorkspace "m"
  have hread : selfWorkspace.accessor.read "m" = .ok selfText := rfl
  have hsame : (selfRoot 2).withoutLines = (selfRoot 7).withoutLines := rfl
  have hroot := readElements_selfText
  have herror := loadElement_selfRoot 2
  have htext := (hsource selfText (selfRoot 2) hroot).trans herror
  exact ⟨hread, hroot, hsame, (hfile selfText hread).trans htext, htext, (hlines _ _ hsame).trans herror⟩

end Changelog
