import Changelog.Resource.Memory
import Changelog.Proofs.Loading.Parts
import Changelog.Proofs.Source.Document

/-!
# Preconditions of included documents

A document holds the preconditions of its own container and those of the documents that it includes.  A
container takes the place of what stands there when its element is built, and what had been included
before that is lost.
-/

namespace Changelog

namespace Document

def nested (document : Document) : List Precondition :=
  match document.preconditions with
  | none => []
  | some p => p.nested

end Document

namespace Loading

open Build Workspace

mutual

/-- The preconditions that a part states, those of included documents in their place. -/
def Part.stated : Part → List Precondition
  | .preconditions p => p.nested
  | .included _ parts => statedBy parts
  | .changeSet _ => []
  | .bindings _ => []

def statedBy : List Part → List Precondition
  | [] => []
  | part :: rest => part.stated ++ statedBy rest

end

/-- The parts of a document and of the documents that it includes, to any depth. -/
inductive Within : List Part → List Part → Prop
  | self (parts : List Part) : Within parts parts
  | inner {parts inner own : List Part} {bare : Document} (hmem : .included bare inner ∈ parts)
      (hown : Within inner own) : Within parts own

/-- Nothing is stated before the document's own container, neither by it nor by what it includes. -/
def ContainerFirst (parts : List Part) : Prop :=
  ∀ before p after, parts = before ++ .preconditions p :: after → statedBy before = []

theorem nested_splice (document included : Document) :
    (splice document included).nested = document.nested ++ included.nested := by
  unfold Document.nested splice joinPreconditions
  cases included.preconditions with
  | none => exact (List.append_nil _).symm
  | some other => cases document.preconditions <;> rfl

theorem nested_of_documentOf {site : Site} {root : Element} {bare : Document}
    (h : documentOf site root = .ok bare) : bare.nested = [] := by
  obtain ⟨-, -, h⟩ := bind_eq_ok h
  obtain ⟨quoting, -, h⟩ := bind_eq_ok h
  obtain rfl := Except.ok.inj h
  rfl

theorem nested_of_fromRoot {workspace : Workspace} {loaded : Loaded} (h : loaded.FromRoot workspace) :
    loaded.bare.nested = [] := by
  obtain ⟨site, root, hbare⟩ := h.begins
  exact nested_of_documentOf hbare

/-! ### Kept preconditions -/

section Kept

variable {workspace : Workspace}

mutual

/-- A part adds no more than it states, and what is kept stays in order. -/
theorem nested_addTo_sublist (part : Part) (document : Document) (h : FromFiles workspace [part]) :
    (part.addTo document).nested.Sublist (document.nested ++ part.stated) := by
  cases part with
  | changeSet c =>
    rw [Part.stated, List.append_nil]
    exact List.Sublist.refl _
  | preconditions p => exact List.sublist_append_right _ _
  | bindings bindings =>
    rw [Part.stated, List.append_nil]
    exact List.Sublist.refl _
  | included bare inner =>
    obtain ⟨stack, table, path, hfile⟩ := h bare inner (List.mem_singleton_self _)
    have hroot := fromRoot_fileParts hfile
    have hkept := nested_assemble_sublist inner bare hroot.includes
    rw [nested_of_fromRoot hroot, List.nil_append] at hkept
    rw [Part.addTo, nested_splice, Part.stated]
    exact (List.Sublist.refl _).append hkept

theorem nested_assemble_sublist (parts : List Part) (document : Document)
    (h : FromFiles workspace parts) :
    (assemble parts document).nested.Sublist (document.nested ++ statedBy parts) := by
  cases parts with
  | nil => rw [assemble, statedBy, List.append_nil]
  | cons part rest =>
    have hpart := nested_addTo_sublist part document h.head
    have hrest := nested_assemble_sublist rest (part.addTo document) h.tail
    rw [assemble, statedBy, ← List.append_assoc]
    exact hrest.trans (hpart.append (List.Sublist.refl _))

end

/-- What is lost once is not made up for later. -/
theorem eq_append_iff_of_sublist {α : Type} {kept held full rest : List α}
    (hkept : kept.Sublist (held ++ rest)) (hheld : held.Sublist full) :
    kept = full ++ rest ↔ held = full ∧ kept = held ++ rest := by
  constructor
  · rintro rfl
    have hlength := hkept.length_le
    rw [List.length_append, List.length_append] at hlength
    obtain rfl : held = full := hheld.eq_of_length_le (by omega)
    exact ⟨rfl, rfl⟩
  · rintro ⟨rfl, rfl⟩
    rfl

/-- A part keeps everything unless it is a container after other preconditions, or includes a document
that has lost some. -/
theorem nested_addTo_eq_iff (part : Part) (document : Document) (h : FromFiles workspace [part]) :
    (part.addTo document).nested = document.nested ++ part.stated ↔
      (∀ p, part = .preconditions p → document.nested = []) ∧
      ∀ bare inner, part = .included bare inner → (assemble inner bare).nested = statedBy inner := by
  cases part with
  | changeSet c => simp [Part.addTo, Part.stated, Document.nested]
  | preconditions p =>
    have hkept : ((Part.preconditions p).addTo document).nested = p.nested := by
      rw [Part.addTo]
      rfl
    have hiff : p.nested = document.nested ++ p.nested ↔ document.nested = [] :=
      List.self_eq_append_left
    rw [hkept, Part.stated, hiff]
    simp
  | bindings bindings => simp [Part.addTo, Part.stated]
  | included bare inner =>
    rw [Part.addTo, nested_splice, Part.stated, List.append_cancel_left_eq]
    simp

theorem nested_assemble_eq_iff (parts : List Part) (document : Document)
    (h : FromFiles workspace parts) :
    (assemble parts document).nested = document.nested ++ statedBy parts ↔
      (∀ before p after, parts = before ++ .preconditions p :: after →
        document.nested ++ statedBy before = []) ∧
      ∀ bare inner, .included bare inner ∈ parts → (assemble inner bare).nested = statedBy inner := by
  induction parts generalizing document with
  | nil => simp [assemble, statedBy]
  | cons part rest ih =>
    have hpart := nested_addTo_sublist part document h.head
    have hrest := nested_assemble_sublist rest (part.addTo document) h.tail
    -- Parts only ever lose preconditions, so nothing is lost in all if neither the first part nor the rest loses any.
    rw [assemble, statedBy, ← List.append_assoc, eq_append_iff_of_sublist hrest hpart]
    constructor
    · rintro ⟨hhead, htail⟩
      obtain ⟨hown, hincluded⟩ := (nested_addTo_eq_iff part document h.head).1 hhead
      obtain ⟨howns, hincludeds⟩ := (ih (part.addTo document) h.tail).1 htail
      constructor
      · intro before p after hsplit
        cases before with
        | nil =>
          obtain ⟨rfl, rfl⟩ := List.cons.inj hsplit
          rw [statedBy, List.append_nil]
          exact hown p rfl
        | cons first before =>
          obtain ⟨rfl, hrest⟩ := List.cons.inj hsplit
          have hbefore := howns before p after hrest
          rw [hhead, List.append_assoc] at hbefore
          exact hbefore
      · intro bare inner hmem
        cases List.mem_cons.1 hmem with
        | inl hpart => exact hincluded bare inner hpart.symm
        | inr hmem => exact hincludeds bare inner hmem
    · rintro ⟨howns, hincludeds⟩
      have hown : ∀ p, part = .preconditions p → document.nested = [] := by
        rintro p rfl
        have hbefore := howns [] p rest rfl
        rwa [statedBy, List.append_nil] at hbefore
      have hincluded : ∀ bare inner, part = .included bare inner →
          (assemble inner bare).nested = statedBy inner := by
        rintro bare inner rfl
        exact hincludeds bare inner (List.mem_cons_self ..)
      have hhead := (nested_addTo_eq_iff part document h.head).2 ⟨hown, hincluded⟩
      refine ⟨hhead, (ih (part.addTo document) h.tail).2 ⟨?_, ?_⟩⟩
      · intro before p after hsplit
        have hbefore := howns (part :: before) p after (congrArg (part :: ·) hsplit)
        rw [statedBy, ← List.append_assoc, ← hhead] at hbefore
        exact hbefore
      · intro bare inner hmem
        exact hincludeds bare inner (List.mem_cons_of_mem _ hmem)

theorem nested_document_eq_iff {loaded : Loaded} (h : loaded.FromRoot workspace) :
    loaded.document.nested = statedBy loaded.parts ↔
      ContainerFirst loaded.parts ∧
      ∀ included : Loaded, included.part ∈ loaded.parts →
        included.document.nested = statedBy included.parts := by
  have hlevel := nested_assemble_eq_iff loaded.parts loaded.bare h.includes
  rw [nested_of_fromRoot h, List.nil_append] at hlevel
  refine hlevel.trans (and_congr Iff.rfl ?_)
  exact ⟨fun hall included => hall included.bare included.parts, fun hall bare inner => hall ⟨bare, inner⟩⟩

theorem containerFirst_of_nested {parts own : List Part} (hown : Within parts own) {bare : Document}
    (h : Loaded.FromRoot workspace ⟨bare, parts⟩) (hall : (assemble parts bare).nested = statedBy parts) :
    ContainerFirst own := by
  induction hown generalizing bare with
  | self parts => exact ((nested_document_eq_iff h).1 hall).1
  | inner hmem _ ih =>
    obtain ⟨stack, table, path, hfile⟩ := h.includes _ _ hmem
    exact ih (fromRoot_fileParts hfile) (((nested_document_eq_iff h).1 hall).2 ⟨_, _⟩ hmem)

theorem nested_of_containerFirst {parts : List Part} {bare : Document}
    (h : Loaded.FromRoot workspace ⟨bare, parts⟩) (hall : ∀ own, Within parts own → ContainerFirst own) :
    (assemble parts bare).nested = statedBy parts := by
  refine (nested_document_eq_iff h).2 ⟨hall parts (.self parts), fun included hmem => ?_⟩
  obtain ⟨stack, table, path, hfile⟩ := h.includes _ _ hmem
  exact nested_of_containerFirst (fromRoot_fileParts hfile) fun own hown => hall own (.inner hmem hown)
termination_by sizeOf parts
decreasing_by
  have hsize : sizeOf included.part < sizeOf parts := List.sizeOf_lt_of_mem hmem
  rw [Loaded.part, Part.included.sizeOf_spec] at hsize
  omega

theorem nested_finished {loaded : Loaded} (h : loaded.FromRoot workspace) :
    loaded.finished.nested.Sublist (statedBy loaded.parts) ∧
    (loaded.finished.nested = statedBy loaded.parts ↔
      ∀ own, Within loaded.parts own → ContainerFirst own) := by
  have hsublist := nested_assemble_sublist loaded.parts loaded.bare h.includes
  rw [nested_of_fromRoot h, List.nil_append] at hsublist
  refine ⟨hsublist, fun hall own hown => ?_, fun hall => nested_of_containerFirst h hall⟩
  exact containerFirst_of_nested hown h hall

end Kept

/-! ### A container after an inclusion -/

def lateContainer : Written.Document where
  before := []
  inside := .last (.node ⟨'d', "atabaseChangeLog".toList, by decide, by decide⟩ .none
    (.braces [false] [.space]
      (.cons
        (.node ⟨'i', "nclude".toList, by decide, by decide⟩
          (.parens []
            [⟨[], .named ⟨'f', "ile".toList, by decide, by decide⟩ [] [.space]
              (.string (.short .double [.plain 'a' (by decide)])), []⟩]
            ⟨none, []⟩)
          .none)
        ⟨false, [.space]⟩
        (.last (.node ⟨'p', "reConditions".toList, by decide, by decide⟩ .none
          (.braces [false] [.space]
            (.last (.node ⟨'d', "bms".toList, by decide, by decide⟩
              (.parens []
                [⟨[], .named ⟨'t', "ype".toList, by decide, by decide⟩ [] [.space]
                  (.string (.short .double [.plain 'h' (by decide)])), []⟩]
                ⟨none, []⟩)
              .none))
            [.space]))))
      [.space]))
  after := []

def onlyContainer : Written.Document where
  before := []
  inside := .last (.node ⟨'d', "atabaseChangeLog".toList, by decide, by decide⟩ .none
    (.braces [false] [.space]
      (.last (.node ⟨'p', "reConditions".toList, by decide, by decide⟩ .none
        (.braces [false] [.space]
          (.last (.node ⟨'t', "ableExists".toList, by decide, by decide⟩
            (.parens []
              [⟨[], .named ⟨'t', "ableName".toList, by decide, by decide⟩ [] [.space]
                (.string (.short .double [.plain 't' (by decide)])), []⟩]
              ⟨none, []⟩)
            .none))
          [.space])))
      [.space]))
  after := []

def lateWorkspace : Workspace where
  accessor := MemoryResources.accessor {
    texts := [
      ("main", some
        "databaseChangeLog \x7b include(file: \"a\"); preConditions \x7b dbms(type: \"h\") \x7d \x7d"),
      ("a", some "databaseChangeLog \x7b preConditions \x7b tableExists(tableName: \"t\") \x7d \x7d")]
    listings := [] }

def lateRoot : Element where
  name := "databaseChangeLog"
  attributes := .empty
  args := []
  children := [
    { name := "include", attributes := ⟨[("file", .string "a")], by decide⟩, args := [], children := [],
      line := 1 },
    { name := "preConditions", attributes := .empty, args := [],
      children := [
        { name := "dbms", attributes := ⟨[("type", .string "h")], by decide⟩, args := [],
          children := [], line := 1 }],
      line := 1 }]
  line := 1

def includedCheck : Precondition :=
  .check ⟨.tableExists, ⟨[("tableName", .string "t")], by decide⟩, none, []⟩

def ownCheck : Precondition := .check ⟨.dbms, ⟨[("type", .string "h")], by decide⟩, none, []⟩

def onlyLoaded : Loaded := ⟨.ofPath "a", [.preconditions (.ofNested [includedCheck])]⟩

def lateLoaded : Loaded :=
  ⟨.ofPath "main", [onlyLoaded.part, .preconditions (.ofNested [ownCheck])]⟩

theorem readElements_lateContainer :
    Source.readElements
        "databaseChangeLog \x7b include(file: \"a\"); preConditions \x7b dbms(type: \"h\") \x7d \x7d" =
      .ok [lateRoot] := by
  have htext : lateContainer.text =
      "databaseChangeLog \x7b include(file: \"a\"); preConditions \x7b dbms(type: \"h\") \x7d \x7d".toList := by
    decide
  exact Written.readElements_of_text htext (by decide)

theorem readElements_onlyContainer :
    Source.readElements
        "databaseChangeLog \x7b preConditions \x7b tableExists(tableName: \"t\") \x7d \x7d" =
      .ok onlyContainer.elements := by
  have htext : onlyContainer.text =
      "databaseChangeLog \x7b preConditions \x7b tableExists(tableName: \"t\") \x7d \x7d".toList := by
    decide
  exact Written.readElements_of_text htext (by decide)

theorem fileParts_onlyContainer :
    fileParts lateWorkspace ["main"] .empty "a" = .ok onlyLoaded := by
  rw [fileParts_of_read (by decide) rfl, sourceParts, readElements_onlyContainer]
  with_unfolding_all rfl

theorem rootParts_lateRoot : rootParts lateWorkspace lateRoot "main" = .ok lateLoaded := by
  have hinclude : ∀ load : PartLoader, load .empty "a" = .ok onlyLoaded →
      elementParts lateWorkspace load ⟨.empty, .ofPath "main"⟩ lateRoot.children[0] =
        .ok [onlyLoaded.part] := by
    intro load hload
    have hfiles : elementParts lateWorkspace load ⟨.empty, .ofPath "main"⟩ lateRoot.children[0] =
        includedParts load .empty ["a"] := by
      with_unfolding_all rfl
    rw [hfiles, includedParts, hload]
    rfl
  have hbare : documentOf ⟨⟨.empty, "main", lateWorkspace.options.scope⟩, "main"⟩ lateRoot =
      .ok (.ofPath "main") := by
    with_unfolding_all rfl
  have hown : ∀ load, elementsParts lateWorkspace load
      (advance ⟨.empty, .ofPath "main"⟩ [onlyLoaded.part]) lateRoot.children.tail =
        .ok [.preconditions (.ofNested [ownCheck])] := by
    intro load
    with_unfolding_all rfl
  have hroot : rootOf "main" [lateRoot] = .ok lateRoot := rfl
  have hchildren : lateRoot.children = lateRoot.children[0] :: lateRoot.children.tail := rfl
  rw [rootParts, hroot, ok_bind, documentParts, hbare, ok_bind, hchildren, elementsParts,
    hinclude _ fileParts_onlyContainer, ok_bind, hown]
  rfl

theorem loads_lateRoot : Loads lateWorkspace "main" lateRoot lateLoaded.finished := by
  have hload : lateWorkspace.load "main" = .ok lateLoaded.finished := by
    rw [load_eq_parts, fileParts_of_root rfl readElements_lateContainer, rootParts_lateRoot]
    rfl
  exact .file _ rfl readElements_lateContainer hload

/-! ### Loaded documents -/

/-- A loaded document holds, in order, nothing but what the documents of the tree state.  It holds all of
that exactly if no document of the tree states anything before a container of its own. -/
theorem nested_of_loads {workspace : Workspace} {path : String} {root : Element} {d : Document}
    (h : Loads workspace path root d) :
    ∃ loaded, rootParts workspace root path = .ok loaded ∧
      d.nested.Sublist (statedBy loaded.parts) ∧
      (d.nested = statedBy loaded.parts ↔ ∀ own, Within loaded.parts own → ContainerFirst own) := by
  obtain ⟨loaded, hloaded, rfl⟩ := h.parts
  exact ⟨loaded, hloaded, nested_finished (fromRoot_rootParts hloaded)⟩

theorem nested_of_loads_lateRoot :
    ∃ loaded, rootParts lateWorkspace lateRoot "main" = .ok loaded ∧
      lateLoaded.finished.nested.Sublist (statedBy loaded.parts) ∧
      ¬ContainerFirst loaded.parts ∧ lateLoaded.finished.nested ≠ statedBy loaded.parts := by
  obtain ⟨loaded, hloaded, hsublist, hiff⟩ := nested_of_loads loads_lateRoot
  have hfirst : ¬ContainerFirst loaded.parts := by
    obtain rfl : lateLoaded = loaded := Except.ok.inj (rootParts_lateRoot.symm.trans hloaded)
    intro hall
    have hbefore := hall [onlyLoaded.part] (.ofNested [ownCheck]) [] rfl
    cases hbefore
  exact ⟨loaded, hloaded, hsublist, hfirst, fun hkept => hfirst (hiff.1 hkept loaded.parts (.self _))⟩

/-- The check of the included document is stated first and is not held. -/
theorem nested_lateRoot_ne_stated :
    ∃ loaded, Loads lateWorkspace "main" lateRoot loaded.finished ∧
      rootParts lateWorkspace lateRoot "main" = .ok loaded ∧
      lateRoot.children.map (·.name) = ["include", "preConditions"] ∧
      (statedBy loaded.parts).map Precondition.name = ["tableExists", "dbms"] ∧
      loaded.finished.nested.map Precondition.name = ["dbms"] ∧
      loaded.finished.nested ≠ statedBy loaded.parts := by
  have hstated : (statedBy lateLoaded.parts).map Precondition.name = ["tableExists", "dbms"] := by
    decide
  have hheld : lateLoaded.finished.nested.map Precondition.name = ["dbms"] := rfl
  refine ⟨lateLoaded, loads_lateRoot, rootParts_lateRoot, rfl, hstated, hheld, fun hall => ?_⟩
  rw [hall, hstated] at hheld
  exact absurd hheld (by decide)

end Loading

end Changelog
