import Changelog.Proofs.Build.Checks
import Changelog.Proofs.Build.Lines
import Changelog.Proofs.Loading.Growth
import Changelog.Proofs.Property.Visibility
import Changelog.Proofs.Source.Document

/-!
# Extracted change sets

Change sets that stand in a row can be moved into a file of their own and included from where they stood.
The change sets are built there with other errors at hand, by another document and from another file, and
still come out the same, so that all that follows them finds what it found before.
-/

namespace Changelog

def Document.adding (d : Document) (more : List ChangeSet) : Document :=
  { d with changeSets := d.changeSets ++ more }

theorem Document.adding_nil (d : Document) : d.adding [] = d := by
  rw [adding, List.append_nil]

theorem Document.adding_adding (d : Document) (more others : List ChangeSet) :
    (d.adding more).adding others = d.adding (more ++ others) := by
  simp only [adding, List.append_assoc]

namespace Build

/-- A change set in which no rollback names another change set. -/
structure Independent (e : Element) : Prop where
  isChangeSet : e.name = "changeSet"
  namesNone : ∀ child ∈ e.children, child.name = "rollback" →
    textOf? child.attributes "changeSetId" = none

theorem textOf?_expanded_of_none {a : Attributes} {key : String} (h : textOf? a key = none)
    (expander : Expander) : textOf? (expander.attributes a) key = none := by
  rw [textOf?, Expander.get?_attributes]
  cases hvalue : a.get? key with
  | none => rfl
  | some value =>
    rw [textOf?, hvalue] at h
    obtain rfl : value = .null := (Value.text?_eq_none_iff value).1 h
    rfl

theorem rollback_of_namesNone (d d' : Document) {site : Site} {e : Element}
    (h : textOf? e.attributes "changeSetId" = none) : rollback site d e = rollback site d' e := by
  have hnone : ∀ document : Document,
      referencedChanges site document (site.expander.attributes e.attributes) = .ok [] := by
    intro document
    rw [referencedChanges, textOf?_expanded_of_none h]
  unfold rollback
  rw [hnone d, hnone d']

theorem addChangeSetPart_of_namesNone (d d' : Document) {site : Site} {c : ChangeSet} {e : Element}
    (h : e.name = "rollback" → textOf? e.attributes "changeSetId" = none) :
    addChangeSetPart site d c e = addChangeSetPart site d' c e := by
  unfold addChangeSetPart
  cases hpart : Named.ofName? (α := ChangeSetPart) e.name with
  | none => rfl
  | some part =>
    cases part with
    | rollback =>
      have hname : e.name = "rollback" := (Named.name_of_ofName? hpart).symm
      dsimp only
      rw [rollback_of_namesNone d d' (h hname)]
    | comment | validChecksum | preconditions | modifySql => rfl

theorem addChangeSetParts_of_namesNone (d d' : Document) {site : Site} {children : List Element}
    (h : ∀ child ∈ children, child.name = "rollback" → textOf? child.attributes "changeSetId" = none)
    (c : ChangeSet) :
    children.foldlM (addChangeSetPart site d) c = children.foldlM (addChangeSetPart site d') c := by
  induction children generalizing c with
  | nil => rfl
  | cons child rest ih =>
    have hrest := ih fun r hr => h r (List.mem_cons_of_mem _ hr)
    rw [List.foldlM_cons, List.foldlM_cons,
      addChangeSetPart_of_namesNone d d' (h child (List.mem_cons_self ..))]
    exact congrArg (_ >>= ·) (funext hrest)

section Documents

variable {d d' : Document} (hpath : d.logicalPath = d'.logicalPath)
  (hquoting : d.quotingStrategy = d'.quotingStrategy)

include hpath hquoting

/-- Of its document an independent change set takes the logical path and the quoting strategy only. -/
theorem changeSetAt_of_independent {site : Site} {e : Element} (h : Independent e) :
    changeSetAt site d e = changeSetAt site d' e := by
  have hbare : ∀ attributes, changeSetOf site d attributes = changeSetOf site d' attributes := by
    intro attributes
    unfold changeSetOf
    rw [hpath, hquoting]
  unfold changeSetAt
  simp only [hbare, addChangeSetParts_of_namesNone d d' h.namesNone]

theorem changeSet_moved {own other : Expander} {e e' : Element} {c : ChangeSet}
    (htext : own.text = other.text) (hlines : e.withoutLines = e'.withoutLines) (h : Independent e)
    (hbuilt : changeSet own d e = .ok c) : changeSet other d' e' = .ok c := by
  let site : Site := ⟨own, changeSetContext d e⟩
  let site' : Site := ⟨other, changeSetContext d' e'⟩
  have hfollows : Follows site'.context (changeSetAt site d' e) (changeSetAt site' d' e') :=
    changeSetAt_follows (sameReading_of_lines htext e e' hlines) d'
  -- The document is exchanged first; of the file only errors speak, and there is none here.
  rw [changeSet_eq_at, changeSetAt_of_independent hpath hquoting h] at hbuilt
  rw [changeSet_eq_at]
  exact hfollows.trans (congrArg _ hbuilt)

end Documents

end Build

namespace Loading

open Build Workspace

section Moved

variable {workspace : Workspace}

theorem addDocumentPart_of_changeSet {load : Loader} {e : Element} (hname : e.name = "changeSet")
    (progress : Progress) :
    addDocumentPart workspace load progress e =
      (changeSet (progress.expander workspace.options.scope) progress.document e >>= fun c =>
        .ok { progress with document.changeSets := progress.document.changeSets ++ [c] }) := by
  have hpart : Named.ofName? (α := DocumentPart) e.name = some .changeSet := by
    rw [hname]
    rfl
  rw [addDocumentPart, hpart]
  rfl

/-- Independent change sets are built alike in two documents with the same logical path and the same
quoting strategy; nothing else happens in either. -/
theorem changeSets_moved (load load' : Loader) {table : PropertyTable} {elements elements' : List Element}
    (hlines : List.Forall₂ (fun e e' => e.withoutLines = e'.withoutLines) elements elements')
    (helements : ∀ e ∈ elements, Independent e) {d d' : Document} {next : Progress}
    (hpath : d.logicalPath = d'.logicalPath) (hquoting : d.quotingStrategy = d'.quotingStrategy)
    (htext : Expander.text ⟨table, d.physicalPath, workspace.options.scope⟩ =
      Expander.text ⟨table, d'.physicalPath, workspace.options.scope⟩)
    (h : elements.foldlM (addDocumentPart workspace load) ⟨table, d⟩ = .ok next) :
    ∃ more, next = ⟨table, d.adding more⟩ ∧
      elements'.foldlM (addDocumentPart workspace load') ⟨table, d'⟩ = .ok ⟨table, d'.adding more⟩ := by
  induction hlines generalizing d d' with
  | nil =>
    obtain rfl := Except.ok.inj h
    refine ⟨[], ?_, ?_⟩
    · rw [Document.adding_nil]
    · rw [Document.adding_nil]
      rfl
  | @cons e e' rest rest' hhead _ ih =>
    have hindependent := helements e (List.mem_cons_self ..)
    have hname' : e'.name = "changeSet" :=
      (sameReading_of_lines htext e e' hhead).name.trans hindependent.isChangeSet
    rw [List.foldlM_cons, addDocumentPart_of_changeSet hindependent.isChangeSet] at h
    obtain ⟨between, hbetween, h⟩ := bind_eq_ok h
    obtain ⟨c, hc, hbetween⟩ := bind_eq_ok hbetween
    obtain rfl := Except.ok.inj hbetween
    have hc' := changeSet_moved hpath hquoting htext hhead hindependent hc
    -- Both documents have grown by the same change set, which leaves their heads alike.
    have hpath' : (d.adding [c]).logicalPath = (d'.adding [c]).logicalPath := hpath
    have hquoting' : (d.adding [c]).quotingStrategy = (d'.adding [c]).quotingStrategy := hquoting
    obtain ⟨more, rfl, hmore⟩ := ih (fun r hr => helements r (List.mem_cons_of_mem _ hr)) hpath' hquoting'
      htext h
    rw [Document.adding_adding] at hmore ⊢
    refine ⟨c :: more, rfl, ?_⟩
    rw [List.foldlM_cons, addDocumentPart_of_changeSet hname']
    refine (congrArg (· >>= _) (congrArg (· >>= _) hc')).trans ?_
    rw [ok_bind, ok_bind]
    exact hmore

end Moved

/-! ### The file that is included -/

def headed (d : Document) (file : String) : Document :=
  { Document.ofPath file with
    logicalPath := d.logicalPath
    quotingStrategy := d.quotingStrategy }

/-- A root that gives its document the logical path and the quoting strategy of another one. -/
structure SameHead (root : Element) (d : Document) : Prop where
  name : root.name = rootName
  args : root.args = []
  within : root.attributes.Within rootAttributes
  logicalPath : root.attributes.get? "logicalFilePath" = some (.string d.logicalPath)
  quoting : root.attributes.get? "objectQuotingStrategy" = Value.ofChoice d.quotingStrategy

theorem plain_name (quoting : QuotingStrategy) : Expansion.Plain (Named.name quoting) := by
  apply Expansion.plain_of_not_mem
  cases quoting <;> decide

theorem documentOf_of_sameHead {root : Element} {d : Document} (h : SameHead root d)
    (hplain : Expansion.Plain d.logicalPath) (site : Site) :
    documentOf site root = .ok (headed d site.expander.document) := by
  have hpath : textOf? (site.expander.attributes root.attributes) "logicalFilePath" =
      some d.logicalPath := by
    rw [textOf?, Expander.get?_attributes, h.logicalPath, Option.map_some,
      Expander.value_of_plain _ hplain]
    exact Value.text?_string _
  have hquoting : (site.expander.attributes root.attributes).get? "objectQuotingStrategy" =
      Value.ofChoice d.quotingStrategy := by
    rw [Expander.get?_attributes, h.quoting]
    cases d.quotingStrategy with
    | none => rfl
    | some quoting => exact congrArg some (Expander.value_of_plain _ (plain_name quoting))
  rw [documentOf]
  dsimp only
  rw [checkAttributes_of_within h.within, ok_bind, optionalChoice_of_get? hquoting, ok_bind, hpath]
  rfl

theorem rootOf_of_sameHead {root : Element} {d : Document} (h : SameHead root d) (path : String) :
    rootOf path [root] = .ok root := by
  simp [rootOf, h.name, h.args]

def inclusionOf (file : String) (line : Nat) : Element where
  name := "include"
  attributes := .ofList [("file", .string file)]
  args := []
  children := []
  line := line

theorem includedFile_inclusionOf {file : String} (hplain : Expansion.Plain file) (accessor : Accessor)
    (site : Site) (line : Nat) : includedFile accessor site (inclusionOf file line) = .ok [file] := by
  have hattributes : site.expander.attributes (inclusionOf file line).attributes =
      (inclusionOf file line).attributes := by
    apply Attributes.ext
    show [("file", site.expander.value (.string file))] = [("file", .string file)]
    rw [Expander.value_of_plain _ hplain]
  unfold includedFile
  rw [hattributes]
  rfl

theorem addDocumentPart_inclusionOf {workspace : Workspace} {load : Loader} {file : String}
    (hplain : Expansion.Plain file) (progress : Progress) (line : Nat) :
    addDocumentPart workspace load progress (inclusionOf file line) = addInclusion load progress file := by
  have hname : (inclusionOf file line).name = "include" := rfl
  rw [addDocumentPart_eq, elementEffect_of_include hname, includedFile_inclusionOf hplain, ok_bind, ok_bind,
    List.foldlM_cons]
  exact bind_pure _

theorem addInclusion_of_moved {workspace : Workspace} {load : Loader} {stack : List String}
    {file text : String} {root : Element} {table : PropertyTable} {d : Document} {next : Progress}
    {elements : List Element} (hopen : ¬isOpen stack file)
    (hread : workspace.accessor.read file = .ok text) (htext : Source.readElements text = .ok [root])
    (hhead : SameHead root d) (hplain : Expansion.Plain d.logicalPath)
    (hlines : withoutLines elements = withoutLines root.children)
    (helements : ∀ e ∈ elements, Independent e) (hglobal : ∀ b ∈ table.bindings, b.global = true)
    (h : elements.foldlM (addDocumentPart workspace load) ⟨table, d⟩ = .ok next) :
    addInclusion (workspace.loadFile stack) ⟨table, d⟩ file = .ok next := by
  have hseen : table.seen d.physicalPath workspace.options.scope =
      table.seen file workspace.options.scope := PropertyTable.seen_of_global hglobal _ _ _
  have hpath : d.logicalPath = (headed d file).logicalPath := rfl
  obtain ⟨more, rfl, hmore⟩ := changeSets_moved load (workspace.loadFile (stack ++ [file]))
    (forall₂_of_withoutLines hlines) helements hpath rfl (Expander.text_of_seen hseen) h
  have hfile : workspace.loadFile stack table file = .ok ⟨table, (headed d file).adding more⟩ := by
    rw [loadFile_of_read hopen hread, documentOfSource, htext]
    dsimp only
    rw [rootOf_of_sameHead hhead, ok_bind, document, documentOf_of_sameHead hhead hplain, ok_bind]
    exact hmore
  rw [addInclusion, hfile, ok_bind]
  rfl

/-- Independent change sets in a row may be moved into a file of their own, if that file's root says the
logical path and the quoting strategy of the document that they stood in, and if no local binding is made
before them: the document with the file included in their place is the same. -/
theorem loadElement_of_extracted {workspace : Workspace} {root moved : Element} {path file text : String}
    {before elements after : List Element} {d reached : Document}
    (hloaded : workspace.loadElement { root with children := before ++ elements ++ after } path = .ok d)
    (helements : ∀ e ∈ elements, Independent e)
    (hreached : workspace.loadElement { root with children := before } path = .ok reached)
    (hglobal : ∀ b ∈ reached.properties, b.global = true)
    (hfile : Expansion.Plain file) (hkey : Path.key file ≠ Path.key path)
    (hread : workspace.accessor.read file = .ok text) (htext : Source.readElements text = .ok [moved])
    (hhead : SameHead moved d) (hplain : Expansion.Plain d.logicalPath)
    (hlines : withoutLines elements = withoutLines moved.children) (line : Nat) :
    workspace.loadElement { root with children := before ++ inclusionOf file line :: after } path =
      .ok d := by
  have hopen : ¬isOpen [path] file := by simpa [isOpen] using hkey
  rw [loadElement_eq_built] at hloaded hreached ⊢
  -- Both roots are built alike up to `p`; the moved elements lead from there to `next`, from which the
  -- elements after them go on.
  obtain ⟨p, hp, rfl⟩ := map_eq_ok hreached
  obtain ⟨q, hq, rfl⟩ := map_eq_ok hloaded
  rw [List.append_assoc, built_append, hp, ok_bind, List.foldlM_append] at hq
  obtain ⟨next, hnext, hafter⟩ := bind_eq_ok hq
  have hrest : (elements ++ after).foldlM (addDocumentPart workspace (workspace.loadFile [path])) p =
      .ok q := by
    rw [List.foldlM_append, hnext]
    exact hafter
  obtain ⟨_, -, hextends⟩ := extends_of_elements hrest
  have hhead' : SameHead moved p.document :=
    { hhead with
      logicalPath := hextends.logicalPath ▸ hhead.logicalPath
      quoting := hextends.quotingStrategy ▸ hhead.quoting }
  have hincluded : addInclusion (workspace.loadFile [path]) p file = .ok next :=
    addInclusion_of_moved hopen hread htext hhead' (hextends.logicalPath ▸ hplain) hlines helements
      hglobal hnext
  rw [built_append, hp, ok_bind, List.foldlM_cons, addDocumentPart_inclusionOf hfile, hincluded, ok_bind,
    hafter]
  rfl

/-! ### A change set with a token, and a rollback of it -/

def partText : String :=
  "databaseChangeLog(logicalFilePath: \"x\") \x7b changeSet(id: \"1\") \x7b sql \"$\x7bn\x7d\" \x7d \x7d"

def partDocument : Written.Document where
  before := []
  inside := .last (.node (.ofString "databaseChangeLog")
    (.parens []
      [⟨[], .named (.ofString "logicalFilePath") [] [.space]
        (.string (.short .double [.plain 'x' (by decide)])), []⟩]
      ⟨none, []⟩)
    (.braces [false] [.space]
      (.last (.node (.ofString "changeSet")
        (.parens []
          [⟨[], .named (.ofString "id") [] [.space]
            (.string (.short .double [.plain '1' (by decide)])), []⟩]
          ⟨none, []⟩)
        (.braces [false] [.space]
          (.last (.node (.ofString "sql")
            (.bare false []
              (.positional (.string (.short .double [.plain '$' (by decide), .plain '\x7b' (by decide),
                .plain 'n' (by decide), .plain '\x7d' (by decide)]))) [])
            .none))
          [.space])))
      [.space]))
  after := []

def partWorkspace : Workspace where
  accessor := MemoryResources.accessor ⟨[("part", some partText)], []⟩

def partChangeSet (line : Nat) : Element where
  name := "changeSet"
  attributes := .ofList [("id", .string "1")]
  args := []
  children := [
    { name := "sql", attributes := .empty, args := [.string "$\x7bn\x7d"], children := [], line := line }]
  line := line

def partRoot : Element where
  name := "databaseChangeLog"
  attributes := .ofList [("logicalFilePath", .string "x")]
  args := []
  children := [partChangeSet 1]
  line := 1

def valueOfN : Element where
  name := "property"
  attributes := .ofList [("name", .string "n"), ("value", .string "v")]
  args := []
  children := []
  line := 2

def undoingChangeSet : Element where
  name := "changeSet"
  attributes := .ofList [("id", .string "2")]
  args := []
  children := [
    { name := "rollback", attributes := .ofList [("changeSetId", .string "1")], args := []
      children := [], line := 5 }]
  line := 5

theorem readElements_partText : Source.readElements partText = .ok [partRoot] := by
  have htext : partDocument.text = partText.toList := by
    decide
  have helements : partDocument.elements = [partRoot] := by
    with_unfolding_all rfl
  rw [Written.readElements_of_text htext (by decide), helements]

theorem independent_partChangeSet (line : Nat) : Independent (partChangeSet line) where
  isChangeSet := rfl
  namesNone := by
    intro child hchild hname
    obtain rfl := List.mem_singleton.1 hchild
    exact absurd hname (show "sql" ≠ "rollback" by decide)

theorem loadElement_of_extracted_part :
    ∃ d, partWorkspace.loadElement
        { partRoot with children := [valueOfN] ++ [partChangeSet 3] ++ [undoingChangeSet] } "main" =
          .ok d ∧
      partWorkspace.loadElement
        { partRoot with children := [valueOfN] ++ inclusionOf "part" 3 :: [undoingChangeSet] } "main" =
          .ok d ∧
      d.changeSets.map (fun c => (c.id, c.filePath, c.changes.map Change.text, c.rollback.map Change.text)) =
        [("1", "x", [some "v"], []), ("2", "x", [], [some "v"])] := by
  have hwhole : ∃ d, partWorkspace.loadElement
      { partRoot with children := [valueOfN] ++ [partChangeSet 3] ++ [undoingChangeSet] } "main" = .ok d ∧
      d.changeSets.map (fun c => (c.id, c.filePath, c.changes.map Change.text, c.rollback.map Change.text)) =
        [("1", "x", [some "v"], []), ("2", "x", [], [some "v"])] ∧
      d.logicalPath = "x" ∧ d.quotingStrategy = none := by
    with_unfolding_all exact ⟨_, rfl, rfl, rfl, rfl⟩
  have hbefore : ∃ reached, partWorkspace.loadElement { partRoot with children := [valueOfN] } "main" =
      .ok reached ∧ ∀ b ∈ reached.properties, b.global = true := by
    with_unfolding_all exact ⟨_, rfl, by decide⟩
  obtain ⟨d, hloaded, hchangeSets, hlogical, hquoting⟩ := hwhole
  obtain ⟨reached, hreached, hglobal⟩ := hbefore
  have helements : ∀ e ∈ [partChangeSet 3], Independent e :=
    List.forall_mem_singleton.2 (independent_partChangeSet 3)
  have hread : partWorkspace.accessor.read "part" = .ok partText := rfl
  have hhead : SameHead partRoot d := by
    constructor
    · rfl
    · rfl
    · decide
    · rw [hlogical]
      rfl
    · rw [hquoting]
      rfl
  have hplain : Expansion.Plain d.logicalPath := by
    rw [hlogical]
    exact Expansion.plain_of_not_mem (by decide)
  refine ⟨d, hloaded, ?_, hchangeSets⟩
  exact loadElement_of_extracted hloaded helements hreached hglobal
    (Expansion.plain_of_not_mem (by decide)) (by decide) hread readElements_partText hhead hplain rfl 3

end Loading

end Changelog
