import Changelog.Proofs.Build.Rollback
import Changelog.Proofs.Loading.Extraction
import Changelog.Proofs.Loading.Schema

/-!
# References of rollbacks

A rollback sees the change sets that stand before its own one in its document, and nothing else: not its
own change set, none after it, and none of a document that includes its document.  What it takes over was
expanded where it was written, and in the finished document it stands further up.
-/

namespace Changelog.Loading

open Build Workspace

variable {workspace : Workspace}

/-- A document that is built from its root, with the bindings made before it, while the documents of the
stack are being read. -/
structure Construction where
  stack : List String
  table : PropertyTable
  path : String
  root : Element

namespace Construction

/-- Where the construction stands when just the given elements are taken in. -/
def upTo (k : Construction) (workspace : Workspace) (elements : List Element) :
    Except ChangelogError Progress :=
  document workspace (workspace.loadFile k.stack) k.table k.path { k.root with children := elements }

theorem upTo_append (k : Construction) (workspace : Workspace) (a b : List Element) :
    k.upTo workspace (a ++ b) = (k.upTo workspace a >>= fun p =>
      b.foldlM (addDocumentPart workspace (workspace.loadFile k.stack)) p) := by
  rw [upTo, upTo, document, document]
  dsimp only [documentOf]
  simp only [List.foldlM_append, bind_assoc]

end Construction

inductive Opens (workspace : Workspace) : Entry → String → Element → Prop
  | file {path source : String} {elements : List Element} {root : Element}
      (hread : workspace.accessor.read path = .ok source)
      (helements : Source.readElements source = .ok elements) (hroot : rootOf path elements = .ok root) :
      Opens workspace (.file path) path root
  | text {source path : String} {elements : List Element} {root : Element}
      (helements : Source.readElements source = .ok elements) (hroot : rootOf path elements = .ok root) :
      Opens workspace (.text source path) path root
  | element {root : Element} {path : String} (hroot : rootOf path [root] = .ok root) :
      Opens workspace (.element root path) path root

/-- The documents that are built in the course of a load: the first one, and those of the files that an
element of such a document includes, once the files before them have been taken in. -/
inductive Building (workspace : Workspace) (entry : Entry) : Construction → Prop
  | first {path : String} {root : Element} (h : Opens workspace entry path root) :
      Building workspace entry ⟨[path], .empty, path, root⟩
  | included {k : Construction} {before after : List Element} {e : Element} {progress own between : Progress}
      {done files : List String} {file source : String} {elements : List Element} {root : Element}
      (hk : Building workspace entry k) (hsplit : k.root.children = before ++ e :: after)
      (hprogress : k.upTo workspace before = .ok progress)
      (heffect : elementEffect workspace progress e = .ok (own, done ++ file :: files))
      (hdone : done.foldlM (addInclusion (workspace.loadFile k.stack)) own = .ok between)
      (hopen : ¬isOpen k.stack file) (hread : workspace.accessor.read file = .ok source)
      (helements : Source.readElements source = .ok elements) (hroot : rootOf file elements = .ok root) :
      Building workspace entry ⟨k.stack ++ [file], between.table, file, root⟩

theorem documentOfSource_of_root {load : Loader} {table : PropertyTable} {path source : String}
    {elements : List Element} {root : Element} (helements : Source.readElements source = .ok elements)
    (hroot : rootOf path elements = .ok root) :
    documentOfSource workspace load table path source = document workspace load table path root := by
  rw [documentOfSource, helements]
  dsimp only
  rw [hroot, ok_bind]

theorem load_of_opens {entry : Entry} {path : String} {root : Element}
    (h : Opens workspace entry path root) :
    entry.load workspace = (document workspace (workspace.loadFile [path]) .empty path root).map finish := by
  cases h with
  | file hread helements hroot =>
    have hopen : ¬isOpen [] path := List.not_mem_nil
    rw [Entry.load, load, loadFile_of_read hopen hread, documentOfSource_of_root helements hroot,
      List.nil_append]
  | text helements hroot => rw [Entry.load, loadSource, documentOfSource_of_root helements hroot]
  | element hroot =>
    rw [Entry.load, loadElement, hroot, ok_bind]
    cases document workspace (workspace.loadFile [path]) .empty path root <;> rfl

theorem Building.error {entry : Entry} {k : Construction} (h : Building workspace entry k)
    {error : ChangelogError} (hk : k.upTo workspace k.root.children = .error error) :
    entry.load workspace = .error error := by
  induction h with
  | first h =>
    rw [load_of_opens h]
    exact congrArg (Except.map finish) hk
  | @included k before after e progress own between done files file source elements root _ hsplit
      hprogress heffect hdone hopen hread helements hroot ih =>
    have hfile : workspace.loadFile k.stack between.table file = .error error := by
      rw [loadFile_of_read hopen hread, documentOfSource_of_root helements hroot]
      exact hk
    have hinclusion : addInclusion (workspace.loadFile k.stack) between file = .error error := by
      rw [addInclusion, hfile]
      rfl
    have helement : addDocumentPart workspace (workspace.loadFile k.stack) progress e = .error error := by
      rw [addDocumentPart_eq, heffect, ok_bind, List.foldlM_append, hdone, ok_bind, List.foldlM_cons,
        hinclusion]
      rfl
    refine ih ?_
    rw [hsplit, k.upTo_append, hprogress, ok_bind, List.foldlM_cons, helement]
    rfl

/-! ### Where change sets come from -/

/-- A change set was built when, of all that stands before it, the last ones made up its document, and with
bindings to which later ones have been added only. -/
structure BuiltAfter (scope : Scope) (earlier : List ChangeSet) (known : List Binding) (e : Element)
    (progress : Progress) (c : ChangeSet) : Prop where
  name : e.name = "changeSet"
  built : changeSet (progress.expander scope) progress.document e = .ok c
  changeSets : progress.document.changeSets <:+ earlier
  bindings : progress.table.bindings <+: known

/-- All change sets of a list were built one after the other. -/
def AllBuilt (scope : Scope) (known : List Binding) (changeSets : List ChangeSet) : Prop :=
  ∀ earlier c later, changeSets = earlier ++ c :: later →
    ∃ e progress, BuiltAfter scope earlier known e progress c

theorem AllBuilt.nil (scope : Scope) (known : List Binding) : AllBuilt scope known [] := by
  intro earlier c later h
  simp at h

theorem AllBuilt.mono {scope : Scope} {known more : List Binding} {changeSets : List ChangeSet}
    (h : AllBuilt scope known changeSets) (hmore : known <+: more) : AllBuilt scope more changeSets := by
  intro earlier c later hsplit
  obtain ⟨e, progress, hbuilt⟩ := h earlier c later hsplit
  exact ⟨e, progress, { hbuilt with bindings := hbuilt.bindings.trans hmore }⟩

theorem AllBuilt.append {scope : Scope} {known : List Binding} {a b : List ChangeSet}
    (ha : AllBuilt scope known a)
    (hb : ∀ earlier c later, b = earlier ++ c :: later →
      ∃ e progress, BuiltAfter scope (a ++ earlier) known e progress c) :
    AllBuilt scope known (a ++ b) := by
  intro earlier c later hsplit
  rcases List.append_eq_append_iff.1 hsplit with ⟨more, hearlier, hb'⟩ | ⟨more, ha', hlater⟩
  · obtain ⟨e, progress, hbuilt⟩ := hb more c later hb'
    exact ⟨e, progress, hearlier ▸ hbuilt⟩
  · cases more with
    | nil =>
      rw [List.append_nil] at ha'
      rw [List.nil_append] at hlater
      obtain ⟨e, progress, hbuilt⟩ := hb [] c later hlater.symm
      rw [List.append_nil, ha'] at hbuilt
      exact ⟨e, progress, hbuilt⟩
    | cons d more =>
      rw [List.cons_append, List.cons.injEq] at hlater
      obtain ⟨rfl, -⟩ := hlater
      exact ha earlier c more ha'

/-- All change sets of an included document were built after those of the including one. -/
theorem AllBuilt.behind {scope : Scope} {known : List Binding} {a b : List ChangeSet}
    (ha : AllBuilt scope known a) (hb : AllBuilt scope known b) : AllBuilt scope known (a ++ b) := by
  refine ha.append fun earlier c later hsplit => ?_
  obtain ⟨e, progress, hbuilt⟩ := hb earlier c later hsplit
  exact ⟨e, progress, { hbuilt with
    changeSets := hbuilt.changeSets.trans (List.suffix_append a earlier) }⟩

/-- What holds at every point of a construction that began with the given bindings. -/
structure Recorded (scope : Scope) (start : List Binding) (p : Progress) : Prop where
  changeSets : AllBuilt scope p.table.bindings p.document.changeSets
  bindings : start <+: p.table.bindings

theorem Recorded.element {start : List Binding} {p q : Progress} {e : Element} {files : List String}
    (hp : Recorded workspace.options.scope start p)
    (h : elementEffect workspace p e = .ok (q, files)) : Recorded workspace.options.scope start q := by
  have htable : p.table.bindings <+: q.table.bindings := by
    rw [elementEffect_table h]
    exact List.prefix_append _ _
  refine ⟨?_, hp.bindings.trans htable⟩
  have hold := hp.changeSets.mono htable
  obtain ⟨c, hname, hc, rfl⟩ | ⟨_, -, rfl⟩ | ⟨_, rfl⟩ := elementEffect_cases h
  · refine hold.append fun earlier d later hsplit => ?_
    obtain ⟨rfl, rfl⟩ : earlier = [] ∧ c = d := by
      cases earlier with
      | nil => exact ⟨rfl, (List.cons.inj hsplit).1⟩
      | cons first rest => simp at hsplit
    rw [List.append_nil]
    exact ⟨e, p, hname, hc, List.suffix_refl _, htable⟩
  · exact hold
  · exact hold

theorem invariant_recorded (workspace : Workspace) :
    Invariant workspace fun start p => Recorded workspace.options.scope start.bindings p where
  begins {table site root bare} h := by
    refine ⟨?_, List.prefix_refl _⟩
    show AllBuilt _ _ bare.changeSets
    rw [eq_head_of_documentOf h]
    exact .nil _ _
  element := Recorded.element
  inclusion hp hincluded :=
    ⟨(hp.changeSets.mono hincluded.bindings).behind hincluded.changeSets,
      hp.bindings.trans hincluded.bindings⟩

theorem allBuilt_of_load {entry : Entry} {d : Document} (h : entry.load workspace = .ok d) :
    AllBuilt workspace.options.scope d.properties d.changeSets := by
  have hall := invariant_recorded workspace
  cases entry with
  | file path =>
    obtain ⟨p, hp, rfl⟩ := map_eq_ok h
    exact (hall.loadFile [] _ _ _ hp).changeSets
  | text source path =>
    obtain ⟨p, hp, rfl⟩ := map_eq_ok h
    exact (hall.documentOfSource (hall.loadFile [path]) hp).changeSets
  | element root path =>
    obtain ⟨only, -, h⟩ := bind_eq_ok h
    obtain ⟨p, hp, h⟩ := bind_eq_ok h
    obtain rfl := Except.ok.inj h
    exact (hall.document (hall.loadFile [path]) hp).changeSets

/-! ### What a rollback sees -/

/-- The change sets of a document at some point of its construction are those that its own elements before
that point have brought, with those of the files that they include. -/
theorem changeSets_upTo {k : Construction} {elements : List Element} {p : Progress}
    (h : k.upTo workspace elements = .ok p) :
    ∃ bare brought,
      documentOf ⟨⟨k.table, k.path, workspace.options.scope⟩, k.path⟩ k.root = .ok bare ∧
      contributions workspace (workspace.loadFile k.stack) ⟨k.table, bare⟩ elements = .ok brought ∧
      p.document.changeSets = brought.flatten := by
  obtain ⟨bare, hbare, hsteps⟩ := bind_eq_ok h
  obtain ⟨brought, hbrought, hextends⟩ := extends_of_elements hsteps
  have hempty : bare.changeSets = [] := by
    rw [eq_head_of_documentOf hbare]
    rfl
  refine ⟨bare, brought, hbare, hbrought, ?_⟩
  rw [hextends.changeSets, hempty, List.nil_append]

/-- A change set cannot be built once one of its rollbacks has asked in vain. -/
theorem changeSet_of_due {expander : Expander} {d : Document} {e r : Element} {built : ChangeSet}
    {written : List Change} {t : Target} (hdue : Due (changeSetSite expander d e) d e r built written)
    (ht : target? (changeSetSite expander d e) d r = some t) (hnone : ∀ c ∈ d.changeSets, ¬t.Fits c) :
    changeSet expander d e = .error (t.notFound (changeSetContext d e)) := by
  obtain ⟨before, after, hsplit, hbuilt⟩ := hdue.before
  have hwhole : changeSet expander d e = changeSetWith expander d e e.children := rfl
  rw [hwhole, hsplit, changeSetWith_append_eq_foldlM]
  refine (congrArg (· >>= _) hbuilt).trans ?_
  rw [ok_bind, List.foldlM_cons, addChangeSetPart_of_rollback hdue.name,
    rollback_of_none hdue.keys hdue.text ht hnone]
  rfl

/-- In every document that a load builds, a rollback is given the changes of the first change set that fits
among those that stand before its own in that document, as they were expanded there; if none fits, the load
fails.  In the finished document whatever a rollback has taken over belongs to a change set further up. -/
theorem rollbacks_of_load (workspace : Workspace) (entry : Entry) :
    (∀ k before e after p, Building workspace entry k → k.root.children = before ++ e :: after →
      k.upTo workspace before = .ok p →
      (∃ bare brought,
        documentOf ⟨⟨k.table, k.path, workspace.options.scope⟩, k.path⟩ k.root = .ok bare ∧
        contributions workspace (workspace.loadFile k.stack) ⟨k.table, bare⟩ before = .ok brought ∧
        p.document.changeSets = brought.flatten) ∧
      AllBuilt workspace.options.scope p.table.bindings p.document.changeSets ∧
      (e.name = "changeSet" → ∀ site, site = changeSetSite (p.expander workspace.options.scope) p.document e →
        ∀ r built written, Due site p.document e r built written →
        ∃ t, target? site p.document r = some t ∧
          ((∃ c, t.First p.document.changeSets c ∧
            addChangeSetPart site p.document built r =
              (r.children.mapM (changeOf site "rollback")).map fun inside =>
                { built with rollback := built.rollback ++ (written ++ c.changes ++ inside) }) ∨
          (∀ c ∈ p.document.changeSets, ¬t.Fits c) ∧
            entry.load workspace = .error (t.notFound site.context)))) ∧
    ∀ d, entry.load workspace = .ok d → ∀ earlier c later, d.changeSets = earlier ++ c :: later →
      ∃ e p, BuiltAfter workspace.options.scope earlier d.properties e p c ∧
        ∀ site, site = changeSetSite (p.expander workspace.options.scope) p.document e →
        ∀ r ∈ e.children, r.name = "rollback" → Asks r →
        ∃ t found written inside, target? site p.document r = some t ∧
          t.First p.document.changeSets found ∧ found ∈ earlier ∧
          rollbackText site r = .ok written ∧
          r.children.mapM (changeOf site "rollback") = .ok inside ∧
          written ++ found.changes ++ inside <:+: c.rollback := by
  refine ⟨fun k before e after p hk hsplit hp => ⟨changeSets_upTo hp, ?_, ?_⟩, ?_⟩
  · have hall := invariant_recorded workspace
    exact (hall.document (hall.loadFile k.stack) hp).changeSets
  · rintro hname site rfl r built written hdue
    obtain ⟨t, ht⟩ := Option.isSome_iff_exists.1 ((isSome_target? _ p.document r).2 hdue.asks)
    refine ⟨t, ht, ?_⟩
    rcases t.first_or_none p.document.changeSets with ⟨c, hc⟩ | hnone
    · refine .inl ⟨c, hc, ?_⟩
      rw [addChangeSetPart_of_rollback hdue.name, rollback_of_first hdue.keys hdue.text ht hc]
      cases r.children.mapM
        (changeOf (changeSetSite (p.expander workspace.options.scope) p.document e) "rollback") <;> rfl
    · refine .inr ⟨hnone, hk.error ?_⟩
      rw [hsplit, k.upTo_append, hp, ok_bind, List.foldlM_cons, addDocumentPart_of_changeSet hname,
        changeSet_of_due hdue ht hnone]
      rfl
  · intro d hd earlier c later hsplit
    -- The finished change set is followed back to the point at which it was built.
    obtain ⟨e, p, hbuilt⟩ := allBuilt_of_load hd earlier c later hsplit
    refine ⟨e, p, hbuilt, ?_⟩
    rintro site rfl r hr hname hasks
    obtain ⟨changes, hchanges, hinfix⟩ := infix_of_changeSet hbuilt.built hr hname
    obtain ⟨t, ht⟩ := Option.isSome_iff_exists.1 ((isSome_target? _ p.document r).2 hasks)
    obtain ⟨found, written, inside, hfound, hwritten, hinside, rfl⟩ := first_of_rollback ht hchanges
    exact ⟨t, found, written, inside, ht, hfound, hbuilt.changeSets.subset hfound.mem, hwritten,
      hinside, hinfix⟩

/-! ### A reference to what was written before a property -/

def referringElement (id : String) (target : String) : Element where
  name := "changeSet"
  attributes := .ofList [("id", .string id)]
  args := []
  children := [
    { name := "rollback", attributes := .ofList [("changeSetId", .string target)],
      args := [.string "$\x7bx\x7d"], children := [], line := 1 }]
  line := 1

/-- A change set with a token, the property of that name, and a rollback that refers to the change set. -/
def referringRoot : Element where
  name := "databaseChangeLog"
  attributes := .empty
  args := []
  children := [
    { name := "changeSet", attributes := .ofList [("id", .string "1")], args := [],
      children := [
        { name := "sql", attributes := .empty, args := [.string "$\x7bx\x7d"], children := [], line := 1 }],
      line := 1 },
    propertyElement [("name", .string "x"), ("value", .string "y")],
    referringElement "2" "1"]
  line := 1

def selfReferringRoot : Element := { referringRoot with children := [referringElement "2" "2"] }

theorem rollbacks_of_load_referring :
    (∃ d, (Entry.element referringRoot "main").load emptyWorkspace = .ok d ∧
      d.changeSets.map (fun c => (c.id, c.rollback.map Change.text)) =
        [("1", []), ("2", [some "y", some "$\x7bx\x7d"])] ∧
      ∀ earlier c later, d.changeSets = earlier ++ c :: later →
        ∃ e p, BuiltAfter .any earlier d.properties e p c) ∧
    (Entry.element selfReferringRoot "main").load emptyWorkspace =
      .error (.rollbackTargetNotFound "2" "" "main" "main: changeSet '2'") := by
  constructor
  · have hload : ∃ d, (Entry.element referringRoot "main").load emptyWorkspace = .ok d ∧
        d.changeSets.map (fun c => (c.id, c.rollback.map Change.text)) =
          [("1", []), ("2", [some "y", some "$\x7bx\x7d"])] := by
      with_unfolding_all exact ⟨_, rfl, rfl⟩
    obtain ⟨d, hd, htexts⟩ := hload
    refine ⟨d, hd, htexts, fun earlier c later hsplit => ?_⟩
    obtain ⟨e, p, hbuilt, -⟩ :=
      (rollbacks_of_load emptyWorkspace (.element referringRoot "main")).2 d hd earlier c later hsplit
    exact ⟨e, p, hbuilt⟩
  · have hbefore : ∃ p built written r, (Construction.mk ["main"] .empty "main" selfReferringRoot).upTo
        emptyWorkspace [] = .ok p ∧ p.document.changeSets = [] ∧
        Due (changeSetSite (p.expander emptyWorkspace.options.scope) p.document (referringElement "2" "2"))
          p.document (referringElement "2" "2") r built written ∧
        target? (changeSetSite (p.expander emptyWorkspace.options.scope) p.document
          (referringElement "2" "2")) p.document r = some ⟨"2", none, "main"⟩ ∧
        changeSetContext p.document (referringElement "2" "2") = "main: changeSet '2'" := by
      with_unfolding_all exact ⟨_, _, _, _, rfl, rfl,
        ⟨⟨[], [], rfl, rfl⟩, rfl, ⟨_, rfl, nofun⟩, rfl, rfl⟩, rfl, rfl⟩
    obtain ⟨p, built, written, r, hp, hnone, hdue, hasked, hcontext⟩ := hbefore
    obtain ⟨t, ht, ⟨c, hc, -⟩ | ⟨-, herror⟩⟩ :=
      ((rollbacks_of_load emptyWorkspace (.element selfReferringRoot "main")).1 _ [] _ [] p
        (.first (.element rfl)) rfl hp).2.2 rfl _ rfl r built written hdue
    · have hmem := hc.mem
      rw [hnone] at hmem
      nomatch hmem
    · obtain rfl := Option.some.inj (hasked.symm.trans ht)
      rw [herror]
      exact congrArg Except.error (congrArg (Target.notFound _) hcontext)

end Changelog.Loading
