import Changelog.Proofs.Build.Schema
import Changelog.Proofs.Loading.Invariant
import Changelog.Resource.Memory

/-!
# Loaded documents follow the schema

What is built is valid, what is included was built, and a rollback reuses changes of the document itself.
So every loaded document is valid, however its files include each other.
-/

namespace Changelog

namespace Workspace

/-- A document that loading gives, from a file, a text or an element. -/
inductive Gives (workspace : Workspace) (d : Document) : Prop
  | file (path : String) (h : workspace.load path = .ok d)
  | source (text path : String) (h : workspace.loadSource text path = .ok d)
  | element (root : Element) (path : String) (h : workspace.loadElement root path = .ok d)

end Workspace

namespace Loading

open Build Workspace

theorem splice_valid {document included : Document} (hd : document.Valid) (hi : included.Valid) :
    (splice document included).Valid where
  preconditions := by
    intro p hp
    unfold splice joinPreconditions at hp
    dsimp only at hp
    split at hp
    · exact hd.preconditions p hp
    · next other hother =>
      obtain rfl := Option.some.inj hp
      have hown : (document.preconditions.getD (.ofNested [])).Valid := by
        cases hcontainer : document.preconditions with
        | none => exact List.forall_mem_nil _
        | some own => exact hd.preconditions own hcontainer
      unfold Preconditions.Valid
      rw [Precondition.checksOfAll_append]
      exact List.forall_mem_append.2 ⟨hown, hi.preconditions other hother⟩
  changeSets := List.forall_mem_append.2 ⟨hd.changeSets, hi.changeSets⟩

theorem elementEffect_valid {workspace : Workspace} {progress next : Progress} {e : Element}
    {files : List String} (hp : progress.document.Valid)
    (h : elementEffect workspace progress e = .ok (next, files)) : next.document.Valid := by
  obtain ⟨c, -, hc, rfl⟩ | ⟨p, hcontainer, rfl⟩ | ⟨table, rfl⟩ := elementEffect_cases h
  · refine { hp with changeSets := List.forall_mem_append.2 ⟨hp.changeSets, ?_⟩ }
    exact List.forall_mem_singleton.2 (changeSet_valid hp hc)
  · refine { hp with preconditions := fun other hother => ?_ }
    obtain rfl := Option.some.inj hother
    exact container_valid hcontainer
  · exact hp

theorem documentOf_valid {site : Site} {root : Element} {bare : Document}
    (h : documentOf site root = .ok bare) : bare.Valid := by
  obtain ⟨_, -, h⟩ := bind_eq_ok h
  obtain ⟨quoting, -, h⟩ := bind_eq_ok h
  obtain rfl := Except.ok.inj h
  exact ⟨fun p hp => absurd hp (Option.not_mem_none p), List.forall_mem_nil _⟩

theorem invariant_valid (workspace : Workspace) :
    Invariant workspace fun _ progress => progress.document.Valid where
  begins := documentOf_valid
  element := elementEffect_valid
  inclusion := splice_valid

abbrev LoadsValid (load : Loader) : Prop := Respects (fun _ progress => progress.document.Valid) load

theorem loadsValid_loadFile (workspace : Workspace) (stack : List String) :
    LoadsValid (workspace.loadFile stack) :=
  (invariant_valid workspace).loadFile stack

section Progress

variable {workspace : Workspace} {load : Loader} {table : PropertyTable} {path : String} {p : Progress}

theorem document_valid (hload : LoadsValid load) {root : Element}
    (h : document workspace load table path root = .ok p) : p.document.Valid :=
  (invariant_valid workspace).document hload h

theorem documentOfSource_valid (hload : LoadsValid load) {source : String}
    (h : documentOfSource workspace load table path source = .ok p) : p.document.Valid :=
  (invariant_valid workspace).documentOfSource hload h

end Progress

theorem valid_finish {p : Progress} (h : p.document.Valid) : (finish p).Valid :=
  ⟨h.preconditions, h.changeSets⟩

theorem valid_of_gives {workspace : Workspace} {d : Document} (h : workspace.Gives d) : d.Valid := by
  cases h with
  | file path h =>
    obtain ⟨p, hp, rfl⟩ := map_eq_ok h
    exact valid_finish (loadsValid_loadFile workspace [] _ _ _ hp)
  | source text path h =>
    obtain ⟨p, hp, rfl⟩ := map_eq_ok h
    exact valid_finish (documentOfSource_valid (loadsValid_loadFile workspace [path]) hp)
  | element root path h =>
    obtain ⟨only, -, h⟩ := bind_eq_ok h
    obtain ⟨p, hp, h⟩ := bind_eq_ok h
    obtain rfl := Except.ok.inj h
    exact valid_finish (document_valid (loadsValid_loadFile workspace [path]) hp)

def labelledRoot : Element where
  name := "databaseChangeLog"
  attributes := .empty
  args := []
  children := [
    { name := "changeSet",
      attributes := .ofList [("id", .string "1"), ("labels", .string "a, b")], args := [],
      children := [
        { name := "addColumn", attributes := .ofList [("tableName", .string "t")], args := [],
          children := [
            { name := "column", attributes := .ofList [("name", .string "c")], args := [],
              children := [], line := 1 }],
          line := 1 },
        { name := "rollback", attributes := .empty, args := [.string "x"], children := [], line := 1 }],
      line := 1 }]
  line := 1

def emptyWorkspace : Workspace where
  accessor := MemoryResources.accessor ⟨[], []⟩

theorem valid_of_gives_labelledRoot :
    ∃ d, emptyWorkspace.Gives d ∧ d.changeSets.map ChangeSet.labels = [["a", "b"]] ∧
      d.changeSets.map (fun c => (c.changes.length, c.rollback.length)) = [(1, 1)] ∧ d.Valid := by
  have hload : ∃ d, emptyWorkspace.loadElement labelledRoot "main" = .ok d ∧
      d.changeSets.map ChangeSet.labels = [["a", "b"]] ∧
      d.changeSets.map (fun c => (c.changes.length, c.rollback.length)) = [(1, 1)] := by
    with_unfolding_all exact ⟨_, rfl, rfl, rfl⟩
  obtain ⟨d, hd, hlabels, hchanges⟩ := hload
  exact ⟨d, .element _ _ hd, hlabels, hchanges, valid_of_gives (.element _ _ hd)⟩

end Loading

end Changelog
