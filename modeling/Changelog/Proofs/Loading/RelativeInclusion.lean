import Changelog.Proofs.Loading.PropertyFile

/-!
# Relative paths

A path that is written relative to its document is resolved against the directory of the document.  The
order of resolution makes no difference, so that what a document names through a chain of relative
inclusions is what the paths on the way, resolved against each other, name from the document at its start.
-/

namespace Changelog

namespace Path

theorem directory?_append (front back : List Char) :
    directory? (front ++ back) =
      match directory? back with
      | some d => some (front ++ d)
      | none => directory? front := by
  induction front with
  | nil => cases h : directory? back <;> simp [h, directory?]
  | cons c front ih =>
    rw [List.cons_append, directory?, ih]
    cases directory? back with
    | some d => rfl
    | none => rfl

theorem directory?_slash (path : List Char) :
    directory? ('/' :: path) =
      match directory? path with
      | some d => some ('/' :: d)
      | none => some [] := rfl

theorem resolveChars_resolveChars (base path name : List Char) :
    resolveChars (resolveChars base path) name = resolveChars base (resolveChars path name) := by
  cases hbase : directory? base with
  | none =>
    have hsame : ∀ other, resolveChars base other = other := fun other => by rw [resolveChars, hbase]
    rw [hsame, hsame]
  | some d =>
    have hinside : ∀ other, resolveChars base other = d ++ '/' :: other := fun other => by
      rw [resolveChars, hbase]
    rw [hinside, hinside]
    unfold resolveChars
    rw [directory?_append, directory?_slash]
    cases directory? path <;> simp

theorem resolve_resolve (base path name : String) :
    resolve (resolve base path) name = resolve base (resolve path name) := by
  simp only [resolve, String.toList_ofList, resolveChars_resolveChars]

theorem resolve_foldl (base : String) (links : List String) (name : String) :
    resolve (links.foldl resolve base) name = resolve base (links.foldr resolve name) := by
  induction links generalizing base with
  | nil => rfl
  | cons link links ih => rw [List.foldl_cons, ih, resolve_resolve, List.foldr_cons]

end Path

namespace Build

/-- An element that names a file relative to its document, and passes its checks. -/
structure NamesRelative (name : String) (allowed : List String) (site : Site) (e : Element)
    (written : String) : Prop where
  name : e.name = name
  within : e.attributes.Within allowed
  args : e.args = []
  file : textOf? (site.expander.attributes e.attributes) "file" = some written
  relative : truthOf (site.expander.attributes e.attributes) "relativeToChangelogFile" false = true

section Relative

variable {site : Site} {e : Element} {written : String}

theorem placeOf_of_relative {attributes : Attributes}
    (h : truthOf attributes "relativeToChangelogFile" false = true) (document written : String) :
    placeOf attributes document written = Path.resolve document written := if_pos h

theorem namesFile_of_relative (h : NamesRelative "include" includeAttributes site e written) :
    NamesFile site e (Path.resolve site.expander.document written) :=
  ⟨h.name, h.within, h.args, written, h.file, placeOf_of_relative h.relative _ _⟩

theorem namesPropertyFile_of_relative (h : NamesRelative "property" propertyAttributes site e written) :
    NamesPropertyFile site e (Path.resolve site.expander.document written) :=
  ⟨h.name, h.within, h.args, written, h.file, placeOf_of_relative h.relative _ _⟩

end Relative

end Build

namespace Loading

open Build Workspace

/-! ### Chains of inclusions -/

/-- A file is reached from a document by inclusions, each of which is written relative to the document
that it stands in. -/
inductive Chain (workspace : Workspace) (base : String) : List String → String → Prop
  | start : Chain workspace base [] base
  | onward {links : List String} {written file : String} {progress next : Progress} {e : Element}
      {files : List String} (h : Chain workspace base links progress.document.physicalPath)
      (hrelative : NamesRelative "include" includeAttributes (progress.site workspace.options.scope) e
        written)
      (heffect : elementEffect workspace progress e = .ok (next, files)) (hfile : file ∈ files) :
      Chain workspace base (links ++ [written]) file

section Chain

variable {workspace : Workspace} {progress : Progress} {e : Element} {written : String}

theorem effect_of_relative_include
    (h : NamesRelative "include" includeAttributes (progress.site workspace.options.scope) e written) :
    let file := Path.resolve progress.document.physicalPath written
    let required := truthOf ((progress.expander workspace.options.scope).attributes e.attributes)
      "errorIfMissing" true
    elementEffect workspace progress e =
      .ok (progress, if !required && !workspace.accessor.has file then [] else [file]) := by
  rw [elementEffect_of_include h.name, includedFile_eq,
    (fileOf_eq_ok_iff h.name).2 (namesFile_of_relative h)]
  rfl

theorem effect_of_relative_property
    (h : NamesRelative "property" propertyAttributes (progress.site workspace.options.scope) e written) :
    let file := Path.resolve progress.document.physicalPath written
    let attributes := (progress.expander workspace.options.scope).attributes e.attributes
    elementEffect workspace progress e =
      match workspace.accessor.read file with
      | .ok text => .ok (bound progress ((PropertyFile.read text).map
          (bindingOf attributes progress.document.physicalPath)), [])
      | .error cause => .error (.propertyFileUnreadable file cause) := by
  intro file attributes
  have hpath : (progress.site workspace.options.scope).expander.document =
      progress.document.physicalPath := rfl
  rw [elementEffect_of_property h.name, propertyBindings_of_file (namesPropertyFile_of_relative h), hpath]
  cases workspace.accessor.read file <;> rfl

theorem Chain.path {base file : String} {links : List String} (h : Chain workspace base links file) :
    file = links.foldl Path.resolve base := by
  induction h with
  | start => rfl
  | @onward links written file progress next e files h hrelative heffect hfile ih =>
    rw [effect_of_relative_include hrelative] at heffect
    obtain ⟨-, rfl⟩ := Prod.mk.inj (Except.ok.inj heffect)
    rw [List.foldl_append, List.foldl_cons, List.foldl_nil, ← ih]
    split at hfile
    · nomatch hfile
    · exact List.mem_singleton.1 hfile

/-- Resolution is associative, for paths with slashes of any kind and at any place.  So in a file that is
reached by a chain of relative inclusions, a relative inclusion and a relative property file name what the
paths of the chain and their own one, resolved against each other, name from the document where the chain
starts. -/
theorem effect_of_chain (workspace : Workspace) :
    (∀ base path name : String,
      Path.resolve (Path.resolve base path) name = Path.resolve base (Path.resolve path name)) ∧
    ∀ base links progress, Chain workspace base links progress.document.physicalPath →
      ∀ e written,
        let site := progress.site workspace.options.scope
        let attributes := site.expander.attributes e.attributes
        let file := Path.resolve base (links.foldr Path.resolve written)
        (NamesRelative "include" includeAttributes site e written →
          let required := truthOf attributes "errorIfMissing" true
          elementEffect workspace progress e =
            .ok (progress, if !required && !workspace.accessor.has file then [] else [file])) ∧
        (NamesRelative "property" propertyAttributes site e written →
          elementEffect workspace progress e =
            match workspace.accessor.read file with
            | .ok text => .ok (bound progress ((PropertyFile.read text).map
                (bindingOf attributes progress.document.physicalPath)), [])
            | .error cause => .error (.propertyFileUnreadable file cause)) := by
  refine ⟨Path.resolve_resolve, fun base links progress hchain e written => ?_⟩
  have hfile : Path.resolve progress.document.physicalPath written =
      Path.resolve base (links.foldr Path.resolve written) := by
    rw [hchain.path, Path.resolve_foldl]
  refine ⟨fun h => ?_, fun h => ?_⟩
  · rw [← hfile]
    exact effect_of_relative_include h
  · rw [← hfile]
    exact effect_of_relative_property h

end Chain

def nearWorkspace : Workspace where
  accessor := MemoryResources.accessor ⟨[("db/sub/p", some "k=v")], []⟩

def nearProgress (path : String) : Progress := ⟨.empty, .ofPath path⟩

def relativeElement (name file : String) : Element where
  name := name
  attributes := .ofList [("file", .string file), ("relativeToChangelogFile", .bool true)]
  args := []
  children := []
  line := 1

theorem namesRelative_element {name : String} {allowed : List String} {file : String}
    (hallowed : "file" ∈ allowed ∧ "relativeToChangelogFile" ∈ allowed) (hfile : Expansion.Plain file)
    (path : String) :
    NamesRelative name allowed ((nearProgress path).site nearWorkspace.options.scope)
      (relativeElement name file) file where
  name := rfl
  within := show ∀ key ∈ ["file", "relativeToChangelogFile"], key ∈ allowed from
    List.forall_mem_cons.2 ⟨hallowed.1, List.forall_mem_singleton.2 hallowed.2⟩
  args := rfl
  file := by
    rw [textOf?, Expander.get?_attributes]
    exact congrArg (Option.bind · Value.text?) (congrArg some (Expander.value_of_plain _ hfile))
  relative := rfl

theorem effect_of_chain_near :
    Chain nearWorkspace "db/main" ["sub\\a"] "db/sub\\a" ∧
    elementEffect nearWorkspace (nearProgress "db/sub\\a") (relativeElement "include" "b") =
      .ok (nearProgress "db/sub\\a", ["db/sub/b"]) ∧
    ∃ next, elementEffect nearWorkspace (nearProgress "db/sub\\a") (relativeElement "property" "p") =
        .ok (next, []) ∧
      next.table.bindings.map (fun b => (b.name, b.value)) = [("k", "v")] := by
  have hinclude : ∀ file path, '$' ∉ file.toList →
      NamesRelative "include" includeAttributes ((nearProgress path).site nearWorkspace.options.scope)
        (relativeElement "include" file) file :=
    fun file path h => namesRelative_element (by decide) (Expansion.plain_of_not_mem h) path
  have hproperty : NamesRelative "property" propertyAttributes
      ((nearProgress "db/sub\\a").site nearWorkspace.options.scope) (relativeElement "property" "p") "p" :=
    namesRelative_element (by decide) (Expansion.plain_of_not_mem (by decide)) _
  have hsub : elementEffect nearWorkspace (nearProgress "db/main") (relativeElement "include" "sub\\a") =
      .ok (nearProgress "db/main", ["db/sub\\a"]) := by
    refine (effect_of_relative_include (hinclude "sub\\a" "db/main" (by decide))).trans ?_
    with_unfolding_all rfl
  have hstart : Chain nearWorkspace "db/main" [] "db/main" := .start
  have hchain : Chain nearWorkspace "db/main" ["sub\\a"] "db/sub\\a" :=
    hstart.onward (hinclude "sub\\a" "db/main" (by decide)) hsub (List.mem_singleton_self _)
  obtain ⟨-, hnear⟩ := effect_of_chain nearWorkspace
  have hnext := hnear "db/main" ["sub\\a"] (nearProgress "db/sub\\a") hchain
  refine ⟨hchain, ?_, ?_⟩
  · refine ((hnext _ "b").1 (hinclude "b" _ (by decide))).trans ?_
    with_unfolding_all rfl
  · have hbound := (hnext _ "p").2 hproperty
    with_unfolding_all exact ⟨_, hbound, rfl⟩

end Loading

end Changelog
