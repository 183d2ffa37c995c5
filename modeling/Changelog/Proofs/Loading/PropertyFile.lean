import Changelog.Proofs.Loading.Bindings
import Changelog.Proofs.Loading.Leniency
import Changelog.Proofs.Property.Tokens
import Changelog.Proofs.Property.Written
import Changelog.Resource.Memory

/-!
# Property files

A property element that names a file binds the entries of the file as they are, in one scope.  Where no
token stands in the entries or in what gives the scope, that is the same as a property element for each
entry; where tokens stand in the entries, they are kept and never expanded.
-/

namespace Changelog

namespace Value

mutual

/-- No token begins in a string of the value, in lists at any depth. -/
def Plain : Value → Prop
  | .string s => Expansion.Plain s
  | .list items => AllPlain items
  | .null | .bool _ | .int _ | .float _ => True

def AllPlain : List Value → Prop
  | [] => True
  | v :: rest => v.Plain ∧ AllPlain rest

end

mutual

theorem mapStrings_of_plain (e : Expander) {v : Value} (h : v.Plain) :
    Expansion.mapStrings e.text v = v := by
  cases v with
  | string s => exact e.value_of_plain h
  | list items => rw [Expansion.mapStrings, mapStringsAll_of_plain e h]
  | _ => rfl

theorem mapStringsAll_of_plain (e : Expander) {items : List Value} (h : AllPlain items) :
    Expansion.mapStringsAll e.text items = items := by
  cases items with
  | nil => rfl
  | cons v rest =>
    rw [Expansion.mapStringsAll, mapStrings_of_plain e h.1, mapStringsAll_of_plain e h.2]

end

end Value

theorem Expander.get?_attributes_of_plain (e : Expander) {a : Attributes} {key : String}
    (h : ∀ v ∈ a.get? key, v.Plain) : (e.attributes a).get? key = a.get? key := by
  rw [e.get?_attributes]
  cases hvalue : a.get? key with
  | none => rfl
  | some v => exact congrArg some (Value.mapStrings_of_plain e (h v hvalue))

namespace PropertyTable

theorem lookup_defineAll_of_none {table : PropertyTable} {name document : String} {scope : Scope}
    (h : table.lookup name document scope = none) (more : List Binding) :
    (table.defineAll more).lookup name document scope = lookup ⟨more⟩ name document scope := by
  rw [lookup, Option.map_eq_none_iff] at h
  rw [lookup, defineAll, List.find?_append, h]
  rfl

theorem lookup_of_nodup {entries : List (String × String)} (hnodup : (entries.map Prod.fst).Nodup)
    {bind : String × String → Binding} (hname : ∀ entry, (bind entry).name = entry.1)
    {entry : String × String} (hmem : entry ∈ entries) {document : String} {scope : Scope}
    (hvisible : visible document scope (bind entry) = true) :
    lookup ⟨entries.map bind⟩ entry.1 document scope = some (bind entry).value := by
  induction entries with
  | nil => nomatch hmem
  | cons first rest ih =>
    obtain ⟨hfirst, hrest⟩ := List.nodup_cons.1 hnodup
    rw [lookup, List.map_cons]
    rcases List.mem_cons.1 hmem with rfl | hmem
    · rw [List.find?_cons_of_pos (by simp [hname, hvisible])]
      rfl
    · have hne : first.1 ≠ entry.1 := fun heq => hfirst (heq ▸ List.mem_map_of_mem hmem)
      rw [List.find?_cons_of_neg (by simp [hname, hne])]
      exact ih hrest hmem

end PropertyTable

namespace Build

/-! ### Elements that bind -/

/-- A property element that names a file, at a path, and passes its checks. -/
structure NamesPropertyFile (site : Site) (e : Element) (path : String) : Prop where
  name : e.name = "property"
  within : e.attributes.Within propertyAttributes
  args : e.args = []
  path : ∃ written, textOf? (site.expander.attributes e.attributes) "file" = some written ∧
    placeOf (site.expander.attributes e.attributes) site.expander.document written = path

def scopingAttributes : List String := ["context", "labels", "dbms", "global"]

/-- A property element that binds one entry, in the scope that another element gives. -/
structure BindsEntry (e : Element) (entry : String × String) (d : Element) : Prop where
  name : d.name = "property"
  within : d.attributes.Within propertyAttributes
  args : d.args = []
  file : d.attributes.get? "file" = none
  key : d.attributes.get? "name" = some (.string entry.1)
  value : d.attributes.get? "value" = some (.string entry.2)
  scope : ∀ key ∈ scopingAttributes, d.attributes.get? key = e.attributes.get? key

def PlainScope (e : Element) : Prop :=
  ∀ key ∈ scopingAttributes, ∀ v ∈ e.attributes.get? key, v.Plain

def PlainEntry (entry : String × String) : Prop :=
  Expansion.Plain entry.1 ∧ Expansion.Plain entry.2

theorem bindingOf_congr {a b : Attributes} (h : ∀ key ∈ scopingAttributes, a.get? key = b.get? key)
    (document : String) (entry : String × String) :
    bindingOf a document entry = bindingOf b document entry := by
  have hcontext := h "context" (by decide)
  have hlabels := h "labels" (by decide)
  have hdbms := h "dbms" (by decide)
  have hglobal := h "global" (by decide)
  simp only [bindingOf, textOf?, truthOf, hcontext, hlabels, hdbms, hglobal]

theorem bindingOf_of_plainScope {e : Element} (h : PlainScope e) (expander : Expander)
    (document : String) (entry : String × String) :
    bindingOf (expander.attributes e.attributes) document entry =
      bindingOf e.attributes document entry :=
  bindingOf_congr (fun key hkey => expander.get?_attributes_of_plain (h key hkey)) document entry

section Bindings

variable {accessor : Accessor} {site : Site} {e : Element}

theorem propertyBindings_of_file {path : String} (h : NamesPropertyFile site e path) :
    propertyBindings accessor site e =
      match accessor.read path with
      | .ok text => .ok ((PropertyFile.read text).map
          (bindingOf (site.expander.attributes e.attributes) site.expander.document))
      | .error cause => .error (.propertyFileUnreadable path cause) := by
  obtain ⟨written, hwritten, rfl⟩ := h.path
  unfold propertyBindings propertyEntries
  rw [checkAttributes_of_within h.within, h.args, ok_bind, rejectPositional_nil, ok_bind]
  simp only [hwritten]
  cases accessor.read (placeOf (site.expander.attributes e.attributes) site.expander.document written) <;>
    rfl

theorem propertyBindings_of_bindsEntry {d : Element} {entry : String × String}
    (hscope : PlainScope e) (hentry : PlainEntry entry) (h : BindsEntry e entry d) :
    propertyBindings accessor site d = .ok [bindingOf e.attributes site.expander.document entry] := by
  have hfile : textOf? (site.expander.attributes d.attributes) "file" = none := by
    rw [textOf?, Expander.get?_attributes, h.file]
    rfl
  have htext : ∀ key s, d.attributes.get? key = some (.string s) → Expansion.Plain s →
      textOf? (site.expander.attributes d.attributes) key = some s := by
    intro key s hvalue hplain
    rw [textOf?, Expander.get?_attributes, hvalue, Option.map_some, Expander.value_of_plain _ hplain]
    exact Value.text?_string s
  have hkey := (requiredText_eq_ok_iff _ "property" "name" site.context _).2
    (htext "name" entry.1 h.key hentry.1)
  have hd : PlainScope d := fun key hkey v hv => hscope key hkey v (h.scope key hkey ▸ hv)
  unfold propertyBindings propertyEntries
  rw [checkAttributes_of_within h.within, h.args, ok_bind, rejectPositional_nil, ok_bind]
  simp only [hfile, hkey, htext "value" entry.2 h.value hentry.2, ok_bind]
  rw [← bindingOf_congr h.scope, ← bindingOf_of_plainScope hd site.expander]
  rfl

end Bindings

end Build

namespace Loading

open Build Workspace

/-- Elements lead a document to its next state, whatever the files hold and wherever they stand in a load,
and leave the stack and what waits as they were. -/
structure Yields (workspace : Workspace) (progress : Progress) (elements : List Element)
    (next : Progress) : Prop where
  parts : ∀ load, elements.foldlM (addDocumentPart workspace load) progress = .ok next
  steps : ∀ stack waiting rest, Reaches workspace (goingOn progress stack waiting (elements ++ rest))
    (goingOn next stack waiting rest)

section Yields

variable {workspace : Workspace} {progress next : Progress} {e : Element}

theorem yields_nil (workspace : Workspace) (progress : Progress) :
    Yields workspace progress [] progress where
  parts _ := rfl
  steps _ _ _ := .refl

theorem yields_cons {middle : Progress} {elements : List Element}
    (h : elementEffect workspace progress e = .ok (middle, []))
    (hrest : Yields workspace middle elements next) : Yields workspace progress (e :: elements) next where
  parts load := by
    rw [List.foldlM_cons, part_of_effect h, ok_bind, hrest.parts]
  steps stack waiting rest :=
    (Reaches.step (step_of_effect h stack waiting _)).trans (hrest.steps stack waiting rest)

end Yields

/-! ### Bindings made one by one -/

def bound (progress : Progress) (bindings : List Binding) : Progress :=
  { progress with table := progress.table.defineAll bindings }

theorem bound_nil (progress : Progress) : bound progress [] = progress := by
  rw [bound, defineAll_nil]

theorem bound_bound (progress : Progress) (first second : List Binding) :
    bound (bound progress first) second = bound progress (first ++ second) := by
  simp [bound, PropertyTable.defineAll]

section File

variable {workspace : Workspace} {progress : Progress} {e : Element}

theorem effect_of_bindsEntry {entry : String × String} {d : Element} (hscope : PlainScope e)
    (hentry : PlainEntry entry) (h : BindsEntry e entry d) (progress : Progress) :
    elementEffect workspace progress d =
      .ok (bound progress [bindingOf e.attributes progress.document.physicalPath entry], []) := by
  rw [elementEffect_of_property h.name, propertyBindings_of_bindsEntry hscope hentry h]
  rfl

theorem yields_of_bindsEntry {entries : List (String × String)} {elements : List Element}
    (hscope : PlainScope e) (hentries : ∀ entry ∈ entries, PlainEntry entry)
    (h : List.Forall₂ (BindsEntry e) entries elements) (progress : Progress) :
    Yields workspace progress elements
      (bound progress (entries.map (bindingOf e.attributes progress.document.physicalPath))) := by
  induction h generalizing progress with
  | nil =>
    rw [List.map_nil, bound_nil]
    exact yields_nil workspace progress
  | @cons entry d entries elements hd _ ih =>
    obtain ⟨hentry, hrest⟩ := List.forall_mem_cons.1 hentries
    have hyields := ih hrest
      (bound progress [bindingOf e.attributes progress.document.physicalPath entry])
    rw [bound_bound] at hyields
    exact yields_cons (effect_of_bindsEntry hscope hentry hd progress) hyields

theorem yields_of_file {path text : String}
    (h : NamesPropertyFile (progress.site workspace.options.scope) e path)
    (hread : workspace.accessor.read path = .ok text) :
    Yields workspace progress [e] (bound progress ((PropertyFile.read text).map
      (bindingOf ((progress.expander workspace.options.scope).attributes e.attributes)
        progress.document.physicalPath))) := by
  refine yields_cons ?_ (yields_nil workspace _)
  rw [elementEffect_of_property h.name, propertyBindings_of_file h, hread]
  rfl

/-- An element that names a property file binds the entries of the file as they are written there.  If no
token stands in the entries or in what gives the scope, elements that bind one entry each, in the same
scope and order, have the same outcome.  And whatever the entries hold: where a name had no value before
and its binding is seen, its token gives way to the text of its entry, in which nothing is expanded. -/
theorem yields_of_propertyFile {path text : String}
    (h : NamesPropertyFile (progress.site workspace.options.scope) e path)
    (hread : workspace.accessor.read path = .ok text) :
    let attributes := (progress.expander workspace.options.scope).attributes e.attributes
    let bindings := (PropertyFile.read text).map (bindingOf attributes progress.document.physicalPath)
    Yields workspace progress [e] (bound progress bindings) ∧
    bindings.map (fun b => (b.name, b.value)) = PropertyFile.read text ∧
    (PlainScope e → (∀ entry ∈ PropertyFile.read text, PlainEntry entry) →
      ∀ elements, List.Forall₂ (BindsEntry e) (PropertyFile.read text) elements →
        Yields workspace progress elements (bound progress bindings)) ∧
    ∀ entry ∈ PropertyFile.read text, Expansion.IsName entry.1.toList →
      ∀ document scope, progress.table.lookup entry.1 document scope = none →
        PropertyTable.visible document scope
          (bindingOf attributes progress.document.physicalPath entry) = true →
        ∀ more before after, Expansion.Plain before →
          let later : Expander := ⟨(bound progress bindings).table.defineAll more, document, scope⟩
          later.text (before ++ "$\x7b" ++ entry.1 ++ "\x7d" ++ after) =
            before ++ entry.2 ++ later.text after := by
  intro attributes bindings
  refine ⟨yields_of_file h hread, ?_, fun hscope hentries elements helements => ?_, ?_⟩
  · rw [List.map_map]
    exact List.map_id _
  · have hbindings : bindings = (PropertyFile.read text).map
        (bindingOf e.attributes progress.document.physicalPath) :=
      List.map_congr_left fun entry _ => bindingOf_of_plainScope hscope _ _ entry
    rw [hbindings]
    exact yields_of_bindsEntry hscope hentries helements progress
  · intro entry hentry hname document scope hnone hvisible more before after hbefore later
    have hbound : (bound progress bindings).table.lookup entry.1 document scope = some entry.2 := by
      rw [bound, PropertyTable.lookup_defineAll_of_none hnone]
      exact PropertyTable.lookup_of_nodup (PropertyFile.nodup_read text) (fun _ => rfl) hentry hvisible
    have hvalue : later.value? entry.1 = some entry.2 :=
      PropertyTable.lookup_defineAll_of_some more hbound
    exact later.text_token hname hvalue hbefore after

end File

/-! ### A file beside its document, and a file with tokens -/

def scopedWorkspace : Workspace where
  accessor := MemoryResources.accessor
    ⟨[("d/p", some "a=1\nb two words"), ("q", some "x=$\x7by\x7d\ny=deep")], []⟩

def scopedProgress : Progress := ⟨.empty, .ofPath "d/main"⟩

def scopedFile : Element :=
  propertyElement [("file", .string "p"), ("relativeToChangelogFile", .bool true),
    ("labels", .list [.string "l", .int 1]), ("global", .bool false)]

def scopedEntry (name value : String) : Element :=
  propertyElement [("global", .bool false), ("name", .string name), ("value", .string value),
    ("labels", .list [.string "l", .int 1])]

def scopedBinding (name value : String) : Binding :=
  ⟨name, value, none, some "[l, 1]", none, false, "d/main"⟩

def tokenFile : Element := propertyElement [("file", .string "q")]

theorem namesPropertyFile_scoped :
    NamesPropertyFile (scopedProgress.site scopedWorkspace.options.scope) scopedFile "d/p" where
  name := rfl
  within := by decide
  args := rfl
  path := by
    with_unfolding_all exact ⟨"p", rfl, rfl⟩

theorem namesPropertyFile_token :
    NamesPropertyFile (scopedProgress.site scopedWorkspace.options.scope) tokenFile "q" where
  name := rfl
  within := by decide
  args := rfl
  path := by
    with_unfolding_all exact ⟨"q", rfl, rfl⟩

theorem bindsEntry_scoped (name value : String) :
    BindsEntry scopedFile (name, value) (scopedEntry name value) where
  name := rfl
  within := show ∀ key ∈ ["global", "name", "value", "labels"], key ∈ propertyAttributes by decide
  args := rfl
  file := rfl
  key := rfl
  value := rfl
  scope := by
    intro key hkey
    simp only [scopingAttributes, List.mem_cons, List.not_mem_nil, or_false] at hkey
    rcases hkey with rfl | rfl | rfl | rfl <;> rfl

theorem plainScope_scoped : PlainScope scopedFile := by
  intro key hkey v hv
  simp only [scopingAttributes, List.mem_cons, List.not_mem_nil, or_false] at hkey
  rcases hkey with rfl | rfl | rfl | rfl
  · nomatch hv
  · obtain rfl : .list [.string "l", .int 1] = v := Option.some.inj hv
    exact ⟨Expansion.plain_of_not_mem (by decide), trivial, trivial⟩
  · nomatch hv
  · obtain rfl : .bool false = v := Option.some.inj hv
    exact trivial

/-- The entries of the first file might stand as elements in its place; in the second file an entry holds a
token for which the next one has a value. -/
theorem yields_of_propertyFile_scoped :
    (∃ next, Yields scopedWorkspace scopedProgress [scopedFile] next ∧
      Yields scopedWorkspace scopedProgress [scopedEntry "a" "1", scopedEntry "b" "two words"] next ∧
      next.table.bindings = [scopedBinding "a" "1", scopedBinding "b" "two words"]) ∧
    ∃ next, Yields scopedWorkspace scopedProgress [tokenFile] next ∧
      let later : Expander := ⟨next.table.defineAll [scopedBinding "x" "late"], "other", .any⟩
      later.text "<$\x7bx\x7d $\x7by\x7d>" = "<$\x7by\x7d deep>" := by
  have hplain : PropertyFile.read "a=1\nb two words" = [("a", "1"), ("b", "two words")] := by
    with_unfolding_all rfl
  have htokens : PropertyFile.read "x=$\x7by\x7d\ny=deep" = [("x", "$\x7by\x7d"), ("y", "deep")] := by
    with_unfolding_all rfl
  have hentries : ∀ entry ∈ [("a", "1"), ("b", "two words")], PlainEntry entry :=
    List.forall_mem_cons.2 ⟨⟨Expansion.plain_of_not_mem (by decide), Expansion.plain_of_not_mem (by decide)⟩,
      List.forall_mem_singleton.2
        ⟨Expansion.plain_of_not_mem (by decide), Expansion.plain_of_not_mem (by decide)⟩⟩
  have helements : List.Forall₂ (BindsEntry scopedFile) [("a", "1"), ("b", "two words")]
      [scopedEntry "a" "1", scopedEntry "b" "two words"] :=
    .cons (bindsEntry_scoped "a" "1") (.cons (bindsEntry_scoped "b" "two words") .nil)
  refine ⟨?_, ?_⟩
  · obtain ⟨hfile, -, hsame, -⟩ := yields_of_propertyFile namesPropertyFile_scoped rfl
    rw [hplain] at hfile hsame
    refine ⟨_, hfile, hsame plainScope_scoped hentries _ helements, ?_⟩
    with_unfolding_all rfl
  · obtain ⟨hfile, -, -, hlater⟩ := yields_of_propertyFile namesPropertyFile_token rfl
    rw [htokens] at hfile hlater
    refine ⟨_, hfile, ?_⟩
    have hx := hlater ("x", "$\x7by\x7d") (List.mem_cons_self ..) (by decide) "other" .any rfl
      (by with_unfolding_all rfl) [scopedBinding "x" "late"] "<" " $\x7by\x7d>"
      (Expansion.plain_of_not_mem (by decide))
    refine hx.trans ?_
    with_unfolding_all rfl

end Loading

end Changelog
