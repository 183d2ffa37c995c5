import Changelog.CommandLine.Run
import Changelog.Proofs.Build.Checks
import Changelog.Proofs.Text.CommaList
import Changelog.Proofs.Value.Display

/-!
# The meaning of comma lists

A list of names is written in an attribute, on the command line, for the scope of a property and in the
outline.  It means the same everywhere: what stands between its commas, without the blanks beside it, where
anything is left.
-/

namespace Changelog

namespace Text

/-- The items are what stands between the commas of a text, trimmed, where anything is left of it. -/
def Lists (text : String) (items : List String) : Prop :=
  ∃ pieces : List (List Char), pieces ≠ [] ∧ (∀ piece ∈ pieces, ',' ∉ piece) ∧
    text.toList = [','].intercalate pieces ∧
    items = ((pieces.map trim).filter (· ≠ [])).map String.ofList

theorem commaItems_intercalate {pieces : List (List Char)} (hsome : pieces ≠ [])
    (hcomma : ∀ piece ∈ pieces, ',' ∉ piece) :
    commaItems ([','].intercalate pieces) = (pieces.map trim).filter (· ≠ []) := by
  rw [commaItems, List.splitOn_intercalate ',' hcomma hsome]
  refine List.filter_congr fun piece _ => ?_
  cases piece <;> rfl

theorem lists_iff {text : String} {items : List String} :
    Lists text items ↔ items = splitItems text := by
  constructor
  · rintro ⟨pieces, hsome, hcomma, htext, rfl⟩
    rw [splitItems, htext, commaItems_intercalate hsome hcomma]
  · rintro rfl
    have hcomma : ∀ piece ∈ text.toList.splitOn ',', ',' ∉ piece := fun piece hpiece =>
      not_mem_of_mem_splitOn hpiece
    have hjoin : text.toList = [','].intercalate (text.toList.splitOn ',') :=
      (List.intercalate_splitOn ',').symm
    refine ⟨text.toList.splitOn ',', List.splitOn_ne_nil _ _, hcomma, hjoin, ?_⟩
    rw [splitItems, hjoin, commaItems_intercalate (List.splitOn_ne_nil _ _) hcomma, ← hjoin]

theorem splitItems_intercalate {items : List String} (h : ∀ item ∈ items, IsItem item) :
    splitItems (",".intercalate items) = items := by
  have hitems : ∀ item ∈ items.map String.toList, IsItem (String.ofList item) :=
    List.forall_mem_map.2 fun item hitem => by rw [String.ofList_toList]; exact h item hitem
  have hjoin : ",".intercalate items = joinItems (items.map String.toList) := by
    rw [← String.toList_inj, String.toList_intercalate, joinItems, String.toList_ofList,
      String.toList_ofList]
  rw [splitItems, hjoin, commaItems_joinItems hitems, List.map_map]
  exact (List.map_congr_left fun item _ => String.ofList_toList).trans (List.map_id items)

end Text

namespace Value

/-! ### Lists in lists -/

mutual

/-- The values inside a value, at any depth, that are no lists. -/
def leaves : Value → List Value
  | .list items => leavesAll items
  | v => [v]

def leavesAll : List Value → List Value
  | [] => []
  | v :: rest => leaves v ++ leavesAll rest

end

mutual

theorem names_eq_leaves (v : Value) : v.names = v.leaves.flatMap names := by
  cases v with
  | list items => rw [names, leaves, namesAll_eq_leaves items]
  | null => rfl
  | bool b => exact (List.append_nil _).symm
  | int i => exact (List.append_nil _).symm
  | float x => exact (List.append_nil _).symm
  | string s => exact (List.append_nil _).symm

theorem namesAll_eq_leaves (items : List Value) : namesAll items = (leavesAll items).flatMap names := by
  cases items with
  | nil => rfl
  | cons v rest =>
    rw [namesAll, leavesAll, List.flatMap_append, names_eq_leaves v, namesAll_eq_leaves rest]

end

mutual

theorem isList_of_mem_leaves {v leaf : Value} (h : leaf ∈ v.leaves) : leaf.isList = false := by
  cases v with
  | list items => exact isList_of_mem_leavesAll h
  | null => exact List.mem_singleton.1 h ▸ rfl
  | bool b => exact List.mem_singleton.1 h ▸ rfl
  | int i => exact List.mem_singleton.1 h ▸ rfl
  | float x => exact List.mem_singleton.1 h ▸ rfl
  | string s => exact List.mem_singleton.1 h ▸ rfl

theorem isList_of_mem_leavesAll {items : List Value} {leaf : Value} (h : leaf ∈ leavesAll items) :
    leaf.isList = false := by
  cases items with
  | nil => nomatch h
  | cons v rest =>
    rcases List.mem_append.1 h with h | h
    · exact isList_of_mem_leaves h
    · exact isList_of_mem_leavesAll h

end

theorem names_list (members : List Value) : names (.list members) = members.flatMap names := by
  rw [names]
  induction members with
  | nil => rfl
  | cons v rest ih => rw [namesAll, ih, List.flatMap_cons]

end Value

theorem Scope.overlaps_iff (declared : String) (active : List String) :
    overlaps (some declared) active = true ↔
      active = [] ∨ Text.splitItems declared = [] ∨
        ∃ name ∈ Text.splitItems declared, ∃ own ∈ active, Text.sameIgnoringCase own name = true := by
  simp [overlaps, or_assoc]

theorem Scope.databaseItems_eq (declared : String) :
    databaseItems declared = (Text.splitItems declared).map fun name => .ofChars name.toList := by
  rw [databaseItems, Text.splitItems, List.map_map]
  exact List.map_congr_left fun item _ => by rw [Function.comp_apply, String.toList_ofList]

theorem CommandLine.scope_of_settings {tree : FileTree} {a : Arguments} {settings : Settings}
    (h : settingsOf tree a = .ok settings) :
    (∀ contexts ∈ a.contexts, settings.options.scope.contexts = Text.splitItems contexts) ∧
    ∀ labels ∈ a.labels, settings.options.scope.labels = Text.splitItems labels := by
  unfold settingsOf at h
  obtain ⟨base, -, h⟩ := bind_eq_ok h
  obtain ⟨u, -, h⟩ := bind_eq_ok h
  obtain rfl := Except.ok.inj h
  refine ⟨fun contexts hcontexts => ?_, fun labels hlabels => ?_⟩
  · show (a.contexts.map Text.splitItems).getD _ = _
    rw [Option.mem_def.1 hcontexts]
    rfl
  · show (a.labels.map Text.splitItems).getD _ = _
    rw [Option.mem_def.1 hlabels]
    rfl

theorem Outline.flag_of_labels {c : ChangeSet} (h : c.labels ≠ []) :
    "labels=" ++ ",".intercalate c.labels ∈ flags c := by
  simp [flags, h]

theorem Outline.flag_of_dbms {c : ChangeSet} (h : c.dbms ≠ []) :
    "dbms=" ++ ",".intercalate c.dbms ∈ flags c := by
  simp [flags, h]

/-- Whatever a value is, the names it lists are items, those of a list are those of all values inside it in
order, and they are read back from the text with commas between them, which the outline shows, and from the
list of them.  A text lists what stands between its commas; this is what an attribute, a run of the command
line and the scope of a property take from it. -/
theorem Value.names_agree (v : Value) (members : List Value) (text : String) :
    (∀ name ∈ v.names, IsItem name) ∧
    (names (.list members) = members.flatMap names ∧ v.names = v.leaves.flatMap names ∧
      ∀ leaf ∈ v.leaves, leaf.isList = false) ∧
    (names (.string (",".intercalate v.names)) = v.names ∧ names (.ofNames v.names) = v.names) ∧
    (∀ c : ChangeSet, v.names ≠ [] →
      (c.labels = v.names → "labels=" ++ ",".intercalate v.names ∈ Outline.flags c) ∧
      (c.dbms = v.names → "dbms=" ++ ",".intercalate v.names ∈ Outline.flags c)) ∧
    (∀ items, Text.Lists text items ↔ items = names (.string text)) ∧
    (∀ tree a settings, CommandLine.settingsOf tree a = .ok settings →
      (a.contexts = some text → settings.options.scope.contexts = names (.string text)) ∧
      (a.labels = some text → settings.options.scope.labels = names (.string text))) ∧
    (∀ active, Scope.overlaps (some text) active = true ↔
      active = [] ∨ names (.string text) = [] ∨
        ∃ name ∈ names (.string text), ∃ own ∈ active, Text.sameIgnoringCase own name = true) ∧
    Scope.databaseItems text = (names (.string text)).map fun name => .ofChars name.toList := by
  have hitems : ∀ name ∈ v.names, IsItem name := fun name hname => isItem_of_mem_names hname
  refine ⟨hitems, ⟨names_list members, names_eq_leaves v, fun leaf hleaf => isList_of_mem_leaves hleaf⟩,
    ⟨Text.splitItems_intercalate hitems, Build.namesAll_items hitems⟩, fun c hsome => ⟨?_, ?_⟩,
    fun items => Text.lists_iff, fun tree a settings h => ⟨?_, ?_⟩, Scope.overlaps_iff text,
    Scope.databaseItems_eq text⟩
  · intro hlabels
    exact hlabels ▸ Outline.flag_of_labels (hlabels ▸ hsome)
  · intro hdbms
    exact hdbms ▸ Outline.flag_of_dbms (hdbms ▸ hsome)
  · intro hcontexts
    exact (CommandLine.scope_of_settings h).1 text hcontexts
  · intro hlabels
    exact (CommandLine.scope_of_settings h).2 text hlabels

def nestedNames : Value :=
  .list [.string " a, b,,", .list [.string "c\x0b,d", .null, .list [.int 5]], .bool true]

theorem Value.names_agree_nested :
    nestedNames.names = ["a", "b", "c", "d", "5", "true"] ∧ IsItem "d" ∧
    names (.string "a,b,c,d,5,true") = nestedNames.names ∧
    names (.string " x,, y") = ["x", "y"] ∧
    ∃ settings, CommandLine.settingsOf ⟨[], []⟩ { labels := some " x,, y" } = .ok settings ∧
      settings.options.scope.labels = ["x", "y"] := by
  obtain ⟨hitems, -, ⟨hjoined, -⟩, -, -, hscope, -⟩ := names_agree nestedNames [] " x,, y"
  have hnames : nestedNames.names = ["a", "b", "c", "d", "5", "true"] := by
    with_unfolding_all rfl
  have hread : names (.string " x,, y") = ["x", "y"] := by
    with_unfolding_all rfl
  have hsettings : ∃ settings,
      CommandLine.settingsOf ⟨[], []⟩ { labels := some " x,, y" } = .ok settings := by
    with_unfolding_all exact ⟨_, rfl⟩
  obtain ⟨settings, hsettings⟩ := hsettings
  refine ⟨hnames, hitems "d" (hnames ▸ by decide), ?_, hread, settings, hsettings, ?_⟩
  · rw [hnames] at hjoined ⊢
    exact hjoined
  · rw [(hscope _ _ settings hsettings).2 rfl, hread]

end Changelog
