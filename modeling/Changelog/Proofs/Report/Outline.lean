import Changelog.Proofs.Text.Runs
import Changelog.Report.Outline
import Changelog.Text.Lines
import Mathlib.Algebra.Ring.Nat

/-!
# Lines of the outline

Where no text that is shown as it is goes over a line, the outline has exactly the lines it is made of: one
for each item, however the bodies of the changes are broken up.
-/

namespace Changelog

namespace Text

def Unbroken (s : String) : Prop := '\n' ∉ s.toList

instance (s : String) : Decidable (Unbroken s) := inferInstanceAs (Decidable ('\n' ∉ s.toList))

theorem unbroken_append {s t : String} (hs : Unbroken s) (ht : Unbroken t) : Unbroken (s ++ t) := by
  rw [Unbroken, String.toList_append, List.mem_append, not_or]
  exact ⟨hs, ht⟩

theorem unbroken_join {texts : List String} (h : ∀ text ∈ texts, Unbroken text) :
    Unbroken (String.join texts) := by
  rw [Unbroken, String.toList_join, List.mem_flatMap]
  rintro ⟨text, htext, hmem⟩
  exact h text htext hmem

theorem unbroken_intercalate {between : String} {texts : List String} (hbetween : Unbroken between)
    (htexts : ∀ text ∈ texts, Unbroken text) : Unbroken (between.intercalate texts) := by
  rw [Unbroken, String.toList_intercalate]
  exact not_mem_intercalate hbetween (List.forall_mem_map.2 htexts)

theorem unbroken_nat (n : Nat) : Unbroken (toString n) := not_mem_repr (by decide) n

theorem splitOn_lines {lines : List (List Char)} (h : ∀ line ∈ lines, '\n' ∉ line) :
    (lines.flatMap (· ++ ['\n'])).splitOn '\n' = lines ++ [[]] := by
  induction lines with
  | nil => rfl
  | cons line rest ih =>
    obtain ⟨hline, hrest⟩ := List.forall_mem_cons.1 h
    have hcons : (line :: rest).flatMap (· ++ ['\n']) = line ++ '\n' :: rest.flatMap (· ++ ['\n']) := by
      simp
    rw [hcons, List.splitOn_append_cons_self_of_not_mem hline, ih hrest, List.cons_append]

theorem lineEnds_lines {lines : List (List Char)} (h : ∀ line ∈ lines, '\n' ∉ line) :
    lineEnds (lines.flatMap (· ++ ['\n'])) = lines.length := by
  induction lines with
  | nil => rfl
  | cons line rest ih =>
    obtain ⟨hline, hrest⟩ := List.forall_mem_cons.1 h
    have hone : lineEnds (line ++ ['\n']) = 1 := by
      rw [lineEnds_append, lineEnds, List.count_eq_zero_of_not_mem hline]
      rfl
    rw [List.flatMap_cons, lineEnds_append, hone, ih hrest, List.length_cons, Nat.add_comm]

theorem getLast?_lines {lines : List (List Char)} (h : lines ≠ []) :
    (lines.flatMap (· ++ ['\n'])).getLast? = some '\n' := by
  obtain ⟨before, line, rfl⟩ := (List.eq_nil_or_concat lines).resolve_left h
  rw [List.concat_eq_append, List.flatMap_append, List.flatMap_singleton, ← List.append_assoc,
    List.getLast?_concat]

end Text

open Text (unbroken_append unbroken_join unbroken_intercalate unbroken_nat)

/-! ### Documents whose texts are on one line -/

/-- The names of the attributes and their values, as they are shown, do not go over a line.  The body of the
change may. -/
structure Change.Unbroken (c : Change) : Prop where
  key : ∀ entry ∈ c.attributes.entries, Text.Unbroken entry.1
  value : ∀ entry ∈ c.attributes.entries, Text.Unbroken entry.2.display

structure ChangeSet.Unbroken (c : ChangeSet) : Prop where
  id : Text.Unbroken c.id
  author : Text.Unbroken c.author
  filePath : Text.Unbroken c.filePath
  context : ∀ context ∈ c.context, Text.Unbroken context
  labels : ∀ label ∈ c.labels, Text.Unbroken label
  dbms : ∀ name ∈ c.dbms, Text.Unbroken name
  comments : ∀ comment ∈ c.comments, Text.Unbroken comment
  changes : ∀ change ∈ c.changes, change.Unbroken
  rollback : ∀ change ∈ c.rollback, change.Unbroken

structure Document.Unbroken (d : Document) : Prop where
  logicalPath : Text.Unbroken d.logicalPath
  physicalPath : Text.Unbroken d.physicalPath
  changeSets : ∀ c ∈ d.changeSets, c.Unbroken

namespace Outline

theorem unbroken_collapse (body : String) : Text.Unbroken (collapse body) := by
  rw [Text.Unbroken, collapse, String.toList_ofList]
  refine Text.not_mem_intercalate (by decide) fun word hword hmem => ?_
  have hpiece : word ∈ body.toList.splitOnP Text.isBlank := (List.mem_filter.1 hword).1
  have hblank : Text.isBlank '\n' = false := Text.not_of_mem_splitOnP hpiece '\n' hmem
  exact absurd hblank (by decide)

theorem unbroken_kind (kind : ChangeKind) : Text.Unbroken kind.name := by
  have hall : ∀ k ∈ ChangeKind.all, Text.Unbroken k.name := by
    decide +kernel
  exact hall kind kind.mem_all

theorem unbroken_columnCount (columns : List Column) : Text.Unbroken (columnCount columns) := by
  unfold columnCount
  split
  · decide
  · exact unbroken_append (unbroken_append (by decide) (unbroken_nat _)) (by decide)

theorem unbroken_changeLine {change : Change} (h : change.Unbroken) :
    Text.Unbroken (changeLine change) := by
  have hattributes : Text.Unbroken (String.join (change.attributes.entries.map attributeText)) := by
    refine unbroken_join (List.forall_mem_map.2 fun entry hentry => ?_)
    exact unbroken_append (unbroken_append (unbroken_append (by decide) (h.key entry hentry))
      (by decide)) (h.value entry hentry)
  refine unbroken_append (unbroken_append (unbroken_append (unbroken_kind change.kind) hattributes)
    (unbroken_columnCount change.columns)) ?_
  cases change.text with
  | none => decide
  | some body => exact unbroken_append (by decide) (unbroken_collapse body)

theorem unbroken_flags {c : ChangeSet} (h : c.Unbroken) : ∀ flag ∈ flags c, Text.Unbroken flag := by
  have hlist : ∀ {items : List String} {name flag : String}, Text.Unbroken name →
      (∀ item ∈ items, Text.Unbroken item) →
      flag ∈ (if items.isEmpty then [] else [name ++ ",".intercalate items]) → Text.Unbroken flag := by
    intro items name flag hname hitems hflag
    obtain ⟨-, rfl⟩ : items ≠ [] ∧ flag = name ++ ",".intercalate items := by simpa using hflag
    exact unbroken_append hname (unbroken_intercalate (by decide) hitems)
  intro flag hflag
  simp only [flags, List.mem_append] at hflag
  rcases hflag with ((((hflag | hflag) | hflag) | hflag) | hflag) | hflag
  · obtain ⟨-, rfl⟩ : c.runAlways = true ∧ flag = "runAlways" := by simpa using hflag
    decide
  · obtain ⟨-, rfl⟩ : c.runOnChange = true ∧ flag = "runOnChange" := by simpa using hflag
    decide
  · obtain ⟨-, rfl⟩ : c.runInTransaction = false ∧ flag = "runInTransaction=false" := by
      simpa using hflag
    decide
  · split at hflag
    · next context hcontext =>
      obtain rfl := List.mem_singleton.1 hflag
      exact unbroken_append (by decide) (h.context context hcontext)
    · nomatch hflag
  · exact hlist (by decide) h.labels hflag
  · exact hlist (by decide) h.dbms hflag

theorem unbroken_heading {c : ChangeSet} (h : c.Unbroken) : Text.Unbroken (heading c) := by
  unfold heading
  refine unbroken_append ?_ ?_
  · refine unbroken_append (unbroken_append (unbroken_append (unbroken_append (unbroken_append
      (unbroken_append ?_ h.id) ?_) h.author) ?_) h.filePath) ?_ <;> decide
  · split
    · decide
    · exact unbroken_append (unbroken_append (by decide)
        (unbroken_intercalate (by decide) (unbroken_flags h))) (by decide)

theorem unbroken_preconditionsLine (p : Preconditions) : Text.Unbroken (preconditionsLine p) :=
  unbroken_append (unbroken_append (by decide) (unbroken_nat _)) (by decide)

def headLines (c : ChangeSet) : List String :=
  heading c :: (c.comments.toList.map fun comment => "  -- " ++ comment) ++
    c.preconditions.toList.map preconditionsLine

theorem changeSetLines_eq (c : ChangeSet) :
    changeSetLines c = headLines c ++ (c.changes.map fun change => "  " ++ changeLine change) ++
      c.rollback.map fun change => "  rollback " ++ changeLine change := rfl

theorem unbroken_changeSetLines {c : ChangeSet} (h : c.Unbroken) :
    ∀ line ∈ changeSetLines c, Text.Unbroken line := by
  have hcomments : ∀ line ∈ c.comments.toList.map fun comment => "  -- " ++ comment,
      Text.Unbroken line :=
    List.forall_mem_map.2 fun comment hcomment =>
      unbroken_append (by decide) (h.comments comment (Option.mem_toList.1 hcomment))
  have hchanges : ∀ (changes : List Change) (before : String), Text.Unbroken before →
      (∀ change ∈ changes, change.Unbroken) →
      ∀ line ∈ changes.map fun change => before ++ changeLine change, Text.Unbroken line :=
    fun changes before hbefore hall => List.forall_mem_map.2 fun change hchange =>
      unbroken_append hbefore (unbroken_changeLine (hall change hchange))
  have hpreconditions : ∀ line ∈ c.preconditions.toList.map preconditionsLine, Text.Unbroken line :=
    List.forall_mem_map.2 fun p _ => unbroken_preconditionsLine p
  rw [changeSetLines_eq, headLines]
  refine List.forall_mem_append.2 ⟨List.forall_mem_append.2 ⟨?_,
    hchanges c.changes "  " (by decide) h.changes⟩,
    hchanges c.rollback "  rollback " (by decide) h.rollback⟩
  exact List.forall_mem_append.2
    ⟨List.forall_mem_cons.2 ⟨unbroken_heading h, hcomments⟩, hpreconditions⟩

theorem length_changeSetLines (c : ChangeSet) :
    (changeSetLines c).length = 1 + (if c.comments.isSome then 1 else 0) +
      (if c.preconditions.isSome then 1 else 0) + c.changes.length + c.rollback.length := by
  rw [changeSetLines_eq, headLines]
  cases c.comments <;> cases c.preconditions <;> simp <;> omega

/-! ### Documents -/

theorem unbroken_documentLines {d : Document} (h : d.Unbroken) :
    ∀ line ∈ documentLines d, Text.Unbroken line := by
  intro line hline
  simp only [documentLines, List.mem_append, List.mem_cons] at hline
  rcases hline with ((rfl | hline) | hline) | hline
  · exact unbroken_append (by decide) h.physicalPath
  · obtain ⟨-, rfl⟩ : ¬d.logicalPath = d.physicalPath ∧ line = "  logicalFilePath " ++ d.logicalPath := by
      simpa using hline
    exact unbroken_append (by decide) h.logicalPath
  · obtain ⟨p, -, rfl⟩ := List.mem_map.1 hline
    exact unbroken_preconditionsLine p
  · obtain ⟨-, rfl⟩ : d.properties ≠ [] ∧
        line = "  properties: " ++ toString d.properties.length := by
      simpa using hline
    exact unbroken_append (by decide) (unbroken_nat _)

theorem unbroken_lines {d : Document} (h : d.Unbroken) : ∀ line ∈ lines d, Text.Unbroken line := by
  refine List.forall_mem_append.2 ⟨unbroken_documentLines h, fun line hline => ?_⟩
  obtain ⟨c, hc, hline⟩ := List.mem_flatMap.1 hline
  rcases List.mem_cons.1 hline with rfl | hline
  · decide
  · exact unbroken_changeSetLines (h.changeSets c hc) line hline

theorem length_documentLines (d : Document) :
    (documentLines d).length = 1 + (if d.logicalPath = d.physicalPath then 0 else 1) +
      (if d.preconditions.isSome then 1 else 0) + (if d.properties.isEmpty then 0 else 1) := by
  rw [documentLines]
  cases d.preconditions <;> split <;> split <;> simp

theorem length_lines (d : Document) :
    (lines d).length = 1 + (if d.logicalPath = d.physicalPath then 0 else 1) +
      (if d.preconditions.isSome then 1 else 0) + (if d.properties.isEmpty then 0 else 1) +
      (d.changeSets.map fun c => 2 + (if c.comments.isSome then 1 else 0) +
        (if c.preconditions.isSome then 1 else 0) + c.changes.length + c.rollback.length).sum := by
  rw [lines, List.length_append, length_documentLines, List.length_flatMap]
  congr 2
  refine List.map_congr_left fun c _ => ?_
  rw [List.length_cons, length_changeSetLines]
  omega

theorem toList_text (d : Document) :
    (text d).toList = ((lines d).map String.toList).flatMap (· ++ ['\n']) := by
  rw [text, String.toList_join, List.flatMap_map, List.flatMap_map]
  simp

/-- Where what is shown as it is does not go over a line, the outline has a line for each item: so many line
feeds, the last of them at its end, and between them the lines of the document, and of each change set an
empty one, its own, and one for each change and then for each change of its rollback, in order. -/
theorem text_of_unbroken (d : Document) (h : d.Unbroken) :
    Text.lineEnds (text d).toList =
      1 + (if d.logicalPath = d.physicalPath then 0 else 1) +
        (if d.preconditions.isSome then 1 else 0) + (if d.properties.isEmpty then 0 else 1) +
        (d.changeSets.map fun c => 2 + (if c.comments.isSome then 1 else 0) +
          (if c.preconditions.isSome then 1 else 0) + c.changes.length + c.rollback.length).sum ∧
    (text d).toList.getLast? = some '\n' ∧
    (text d).toList.splitOn '\n' =
      (documentLines d ++ d.changeSets.flatMap (fun c =>
        "" :: (headLines c ++ (c.changes.map fun change => "  " ++ changeLine change) ++
          c.rollback.map fun change => "  rollback " ++ changeLine change)) ++
        [""]).map String.toList := by
  have hlines : ∀ line ∈ (lines d).map String.toList, '\n' ∉ line :=
    List.forall_mem_map.2 (unbroken_lines h)
  rw [toList_text]
  refine ⟨?_, ?_, ?_⟩
  · rw [Text.lineEnds_lines hlines, List.length_map, length_lines]
  · exact Text.getLast?_lines (by simp [lines, documentLines])
  · rw [Text.splitOn_lines hlines, List.map_append]
    rfl

def brokenBodies : Document :=
  { Document.ofPath "main" with
    logicalPath := "db"
    changeSets := [{
      id := "1", author := "a", filePath := "db", runAlways := true, runOnChange := false,
      context := some "test", labels := ["x", "y"], dbms := [], runInTransaction := true,
      failOnError := none, onValidationFail := .halt, quotingStrategy := none,
      comments := some "why", validChecksums := [], preconditions := none,
      changes := [
        .ofSql "select 1\n  from\r\n\tdual\n",
        .ofKind .dropTable (.ofList [("tableName", .string "t"), ("cascadeConstraints", .bool true)])],
      rollback := [.ofSql "\nselect\n2"],
      sqlAdjustments := [] }] }

theorem text_of_unbroken_bodies :
    brokenBodies.Unbroken ∧ Text.lineEnds (text brokenBodies).toList = 8 ∧
    (text brokenBodies).toList.splitOn '\n' =
      ["databaseChangeLog main", "  logicalFilePath db", "",
        "changeSet 1 by a (db) [runAlways context=test labels=x,y]", "  -- why",
        "  sql: select 1 from dual", "  dropTable tableName=t cascadeConstraints=true",
        "  rollback sql: select 2", ""].map String.toList := by
  have hunbroken : brokenBodies.Unbroken := by
    refine ⟨by decide, by decide, List.forall_mem_singleton.2 ?_⟩
    exact {
      id := by decide, author := by decide, filePath := by decide, context := by decide
      labels := by decide, dbms := by decide, comments := by decide
      changes := List.forall_mem_cons.2 ⟨⟨by decide, by decide⟩,
        List.forall_mem_singleton.2 ⟨by decide, by decide⟩⟩
      rollback := List.forall_mem_singleton.2 ⟨by decide, by decide⟩ }
  obtain ⟨hcount, -, hlines⟩ := text_of_unbroken brokenBodies hunbroken
  refine ⟨hunbroken, hcount.trans ?_, hlines.trans ?_⟩
  · decide
  · decide +kernel

end Outline

end Changelog
