import Changelog.Proofs.Resource.FileTree
import Changelog.Proofs.Resource.LexicalKey
import Mathlib.Logic.Function.Iterate

/-!
# Reading below a directory

A path is read if its normal form is among those that lead to files.  In a tree such as a file system has
no path that leads to a file is left out.
-/

namespace Changelog

namespace Path

/-- Every level that a walk goes up is written with two dots and a slash. -/
theorem up_foldl_le (segments : List (List Char)) (w : Walk) :
    3 * (segments.foldl Walk.step w).up ≤ 3 * w.up + (['/'].intercalate segments).length + 1 := by
  have hstep : ∀ (w : Walk) (segment : List Char), 3 * (w.step segment).up ≤ 3 * w.up + segment.length + 1 := by
    intro w segment
    unfold Walk.step
    split
    · omega
    · split
      · next habove =>
        split
        · show 3 * w.up ≤ _
          omega
        · have hlength : segment.length = 2 := congrArg List.length habove
          show 3 * (w.up + 1) ≤ _
          omega
      · show 3 * w.up ≤ _
        omega
  induction segments generalizing w with
  | nil => exact Nat.le_add_right _ 1
  | cons segment rest ih =>
    have hfirst := hstep w segment
    cases rest with
    | nil =>
      rw [List.intercalate_singleton]
      exact hfirst
    | cons next others =>
      have hrest := ih (w.step segment)
      rw [List.intercalate_cons_cons, List.length_append, List.length_append, List.length_singleton]
      rw [List.foldl_cons]
      omega

theorem intercalate_ups (up : Nat) {names : List (List Char)} (h : names ≠ []) :
    ['/'].intercalate (List.replicate up ['.', '.'] ++ names) =
      (List.replicate up ['.', '.', '/']).flatten ++ ['/'].intercalate names := by
  induction up with
  | zero => rfl
  | succ up ih =>
    rw [List.replicate_succ, List.replicate_succ, List.flatten_cons, List.cons_append]
    cases hrest : List.replicate up ['.', '.'] ++ names with
    | nil => exact absurd (List.append_eq_nil_iff.1 hrest).2 h
    | cons segment rest =>
      rw [List.intercalate_cons_cons, ← hrest, ih, List.append_assoc]
      rfl

theorem keyChars_names {names : List (List Char)} (hdown : ∀ name ∈ names, LeadsDown name)
    (hslash : ∀ name ∈ names, ∀ c ∈ name, isSlash c = false) (h : names ≠ []) :
    keyChars (['/'].intercalate names) = ['/'].intercalate names := by
  have hback : '\\' ∉ ['/'].intercalate names :=
    Text.not_mem_intercalate (by decide) fun name hname hmem =>
      (isSlash_eq_false (hslash name hname _ hmem)).2 rfl
  have hsegments : segments (['/'].intercalate names) = names := by
    rw [← splitOn_unify, unify_of_not_mem hback]
    exact List.splitOn_intercalate '/' (fun name hname hmem =>
      (isSlash_eq_false (hslash name hname _ hmem)).1 rfl) h
  have hrooted : isRooted (['/'].intercalate names) = false := by
    obtain ⟨name, rest, rfl⟩ := List.exists_cons_of_ne_nil h
    obtain ⟨c, name, rfl⟩ := List.exists_cons_of_ne_nil (hdown name (List.mem_cons_self ..)).empty
    rw [List.intercalate_cons_cons_left]
    exact hslash _ (List.mem_cons_self ..) c (List.mem_cons_self ..)
  have hwalk : (walk (['/'].intercalate names)).segments = names := by
    rw [walk, hsegments, Walk.foldl_down hdown]
    simp [Walk.segments, Walk.start]
  rw [keyChars_eq, hwalk, rootChars, hrooted]
  rfl

end Path

namespace FileTree

/-- A tree such as a file system has: whatever stands in it stands in a directory, under a plain name. -/
structure Proper (tree : FileTree) : Prop where
  names : ∀ e ∈ tree.entries, ∀ name ∈ e.1, IsName name ∧ '\\' ∉ name.toList
  inside : ∀ e ∈ tree.entries, tree.item? e.1.dropLast = some .directory

/-- Where a lexical walk comes to that begins at a place. -/
def reached (origin : Place) (w : Path.Walk) : Place :=
  List.dropLast^[w.up] origin ++ w.down.reverse.map String.ofList

theorem reached_start (origin : Place) : reached origin .start = origin := by
  simp [reached, Path.Walk.start]

theorem stepTo_reached (origin : Place) (w : Path.Walk) (segment : List Char) :
    stepTo (reached origin w) (String.ofList segment) = reached origin (w.step segment) := by
  obtain ⟨up, down⟩ := w
  have hsame : ∀ other : List Char, String.ofList segment = String.ofList other ↔ segment = other :=
    fun other => by rw [← String.toList_inj, String.toList_ofList, String.toList_ofList]
  have hidle : (String.ofList segment = "" ∨ String.ofList segment = ".") ↔
      (segment = [] ∨ segment = ['.']) := or_congr (hsame []) (hsame ['.'])
  have habove : String.ofList segment = ".." ↔ segment = ['.', '.'] := hsame ['.', '.']
  unfold stepTo Path.Walk.step
  by_cases h : segment = [] ∨ segment = ['.']
  · rw [if_pos (hidle.2 h), if_pos h]
  · rw [if_neg (mt hidle.1 h), if_neg h]
    by_cases h' : segment = ['.', '.']
    · rw [if_pos (habove.2 h'), if_pos h']
      cases down with
      | nil => simp [reached, Function.iterate_succ_apply']
      | cons last back => simp [reached]
    · rw [if_neg (mt habove.1 h'), if_neg h']
      simp [reached]

theorem foldl_reached (origin : Place) (w : Path.Walk) (segments : List (List Char)) :
    (segments.map String.ofList).foldl stepTo (reached origin w) =
      reached origin (segments.foldl Path.Walk.step w) := by
  induction segments generalizing w with
  | nil => rfl
  | cons segment rest ih => rw [List.map_cons, List.foldl_cons, stepTo_reached, ih, List.foldl_cons]

section Walk

variable {tree : FileTree} {place target : Place} {segments : List String}

theorem eq_foldl_of_walk (h : tree.walk place segments = .ok target) :
    target = segments.foldl stepTo place := by
  induction segments generalizing place with
  | nil => exact (Except.ok.inj h).symm
  | cons segment rest ih => exact ih (walk_cons_of_ok h).2.2

theorem exists_item_of_walk (h : tree.walk place segments = .ok target) {item : FileItem}
    (hitem : tree.item? target = some item) : ∃ item, tree.item? place = some item := by
  cases segments with
  | nil =>
    obtain rfl := Except.ok.inj h
    exact ⟨item, hitem⟩
  | cons segment rest => exact ⟨.directory, (walk_cons_of_ok h).1⟩

theorem mem_entries_of_item {item : FileItem} (h : tree.item? place = some item) (hplace : place ≠ []) :
    (place, item) ∈ tree.entries := by
  rw [item?, if_neg hplace] at h
  obtain ⟨before, after, hentries, -⟩ := List.lookup_eq_some_iff.1 h
  rw [hentries]
  exact List.mem_append_right _ (List.mem_cons_self ..)

namespace Proper

variable (hproper : tree.Proper)

include hproper

/-- What is walked through are names of the tree, in which there is no backslash. -/
theorem backslash_not_mem (h : tree.walk place segments = .ok target) {item : FileItem}
    (hitem : tree.item? target = some item) : ∀ segment ∈ segments, '\\' ∉ segment.toList := by
  induction segments generalizing place with
  | nil => nofun
  | cons segment rest ih =>
    obtain ⟨-, -, hrest⟩ := walk_cons_of_ok h
    refine List.forall_mem_cons.2 ⟨?_, ih hrest⟩
    obtain ⟨next, hnext⟩ := exists_item_of_walk hrest hitem
    unfold stepTo at hnext
    split at hnext
    · next hidle => rcases hidle with rfl | rfl <;> decide
    · split at hnext
      · next habove =>
        rw [habove]
        decide
      · have hmem := mem_entries_of_item hnext (by simp)
        exact (hproper.names _ hmem segment (by simp)).2

theorem backslash_not_mem_path {path : String} (h : tree.walk place (FileTree.segments path) = .ok target)
    {item : FileItem} (hitem : tree.item? target = some item) : '\\' ∉ path.toList := by
  have hnone := hproper.backslash_not_mem h hitem
  have hjoined : ['/'].intercalate (path.toList.splitOn '/') = path.toList := List.intercalate_splitOn '/'
  rw [← hjoined]
  refine Text.not_mem_intercalate (by decide) fun segment hsegment hmem => ?_
  exact hnone (String.ofList segment) (List.mem_map_of_mem hsegment) (by simpa using hmem)

theorem directory_dropLast (h : tree.item? place = some .directory) :
    tree.item? place.dropLast = some .directory := by
  by_cases hplace : place = []
  · rw [hplace]
    exact item?_root tree
  · exact hproper.inside _ (mem_entries_of_item h hplace)

theorem directory_iterate (h : tree.item? place = some .directory) (up : Nat) :
    tree.item? (List.dropLast^[up] place) = some .directory := by
  induction up generalizing place with
  | zero => exact h
  | succ up ih => exact ih (hproper.directory_dropLast h)

end Proper

end Walk

theorem length_le_utf8ByteSize (s : List Char) : s.length ≤ (String.ofList s).utf8ByteSize := by
  induction s with
  | nil => exact Nat.zero_le _
  | cons c s ih =>
    have hpos := c.utf8Size_pos
    rw [String.ofList_cons, String.utf8ByteSize_append, String.utf8ByteSize_singleton, List.length_cons]
    omega

theorem mem_keysFrom {files : List Place} {up ups : Nat} {place file : Place} (way : String) (hup : up ≤ ups)
    (hfile : file ∈ files) (hbelow : List.dropLast^[up] place <+: file) :
    way ++ String.ofList (List.replicate up ['.', '.', '/']).flatten ++
        Path.key ("/".intercalate (file.drop (List.dropLast^[up] place).length)) ∈
      keysFrom files ups way place := by
  induction up generalizing ups way place with
  | zero =>
    rw [keysFrom.eq_def]
    refine List.mem_append_left _ (List.mem_map.2 ⟨file, List.mem_filter.2 ⟨hfile, ?_⟩, ?_⟩)
    · exact List.isPrefixOf_iff_prefix.2 hbelow
    · simp
  | succ up ih =>
    obtain ⟨ups, rfl⟩ := Nat.exists_eq_add_of_le' (Nat.lt_of_lt_of_le (Nat.zero_lt_succ up) hup)
    have hrest := ih (way ++ "../") (Nat.le_of_succ_le_succ hup) hbelow
    rw [keysFrom.eq_def]
    refine List.mem_append_right _ ?_
    have hway : way ++ String.ofList (List.replicate (up + 1) ['.', '.', '/']).flatten =
        way ++ "../" ++ String.ofList (List.replicate up ['.', '.', '/']).flatten := by
      rw [List.replicate_succ, List.flatten_cons, String.ofList_append, ← String.append_assoc]
    rw [hway]
    exact hrest

theorem place_of_read {tree : FileTree} {path text : String} (h : tree.read path = .ok text) :
    ∃ target item, tree.place path = .ok target ∧ tree.item? target = some item ∧ item ≠ .directory := by
  obtain ⟨⟨target, item⟩, hfind, htext⟩ := bind_eq_ok h
  obtain ⟨place, hplace, hfound⟩ := bind_eq_ok hfind
  split at hfound
  · next found hitem =>
    obtain ⟨rfl, rfl⟩ := Prod.mk.inj (Except.ok.inj hfound)
    refine ⟨place, found, hplace, hitem, ?_⟩
    rintro rfl
    cases htext
  · cases hfound

theorem utf8ByteSize_le_join (base path : String) :
    path.utf8ByteSize ≤ (join base path).utf8ByteSize := by
  unfold join
  split
  · exact Nat.le_refl _
  · split
    · rw [String.utf8ByteSize_append]
      exact Nat.le_add_left ..
    · rw [String.utf8ByteSize_append]
      exact Nat.le_add_left ..

section Lexical

variable {path : String}

theorem splitOn_of_not_mem (hback : '\\' ∉ path.toList) :
    path.toList.splitOn '/' = Path.segments path.toList := by
  rw [← Path.splitOn_unify, Path.unify_of_not_mem hback]

theorem up_walk_le (hback : '\\' ∉ path.toList) (h : path.utf8ByteSize ≤ longestPath) :
    (Path.walk path.toList).up ≤ longestPath / 3 := by
  have hsegments := splitOn_of_not_mem hback
  have hle := Path.up_foldl_le (Path.segments path.toList) .start
  rw [← hsegments, List.intercalate_splitOn, hsegments] at hle
  have hchars := length_le_utf8ByteSize path.toList
  rw [String.ofList_toList] at hchars
  have hstart : Path.Walk.start.up = 0 := rfl
  rw [Nat.le_div_iff_mul_le (by decide)]
  unfold longestPath at h ⊢
  unfold Path.walk
  omega

theorem eq_reached_of_walk {tree : FileTree} {origin target : Place} (hback : '\\' ∉ path.toList)
    (h : tree.walk origin (segments path) = .ok target) : target = reached origin (Path.walk path.toList) := by
  have hreached := foldl_reached origin .start (Path.segments path.toList)
  rw [reached_start] at hreached
  rw [eq_foldl_of_walk h, segments, splitOn_of_not_mem hback]
  exact hreached

theorem intercalate_map_ofList (names : List (List Char)) :
    "/".intercalate (names.map String.ofList) = String.ofList (['/'].intercalate names) := by
  rw [← String.toList_inj, String.toList_intercalate, String.toList_ofList]
  simp

end Lexical

namespace Proper

variable {tree : FileTree} (hproper : tree.Proper)

include hproper

/-- The key of a path that leads from a directory to a file is among those listed for the directory. -/
theorem key_mem_keysFrom {origin target : Place} {path : String} {item : FileItem}
    (hdirectory : tree.item? origin = some .directory)
    (hwalk : tree.walk origin (segments path) = .ok target) (hitem : tree.item? target = some item)
    (hfile : item ≠ .directory) (hlength : path.utf8ByteSize ≤ longestPath) :
    Path.key path ∈
      keysFrom ((tree.entries.filter fun e => e.2 ≠ .directory).map Prod.fst) (longestPath / 3)
        (String.ofList (Path.rootChars path.toList)) origin := by
  have hback := hproper.backslash_not_mem_path hwalk hitem
  have hup := up_walk_le hback hlength
  have htarget := eq_reached_of_walk hback hwalk
  have hdown : ∀ name ∈ (Path.walk path.toList).down.reverse, Path.LeadsDown name := fun name hname =>
    Path.leadsDown_walk path.toList name (List.mem_reverse.1 hname)
  have hslash : ∀ name ∈ (Path.walk path.toList).down.reverse, ∀ c ∈ name, Path.isSlash c = false :=
    fun name hname => Path.not_isSlash_of_mem_walk (List.mem_append_right _ hname)
  have hkey : Path.key path = String.ofList (Path.rootChars path.toList) ++ String.ofList
      (['/'].intercalate (Path.walk path.toList).segments) := by
    rw [Path.key, Path.keyChars_eq, String.ofList_append]
  rw [hkey]
  generalize Path.walk path.toList = w at hdown hslash hup htarget
  -- The places above a directory are directories, so that the way to a file ends with names.
  have hnames : w.down.reverse ≠ [] := by
    intro hnil
    rw [htarget, reached, hnil, List.map_nil, List.append_nil,
      hproper.directory_iterate hdirectory w.up] at hitem
    exact hfile (Option.some.inj hitem).symm
  have hbelow : List.dropLast^[w.up] origin <+: target := htarget ▸ List.prefix_append _ _
  have hmem : target ∈ (tree.entries.filter fun e => e.2 ≠ .directory).map Prod.fst := by
    have hplace : target ≠ [] := by
      rw [htarget, reached]
      exact List.append_ne_nil_of_right_ne_nil _ (mt List.map_eq_nil_iff.1 hnames)
    have hentry := mem_entries_of_item hitem hplace
    exact List.mem_map_of_mem (List.mem_filter.2 ⟨hentry, by simpa using hfile⟩)
  have hlisted := mem_keysFrom (String.ofList (Path.rootChars path.toList)) hup hmem hbelow
  rw [htarget, reached, List.drop_left, intercalate_map_ofList, Path.key, String.toList_ofList,
    Path.keyChars_names hdown hslash hnames, String.append_assoc, ← String.ofList_append,
    ← Path.intercalate_ups w.up hnames] at hlisted
  exact hlisted

theorem key_mem_readableFrom {base path : String} {target : Place} {item : FileItem}
    (hplace : tree.place (join base path) = .ok target) (hitem : tree.item? target = some item)
    (hfile : item ≠ .directory) : Path.key path ∈ tree.readableFrom base := by
  obtain ⟨hpath, hwalk⟩ := (place_eq_ok_iff ..).1 hplace
  unfold readableFrom
  by_cases hrooted : path.toList.head? = some '/'
  · have hjoin : join base path = path := if_pos (Or.inl hrooted)
    rw [hjoin] at hpath hwalk
    rw [start, if_pos hrooted] at hwalk
    have hkey := hproper.key_mem_keysFrom (item?_root tree) hwalk hitem hfile hpath.length
    have hroot : Path.rootChars path.toList = ['/'] := by
      rw [Path.rootChars, Path.isRooted, hrooted]
      rfl
    rw [hroot] at hkey
    exact List.mem_append_right _ hkey
  · obtain ⟨inside, hinside, hdirectory, hwalk⟩ := walk_of_place_join hrooted hplace
    have hlength := Nat.le_trans (utf8ByteSize_le_join base path) hpath.length
    have hkey := hproper.key_mem_keysFrom hdirectory hwalk hitem hfile hlength
    have hback := hproper.backslash_not_mem_path hwalk hitem
    have hroot : Path.rootChars path.toList = [] := by
      rw [Path.rootChars, if_neg]
      rw [← Path.head?_unify, Path.unify_of_not_mem hback]
      exact hrooted
    rw [hroot] at hkey
    rw [hinside]
    exact List.mem_append_left _ hkey

/-- Below a directory of such a tree a path is read if the tree holds a text at it. -/
theorem read_accessor (base path : String) :
    (tree.accessor base).read path = tree.read (join base path) := by
  show tree.readAmong (tree.readableFrom base) base path = _
  unfold readAmong
  split
  · next text hread =>
    obtain ⟨target, item, hplace, hitem, hfile⟩ := place_of_read hread
    rw [if_pos (hproper.key_mem_readableFrom hplace hitem hfile), hread]
  · next cause hread => rw [hread]

end Proper

example : ((FileTree.mk [(["w"], .directory), (["w", "a"], .text "x")] ["w"]).accessor "").read "../../../w/a" =
    .ok "x" := by
  with_unfolding_all rfl

end FileTree

end Changelog
