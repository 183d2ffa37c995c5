import Changelog.Resource.FileTree
import Changelog.Proofs.Steps
import Mathlib.Data.List.Basic

/-!
# What changing a tree leaves alone

Setting an item changes one place.  A walk depends only on the directories that it goes through, and the
directories made for a path stand where nothing was.
-/

namespace Changelog.FileTree

theorem item?_root (tree : FileTree) : tree.item? [] = some .directory := if_pos rfl

theorem lookup_put (place : Place) (item : FileItem) (entries : List (Place × FileItem))
    (other : Place) : (put place item entries).lookup other =
      if other = place then some item else entries.lookup other := by
  induction entries with
  | nil =>
    rw [put, List.lookup_cons]
    by_cases h : other = place
    · simp [h]
    · simp [h, beq_eq_false_iff_ne.2 h]
  | cons e rest ih =>
    rw [put]
    by_cases he : e.1 = place
    · rw [if_pos he, List.lookup_cons, List.lookup_cons, he]
      by_cases h : other = place
      · simp [h]
      · simp [h, beq_eq_false_iff_ne.2 h]
    · rw [if_neg he, List.lookup_cons, ih, List.lookup_cons]
      by_cases h : other = place
      · have hne : (other == e.1) = false := beq_eq_false_iff_ne.2 fun heq => he (heq ▸ h)
        simp [h, h ▸ hne]
      · simp [h]

theorem item?_set (tree : FileTree) (place : Place) (item : FileItem) {other : Place}
    (hother : other ≠ []) :
    (tree.set place item).item? other = if other = place then some item else tree.item? other := by
  rw [item?, if_neg hother, item?, if_neg hother]
  exact lookup_put place item tree.entries other

theorem item?_set_of_ne (tree : FileTree) {place : Place} (item : FileItem) {other : Place}
    (h : other ≠ place) : (tree.set place item).item? other = tree.item? other := by
  by_cases hother : other = []
  · rw [hother, item?_root, item?_root]
  · rw [item?_set tree place item hother, if_neg h]

theorem walk_cons_of_ok {tree : FileTree} {place target : Place} {segment : String}
    {rest : List String} (h : tree.walk place (segment :: rest) = .ok target) :
    tree.item? place = some .directory ∧ isTooLong segment = false ∧
      tree.walk (stepTo place segment) rest = .ok target := by
  rw [walk] at h
  split at h
  · next hitem =>
    split at h
    · cases h
    · next hlong => exact ⟨hitem, by simpa using hlong, h⟩
  · cases h
  · cases h

theorem walk_cons {tree : FileTree} {place : Place} {segment : String}
    (hitem : tree.item? place = some .directory) (hlong : isTooLong segment = false)
    (rest : List String) :
    tree.walk place (segment :: rest) = tree.walk (stepTo place segment) rest := by
  rw [walk, hitem]
  exact if_neg (by simp [hlong])

theorem walk_append_of_ok {tree : FileTree} {place target : Place} {front rest : List String}
    (h : tree.walk place (front ++ rest) = .ok target) :
    ∃ middle, tree.walk place front = .ok middle ∧ tree.walk middle rest = .ok target := by
  induction front generalizing place with
  | nil => exact ⟨place, rfl, h⟩
  | cons segment front ih =>
    obtain ⟨hitem, hlong, hwalk⟩ := walk_cons_of_ok h
    obtain ⟨middle, hfront, hrest⟩ := ih hwalk
    exact ⟨middle, (walk_cons hitem hlong front).trans hfront, hrest⟩

theorem walk_append {tree : FileTree} {place middle : Place} {front : List String}
    (h : tree.walk place front = .ok middle) (rest : List String) :
    tree.walk place (front ++ rest) = tree.walk middle rest := by
  induction front generalizing place with
  | nil =>
    obtain rfl : place = middle := Except.ok.inj h
    rfl
  | cons segment front ih =>
    obtain ⟨hitem, hlong, hwalk⟩ := walk_cons_of_ok h
    rw [List.cons_append, walk_cons hitem hlong, ih hwalk]

theorem walk_of_directories {tree other : FileTree}
    (hdirectory : ∀ place, tree.item? place = some .directory → other.item? place = some .directory)
    {place target : Place} {segments : List String} (h : tree.walk place segments = .ok target) :
    other.walk place segments = .ok target := by
  induction segments generalizing place with
  | nil => exact h
  | cons segment rest ih =>
    obtain ⟨hitem, hlong, hwalk⟩ := walk_cons_of_ok h
    rw [walk_cons (hdirectory place hitem) hlong]
    exact ih hwalk

/-! ### Paths -/

/-- A path that the system takes: it is not empty, has no NUL character, and is not too long. -/
structure IsPath (path : String) : Prop where
  nul : '\x00' ∉ path.toList
  nonempty : path ≠ ""
  length : path.utf8ByteSize ≤ longestPath

theorem place_eq_ok_iff (tree : FileTree) (path : String) (target : Place) :
    tree.place path = .ok target ↔
      IsPath path ∧ tree.walk (tree.start path) (segments path) = .ok target := by
  unfold FileTree.place
  constructor
  · intro h
    split at h
    · cases h
    · next hnul =>
      split at h
      · cases h
      · next hempty =>
        split at h
        · cases h
        · next hlength => exact ⟨⟨by simpa using hnul, hempty, by simpa using hlength⟩, h⟩
  · rintro ⟨hpath, hwalk⟩
    rw [if_neg (by simpa using hpath.nul), if_neg hpath.nonempty, if_neg (Nat.not_lt.2 hpath.length), hwalk]

/-- A name that goes one step down. -/
structure IsName (name : String) : Prop where
  slash : '/' ∉ name.toList
  empty : name ≠ ""
  here : name ≠ "."
  above : name ≠ ".."

theorem IsName.stepTo {name : String} (h : IsName name) (place : Place) :
    stepTo place name = place ++ [name] := by
  rw [FileTree.stepTo, if_neg (by simp [h.empty, h.here]), if_neg h.above]

theorem IsName.head? {name : String} (h : IsName name) : name.toList.head? ≠ some '/' := fun hhead =>
  h.slash (List.mem_of_head? hhead)

theorem toList_ne_nil {s : String} (h : s ≠ "") : s.toList ≠ [] := fun hnil =>
  h (String.toList_inj.1 (hnil.trans String.toList_empty.symm))

section Join

variable {base path : String} (hbase : base ≠ "") (hrelative : path.toList.head? ≠ some '/')

include hbase hrelative

theorem toList_join :
    (join base path).toList =
      base.toList ++ (if base.toList.getLast? = some '/' then [] else ['/']) ++ path.toList := by
  rw [join, if_neg (by simp [hrelative, hbase])]
  split
  · rw [String.toList_append, List.append_nil]
  · rw [String.toList_append, String.toList_append]
    rfl

/-- The segments of a path come after those of what it is joined to; a slash at the end there makes none. -/
theorem segments_join :
    ∃ front, segments (join base path) = front ++ segments path ∧
      (segments base = front ∨ segments base = front ++ [""]) := by
  unfold segments
  rw [toList_join hbase hrelative]
  by_cases hlast : base.toList.getLast? = some '/'
  · obtain ⟨init, hinit⟩ : ∃ init, base.toList = init ++ ['/'] := by
      obtain ⟨init, last, hinit⟩ :=
        (List.eq_nil_or_concat' base.toList).resolve_left (toList_ne_nil hbase)
      rw [hinit, List.getLast?_append, List.getLast?_singleton, Option.some_or,
        Option.some.injEq] at hlast
      exact ⟨init, hlast ▸ hinit⟩
    have hempty : [([] : List Char)].map String.ofList = [""] := rfl
    refine ⟨(init.splitOn '/').map String.ofList, ?_, Or.inr ?_⟩
    · rw [if_pos hlast, hinit, List.append_nil, List.append_assoc, List.singleton_append,
        List.splitOn_append_cons_self, List.map_append]
    · rw [hinit, List.splitOn_append_cons_self, List.splitOn_nil, List.map_append, hempty]
  · refine ⟨(base.toList.splitOn '/').map String.ofList, ?_, Or.inl rfl⟩
    rw [if_neg hlast, List.append_assoc, List.singleton_append, List.splitOn_append_cons_self,
      List.map_append]

theorem start_join (tree : FileTree) : tree.start (join base path) = tree.start base := by
  have hhead : (join base path).toList.head? = base.toList.head? := by
    rw [toList_join hbase hrelative, List.append_assoc,
      List.head?_append_of_ne_nil _ (toList_ne_nil hbase)]
  rw [start, start, hhead]

theorem IsPath.of_join (h : IsPath (join base path)) : IsPath base where
  nul hmem := h.nul (by
    rw [toList_join hbase hrelative]
    simp [hmem])
  nonempty := hbase
  length := by
    refine Nat.le_trans ?_ h.length
    rw [join, if_neg (by simp [hrelative, hbase])]
    split
    · rw [String.utf8ByteSize_append]
      omega
    · rw [String.utf8ByteSize_append, String.utf8ByteSize_append]
      omega

end Join

theorem segments_ne_nil (path : String) : segments path ≠ [] := by
  simp [segments]

/-- A relative path is walked from the directory that it is joined to. -/
theorem walk_of_place_join {tree : FileTree} {base path : String} {target : Place}
    (hrelative : path.toList.head? ≠ some '/') (h : tree.place (join base path) = .ok target) :
    ∃ inside, tree.directoryPlace base = .ok inside ∧ tree.item? inside = some .directory ∧
      tree.walk inside (segments path) = .ok target := by
  obtain ⟨hpath, hwalk⟩ := (place_eq_ok_iff ..).1 h
  obtain ⟨segment, rest, hsegments⟩ := List.exists_cons_of_ne_nil (segments_ne_nil path)
  have hdirectory : ∀ {inside}, tree.walk inside (segments path) = .ok target →
      tree.item? inside = some .directory := by
    intro inside hinside
    rw [hsegments] at hinside
    exact (walk_cons_of_ok hinside).1
  by_cases hbase : base = ""
  · have hjoin : join base path = path := if_pos (Or.inr hbase)
    rw [hjoin, start, if_neg hrelative] at hwalk
    exact ⟨tree.working, if_pos hbase, hdirectory hwalk, hwalk⟩
  · obtain ⟨front, hjoin, hfront⟩ := segments_join hbase hrelative
    rw [start_join hbase hrelative, hjoin] at hwalk
    obtain ⟨inside, hinside, hrest⟩ := walk_append_of_ok hwalk
    have hitem := hdirectory hrest
    have hplace : tree.walk (tree.start base) (segments base) = .ok inside := by
      rcases hfront with hfront | hfront
      · rw [hfront, hinside]
      · rw [hfront, walk_append hinside, walk_cons hitem (by decide)]
        rfl
    refine ⟨inside, ?_, hitem, hrest⟩
    rw [directoryPlace, if_neg hbase]
    exact (place_eq_ok_iff ..).2 ⟨hpath.of_join hbase hrelative, hplace⟩

/-- A file named below a path stands right inside the directory at the path. -/
theorem place_join {tree : FileTree} {base name : String} {target : Place} (hname : IsName name)
    (h : tree.place (join base name) = .ok target) :
    ∃ inside, tree.directoryPlace base = .ok inside ∧ tree.item? inside = some .directory ∧
      target = inside ++ [name] := by
  obtain ⟨inside, hinside, hitem, hwalk⟩ := walk_of_place_join hname.head? h
  have hsegments : segments name = [name] := by
    rw [segments, List.splitOn_eq_singleton hname.slash]
    simp
  rw [hsegments] at hwalk
  obtain ⟨-, -, hend⟩ := walk_cons_of_ok hwalk
  rw [hname.stepTo] at hend
  exact ⟨inside, hinside, hitem, (Except.ok.inj hend).symm⟩

theorem directoryPlace_of_directories {tree other : FileTree} {path : String} {place : Place}
    (h : tree.directoryPlace path = .ok place) (hworking : other.working = tree.working)
    (hdirectory : ∀ place, tree.item? place = some .directory → other.item? place = some .directory) :
    other.directoryPlace path = .ok place := by
  unfold directoryPlace at h ⊢
  split
  · next hpath =>
    rw [if_pos hpath] at h
    rw [hworking, h]
  · next hpath =>
    rw [if_neg hpath] at h
    obtain ⟨hvalid, hwalk⟩ := (place_eq_ok_iff ..).1 h
    have hstart : other.start path = tree.start path := by rw [start, start, hworking]
    refine (place_eq_ok_iff ..).2 ⟨hvalid, ?_⟩
    rw [hstart, walk_of_directories hdirectory hwalk]

/-! ### Making directories -/

/-- Nothing is changed, and what is new are directories. -/
structure Grown (before after : FileTree) : Prop where
  item : ∀ place, after.item? place = before.item? place ∨
    (before.item? place = none ∧ after.item? place = some .directory)
  working : after.working = before.working

namespace Grown

theorem refl (tree : FileTree) : Grown tree tree := ⟨fun _ => Or.inl rfl, rfl⟩

theorem trans {first second third : FileTree} (h : Grown first second) (h' : Grown second third) :
    Grown first third where
  item place := by
    rcases h'.item place with hsame | ⟨hnone, hnew⟩
    · rw [hsame]
      exact h.item place
    · rcases h.item place with hsame | ⟨-, hsome⟩
      · exact Or.inr ⟨hsame ▸ hnone, hnew⟩
      · exact absurd (hsome.symm.trans hnone) (by simp)
  working := h'.working.trans h.working

theorem set_directory {tree : FileTree} {place : Place} (h : tree.item? place = none) :
    Grown tree (tree.set place .directory) where
  item other := by
    by_cases hother : other = place
    · have hsome : place ≠ [] := fun hnil => by
        rw [hnil, item?_root] at h
        cases h
      rw [hother, item?_set tree place .directory hsome, if_pos rfl]
      exact Or.inr ⟨h, rfl⟩
    · exact Or.inl (item?_set_of_ne _ .directory hother)
  working := rfl

end Grown

theorem grown_makeWay {tree after : FileTree} {place target : Place} {segments : List String}
    (h : tree.makeWay place segments = .ok (after, target)) : Grown tree after := by
  induction segments generalizing tree place with
  | nil =>
    cases h
    exact Grown.refl _
  | cons segment rest ih =>
    rw [makeWay] at h
    split at h
    · exact ih h
    · cases h
    · next hnone =>
      split at h
      · cases h
      · exact (Grown.set_directory hnone).trans (ih h)

theorem grown_makeDirectory {tree after : FileTree} {path : String}
    (h : tree.makeDirectory path = .ok after) : Grown tree after := by
  unfold makeDirectory at h
  split at h
  · cases h
  · split at h
    · cases h
      exact Grown.refl tree
    · split at h
      · cases h
      · obtain ⟨made, hway, rfl⟩ := map_eq_ok h
        exact grown_makeWay hway

/-- Writing a file below a path changes that file only. -/
theorem write_join {tree after : FileTree} {base name content : String} (hname : IsName name)
    (h : tree.write (join base name) content = .ok after) :
    ∃ inside, after.directoryPlace base = .ok inside ∧
      after.item? (inside ++ [name]) = some (.text content) ∧
      (∀ other, other ≠ inside ++ [name] → after.item? other = tree.item? other) ∧
      after.working = tree.working := by
  obtain ⟨target, hplace, hwrite⟩ := bind_eq_ok h
  split at hwrite
  · cases hwrite
  · next hitem =>
    obtain rfl : tree.set target (.text content) = after := Except.ok.inj hwrite
    obtain ⟨inside, hinside, -, rfl⟩ := place_join hname hplace
    have hdirectory : ∀ place, tree.item? place = some .directory →
        (tree.set (inside ++ [name]) (.text content)).item? place = some .directory := by
      intro place hdirectory
      have hne : place ≠ inside ++ [name] := fun heq => hitem (heq ▸ hdirectory)
      rw [item?_set_of_ne tree _ hne, hdirectory]
    have hafter : (tree.set (inside ++ [name]) (.text content)).directoryPlace base = .ok inside :=
      directoryPlace_of_directories hinside rfl hdirectory
    refine ⟨inside, hafter, ?_, ?_, rfl⟩
    · rw [item?_set tree _ _ (by simp), if_pos rfl]
    · intro other hother
      exact item?_set_of_ne tree _ hother

end Changelog.FileTree
