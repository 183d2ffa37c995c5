import Changelog.Proofs.Text.Runs
import Changelog.Resource.Path
import Mathlib.Data.List.Basic

/-!
# Lexical identity of paths

A path is a walk along its segments.  Two paths have one key exactly if both or neither begin with a slash
and their walks end at the same place; the key is a path that walks there with no detour.
-/

namespace Changelog.Path

/-- Where a walk has come to: so many levels above its start, and down from there by names, the last one
first. -/
@[ext] structure Walk where
  up : Nat
  down : List (List Char)
deriving DecidableEq

structure LeadsDown (segment : List Char) : Prop where
  empty : segment ≠ []
  here : segment ≠ ['.']
  above : segment ≠ ['.', '.']

namespace Walk

def start : Walk := ⟨0, []⟩

def step (w : Walk) (segment : List Char) : Walk :=
  if segment = [] ∨ segment = ['.'] then w
  else if segment = ['.', '.'] then
    match w.down with
    | _ :: back => { w with down := back }
    | [] => { w with up := w.up + 1 }
  else { w with down := segment :: w.down }

/-- The segments that lead from the start of a walk to its end with no detour. -/
def segments (w : Walk) : List (List Char) := List.replicate w.up ['.', '.'] ++ w.down.reverse

def LeadsDown (w : Walk) : Prop := ∀ segment ∈ w.down, Path.LeadsDown segment

end Walk

def segments (path : List Char) : List (List Char) := path.splitOnP isSlash

def walk (path : List Char) : Walk := (segments path).foldl Walk.step .start

def isRooted (path : List Char) : Bool := path.head?.any isSlash

namespace Walk

variable {w : Walk} {segment : List Char}

theorem step_of_leadsDown (h : Path.LeadsDown segment) (w : Walk) :
    w.step segment = { w with down := segment :: w.down } := by
  rw [step, if_neg (not_or.2 ⟨h.empty, h.here⟩), if_neg h.above]

theorem LeadsDown.step (h : w.LeadsDown) (segment : List Char) : (w.step segment).LeadsDown := by
  obtain ⟨up, down⟩ := w
  unfold Walk.step
  split
  · exact h
  · next hidle =>
    split
    · cases down with
      | nil => exact h
      | cons last back => exact fun other hother => h other (List.mem_cons_of_mem _ hother)
    · next habove =>
      rw [not_or] at hidle
      exact List.forall_mem_cons.2 ⟨⟨hidle.1, hidle.2, habove⟩, h⟩

theorem path_step (h : w.LeadsDown) (segment : List Char) :
    Path.step w.segments.reverse segment = (w.step segment).segments.reverse := by
  obtain ⟨up, down⟩ := w
  have hwalked : ∀ w : Walk, w.segments.reverse = w.down ++ List.replicate w.up ['.', '.'] := by
    intro w
    rw [segments, List.reverse_append, List.reverse_reverse, List.reverse_replicate]
  rw [hwalked, hwalked]
  unfold Path.step step
  dsimp only
  by_cases hidle : segment = [] ∨ segment = ['.']
  · rw [if_pos hidle, if_pos hidle]
  · rw [if_neg hidle, if_neg hidle]
    by_cases habove : segment = ['.', '.']
    · rw [if_pos habove, if_pos habove]
      cases down with
      | nil =>
        cases up with
        | zero => simp [habove]
        | succ up => simp [List.replicate_succ, habove]
      | cons last back =>
        have hlast : last ≠ ['.', '.'] := (h last (List.mem_cons_self ..)).above
        simp [hlast]
    · rw [if_neg habove, if_neg habove]
      rfl

theorem LeadsDown.foldl (h : w.LeadsDown) (path : List (List Char)) :
    (path.foldl Walk.step w).LeadsDown := by
  induction path generalizing w with
  | nil => exact h
  | cons segment path ih => exact ih (h.step segment)

theorem path_foldl (h : w.LeadsDown) (path : List (List Char)) :
    path.foldl Path.step w.segments.reverse = (path.foldl Walk.step w).segments.reverse := by
  induction path generalizing w with
  | nil => rfl
  | cons segment path ih => rw [List.foldl_cons, List.foldl_cons, path_step h, ih (h.step segment)]

theorem mem_of_mem_down {path : List (List Char)} {name : List Char}
    (h : name ∈ (path.foldl Walk.step w).down) : name ∈ w.down ∨ name ∈ path := by
  induction path generalizing w with
  | nil => exact .inl h
  | cons segment path ih =>
    rw [List.mem_cons]
    rcases ih h with h | h
    · unfold step at h
      split at h
      · exact .inl h
      · split at h
        · split at h
          · next hdown => exact .inl (hdown ▸ List.mem_cons_of_mem _ h)
          · next hdown => exact .inl (hdown ▸ h)
        · rcases List.mem_cons.1 h with rfl | h
          · exact .inr (.inl rfl)
          · exact .inl h
    · exact .inr (.inr h)

/-! ### Walks with no detour -/

theorem foldl_up (up count : Nat) :
    (List.replicate count ['.', '.']).foldl step ⟨up, []⟩ = ⟨up + count, []⟩ := by
  induction count generalizing up with
  | zero => rfl
  | succ count ih =>
    rw [List.replicate_succ, List.foldl_cons]
    show (List.replicate count ['.', '.']).foldl step ⟨up + 1, []⟩ = _
    rw [ih, Nat.add_right_comm, Nat.add_assoc]

theorem foldl_down {names : List (List Char)} (h : ∀ name ∈ names, Path.LeadsDown name) (w : Walk) :
    names.foldl step w = { w with down := names.reverse ++ w.down } := by
  induction names generalizing w with
  | nil => rfl
  | cons name names ih =>
    obtain ⟨hname, hnames⟩ := List.forall_mem_cons.1 h
    rw [List.foldl_cons, step_of_leadsDown hname, ih hnames, List.reverse_cons, List.append_assoc]
    rfl

theorem foldl_segments (h : w.LeadsDown) : w.segments.foldl step .start = w := by
  have hnames : ∀ name ∈ w.down.reverse, Path.LeadsDown name := fun name hname =>
    h name (List.mem_reverse.1 hname)
  rw [segments, List.foldl_append, start, foldl_up, foldl_down hnames, List.reverse_reverse,
    List.append_nil, Nat.zero_add]

end Walk

theorem isSlash_eq_false {c : Char} (h : isSlash c = false) : c ≠ '/' ∧ c ≠ '\\' := by
  simpa [isSlash] using h

theorem not_isSlash_of_mem_segments {path segment : List Char} (h : segment ∈ segments path) :
    ∀ c ∈ segment, isSlash c = false := Text.not_of_mem_splitOnP h

theorem splitOn_unify (path : List Char) : (unify path).splitOn '/' = segments path := by
  induction path with
  | nil => rfl
  | cons c path ih =>
    unfold segments at ih ⊢
    rw [unify, List.map_cons, List.splitOn_cons_eq_if_modifyHead, List.splitOnP_cons_eq_if_modifyHead]
    rw [unify] at ih
    rw [ih]
    by_cases hback : c = '\\'
    · subst hback
      rfl
    · by_cases hslash : c = '/'
      · subst hslash
        rfl
      · simp [hback, hslash, isSlash]

theorem unify_of_not_mem {path : List Char} (h : '\\' ∉ path) : unify path = path := by
  refine (List.map_congr_left fun c hc => ?_).trans (List.map_id path)
  have hback : c ≠ '\\' := fun heq => h (heq ▸ hc)
  exact if_neg hback

theorem head?_unify (path : List Char) : (unify path).head? = some '/' ↔ isRooted path = true := by
  cases path with
  | nil => simp [unify, isRooted]
  | cons c path =>
    by_cases hback : c = '\\'
    · simp [unify, isRooted, isSlash, hback]
    · simp [unify, isRooted, isSlash, hback]

/-! ### Keys -/

theorem leadsDown_walk (path : List Char) : (walk path).LeadsDown :=
  Walk.LeadsDown.foldl (by nofun) _

theorem normalSegments_eq (path : List Char) : normalSegments path = (walk path).segments := by
  rw [normalSegments, splitOn_unify]
  have hstart : ([] : List (List Char)) = Walk.start.segments.reverse := rfl
  rw [hstart, Walk.path_foldl (by nofun), List.reverse_reverse]
  rfl

/-- What stands in a key before its first segment. -/
def rootChars (path : List Char) : List Char := if isRooted path then ['/'] else []

theorem keyChars_eq (path : List Char) :
    keyChars path = rootChars path ++ ['/'].intercalate (walk path).segments := by
  unfold keyChars rootChars
  simp only [head?_unify, normalSegments_eq]
  split <;> rfl

section Segments

variable {path segment : List Char} (h : segment ∈ (walk path).segments)

include h

theorem not_isSlash_of_mem_walk : ∀ c ∈ segment, isSlash c = false := by
  rw [Walk.segments, List.mem_append, List.mem_reverse] at h
  rcases h with h | h
  · obtain rfl := List.eq_of_mem_replicate h
    exact Text.forall_mem_of_all (by decide)
  · rcases Walk.mem_of_mem_down h with h | h
    · nomatch h
    · exact not_isSlash_of_mem_segments h

theorem ne_nil_of_mem_walk : segment ≠ [] := by
  rw [Walk.segments, List.mem_append, List.mem_reverse] at h
  rcases h with h | h
  · obtain rfl := List.eq_of_mem_replicate h
    exact List.cons_ne_nil _ _
  · exact (leadsDown_walk path segment h).empty

end Segments

def afterRoot (path : List Char) : List Char := if isRooted path then path.tail else path

section Keys

variable (path : List Char)

theorem backslash_not_mem_intercalate : '\\' ∉ ['/'].intercalate (walk path).segments := by
  refine Text.not_mem_intercalate (by decide) fun segment hsegment hmem => ?_
  exact (isSlash_eq_false (not_isSlash_of_mem_walk hsegment _ hmem)).2 rfl

theorem backslash_not_mem_keyChars : '\\' ∉ keyChars path := by
  rw [keyChars_eq, List.mem_append, not_or]
  refine ⟨?_, backslash_not_mem_intercalate path⟩
  unfold rootChars
  split <;> decide

theorem isRooted_intercalate : isRooted (['/'].intercalate (walk path).segments) = false := by
  cases hsegments : (walk path).segments with
  | nil => rfl
  | cons segment rest =>
    have hmem : segment ∈ (walk path).segments := hsegments ▸ List.mem_cons_self ..
    cases segment with
    | nil => exact absurd rfl (ne_nil_of_mem_walk hmem)
    | cons c segment =>
      rw [List.intercalate_cons_cons_left]
      exact not_isSlash_of_mem_walk hmem c (List.mem_cons_self ..)

theorem isRooted_keyChars : isRooted (keyChars path) = isRooted path := by
  rw [keyChars_eq, rootChars]
  cases isRooted path with
  | true => rfl
  | false => exact isRooted_intercalate path

theorem afterRoot_keyChars : afterRoot (keyChars path) = ['/'].intercalate (walk path).segments := by
  rw [afterRoot, isRooted_keyChars, keyChars_eq, rootChars]
  cases isRooted path <;> rfl

theorem segments_intercalate (h : (walk path).segments ≠ []) :
    segments (['/'].intercalate (walk path).segments) = (walk path).segments := by
  rw [← splitOn_unify, unify_of_not_mem (backslash_not_mem_intercalate path)]
  refine List.splitOn_intercalate '/' (fun segment hsegment hmem => ?_) h
  exact (isSlash_eq_false (not_isSlash_of_mem_walk hsegment _ hmem)).1 rfl

theorem walk_intercalate : walk (['/'].intercalate (walk path).segments) = walk path := by
  have hwalk := Walk.foldl_segments (leadsDown_walk path)
  by_cases h : (walk path).segments = []
  · rw [h] at hwalk ⊢
    exact hwalk
  · rwa [walk, segments_intercalate path h]

theorem walk_cons_slash : walk ('/' :: path) = walk path := by
  rw [walk, segments, List.splitOnP_cons_eq_if_modifyHead, if_pos (by decide), List.foldl_cons]
  rfl

theorem walk_keyChars : walk (keyChars path) = walk path := by
  rw [keyChars_eq, rootChars]
  cases isRooted path with
  | true => exact (walk_cons_slash _).trans (walk_intercalate path)
  | false => exact walk_intercalate path

end Keys

/-- A path with slashes of one kind and no detour: it goes up first, and then down by names only. -/
structure Direct (path : List Char) : Prop where
  backslash : '\\' ∉ path
  parts : afterRoot path = [] ∨
    ∃ up names, segments (afterRoot path) = List.replicate up ['.', '.'] ++ names ∧
      ∀ name ∈ names, LeadsDown name

theorem direct_keyChars (path : List Char) : Direct (keyChars path) where
  backslash := backslash_not_mem_keyChars path
  parts := by
    rw [afterRoot_keyChars]
    by_cases h : (walk path).segments = []
    · rw [h]
      exact .inl rfl
    · rw [segments_intercalate path h]
      exact .inr ⟨_, _, rfl, fun name hname => leadsDown_walk path name (List.mem_reverse.1 hname)⟩

/-- Two paths have one key exactly if both or neither begin with a slash and they walk to the same place.
A key is the key of itself, and it has no detour. -/
theorem key_eq_iff_walk (p q : String) :
    (key p = key q ↔
      isRooted p.toList = isRooted q.toList ∧ walk p.toList = walk q.toList) ∧
    key (key p) = key p ∧ Direct (key p).toList := by
  have hchars : ∀ s : String, (key s).toList = keyChars s.toList := fun s => String.toList_ofList
  have hequal : ∀ s t : String,
      isRooted s.toList = isRooted t.toList ∧ walk s.toList = walk t.toList → key s = key t := by
    rintro s t ⟨hroot, hwalk⟩
    rw [key, key, keyChars_eq, keyChars_eq, rootChars, rootChars, hroot, hwalk]
  refine ⟨⟨fun h => ?_, hequal p q⟩, ?_, ?_⟩
  · have hkey : keyChars p.toList = keyChars q.toList := by rw [← hchars, ← hchars, h]
    have hroot := congrArg isRooted hkey
    have hwalk := congrArg walk hkey
    rw [isRooted_keyChars, isRooted_keyChars] at hroot
    rw [walk_keyChars, walk_keyChars] at hwalk
    exact ⟨hroot, hwalk⟩
  · apply hequal
    rw [hchars]
    exact ⟨isRooted_keyChars p.toList, walk_keyChars p.toList⟩
  · rw [hchars]
    exact direct_keyChars p.toList

end Changelog.Path
