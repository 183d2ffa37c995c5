import Changelog.Proofs.Loading.Simulation
import Changelog.Resource.Memory
import Mathlib.Data.List.Nodup
import Mathlib.Data.List.Perm.Subperm

/-!
# Nested inclusion

At every moment of a load the stack holds the documents that are being built, no two of which lie at the
same place.  A file is refused only inside itself, and a load comes to an end.
-/

namespace Changelog.Loading

open Build Workspace

/-- The documents that wait for an included one, the outermost first. -/
def Moment.callers (m : Moment) : List String :=
  (m.waiting.map fun frame => frame.document.physicalPath).reverse

def Readable (workspace : Workspace) (path : String) : Prop :=
  ∃ text, workspace.accessor.read path = .ok text

/-- What stands on the stack above the waiting documents: the path that is read, built or left, which
could be read once it is built. -/
def Task.OnTop (workspace : Workspace) : Task → List String → Prop
  | .enter _, top => top = []
  | .read path, top => top = [path]
  | .build frame, top =>
    top = [frame.document.physicalPath] ∧ Readable workspace frame.document.physicalPath
  | .leave _, top => ∃ path, top = [path]
  | .resume _, top => top = []

structure Sound (workspace : Workspace) (m : Moment) : Prop where
  distinct : (m.stack.map Path.key).Nodup
  readable : ∀ path ∈ m.callers, Readable workspace path
  top : ∃ top, m.stack = m.callers ++ top ∧ m.task.OnTop workspace top

section Steps

variable {workspace : Workspace} {m n : Moment}

theorem callers_cons (table : PropertyTable) (stack : List String) (frame : Frame)
    (waiting : List Frame) (task : Task) :
    (Moment.mk table stack (frame :: waiting) task).callers =
      (waiting.map fun f => f.document.physicalPath).reverse ++ [frame.document.physicalPath] :=
  List.reverse_cons

theorem nodup_push {stack : List String} {path : String} (h : (stack.map Path.key).Nodup)
    (hopen : ¬isOpen stack path) : ((stack ++ [path]).map Path.key).Nodup := by
  rw [List.map_append, List.map_singleton]
  refine List.nodup_append.2 ⟨h, List.pairwise_singleton _ _, ?_⟩
  intro key hkey other hother heq
  rw [List.mem_singleton] at hother
  subst hother heq
  exact hopen hkey

theorem sound_start (workspace : Workspace) (path : String) : Sound workspace (.start path) where
  distinct := List.nodup_nil
  readable := by nofun
  top := ⟨[], rfl, rfl⟩

theorem sound_step (h : Sound workspace m) (hstep : step workspace m = some n) : Sound workspace n := by
  obtain ⟨table, stack, waiting, task⟩ := m
  obtain ⟨hdistinct, hreadable, top, hstack, htop⟩ := h
  simp only at hdistinct hstack htop
  -- What stands above the waiting documents is the path in hand: entering pushes it, leaving pops it.
  cases task with
  | enter path =>
    obtain rfl : top = [] := htop
    rw [List.append_nil] at hstack
    simp only [step] at hstep
    split at hstep
    · cases hstep
      exact ⟨hdistinct, hreadable, [], hstack.trans (List.append_nil _).symm, rfl⟩
    · next hopen =>
      cases hstep
      exact ⟨nodup_push hdistinct hopen, hreadable, [path], congrArg (· ++ [path]) hstack, rfl⟩
  | read path =>
    obtain rfl : top = [path] := htop
    simp only [step] at hstep
    split at hstep
    · cases hstep
      exact ⟨hdistinct, hreadable, [path], hstack, path, rfl⟩
    · next source hread =>
      split at hstep
      · cases hstep
        exact ⟨hdistinct, hreadable, [path], hstack, path, rfl⟩
      · next frame hopen =>
        cases hstep
        have hpath := openDocument_physicalPath hopen
        exact ⟨hdistinct, hreadable, [path], hstack, by rw [hpath], source, by rw [hpath]; exact hread⟩
  | build frame =>
    obtain ⟨document, elements, files⟩ := frame
    obtain ⟨rfl, hread⟩ := htop
    cases files with
    | cons file files =>
      cases hstep
      -- The document joins those that wait, so its own path counts among the callers from here on.
      refine ⟨hdistinct, ?_, [], ?_, rfl⟩
      · rw [callers_cons]
        intro path hpath
        rcases List.mem_append.1 hpath with hpath | hpath
        · exact hreadable path hpath
        · exact List.mem_singleton.1 hpath ▸ hread
      · rw [callers_cons, List.append_nil]
        exact hstack
    | nil =>
      cases elements with
      | nil =>
        cases hstep
        exact ⟨hdistinct, hreadable, _, hstack, _, rfl⟩
      | cons e elements =>
        simp only [step] at hstep
        split at hstep
        · cases hstep
          exact ⟨hdistinct, hreadable, _, hstack, _, rfl⟩
        · next progress files heffect =>
          cases hstep
          have hpath := elementEffect_physicalPath heffect
          exact ⟨hdistinct, hreadable, _, hstack, by rw [hpath], hpath ▸ hread⟩
  | leave result =>
    obtain ⟨path, rfl⟩ := htop
    cases hstep
    have hleft := congrArg List.dropLast hstack
    rw [List.dropLast_concat] at hleft
    refine ⟨?_, hreadable, [], ?_, rfl⟩
    · rw [List.map_dropLast]
      exact hdistinct.sublist (List.dropLast_sublist _)
    · rw [List.append_nil]
      exact hleft
  | resume result =>
    obtain rfl : top = [] := htop
    rw [List.append_nil] at hstack
    cases waiting with
    | nil => cases hstep
    | cons frame waiting =>
      rw [callers_cons] at hstack hreadable
      have hwaiting : ∀ path ∈ (waiting.map fun f => f.document.physicalPath).reverse,
          Readable workspace path := fun path hpath => hreadable path (List.mem_append_left _ hpath)
      have hframe : Readable workspace frame.document.physicalPath :=
        hreadable _ (List.mem_append_right _ (List.mem_singleton.2 rfl))
      cases result with
      | error e =>
        cases hstep
        exact ⟨hdistinct, hwaiting, _, hstack, _, rfl⟩
      | ok included =>
        cases hstep
        exact ⟨hdistinct, hwaiting, _, hstack, rfl, hframe⟩

theorem sound_of_reaches (h : Sound workspace m) (hreach : Reaches workspace m n) :
    Sound workspace n := by
  induction hreach with
  | refl => exact h
  | tail _ hstep ih => exact sound_step ih hstep

end Steps

/-! ### Depth -/

section Depth

variable {workspace : Workspace} {m : Moment}

theorem callers_nodup (h : Sound workspace m) : m.callers.Nodup := by
  obtain ⟨top, hstack, -⟩ := h.top
  have hkeys := h.distinct
  rw [hstack, List.map_append] at hkeys
  exact List.Nodup.of_map Path.key (List.nodup_append.1 hkeys).1

theorem top_length {task : Task} {top : List String} (h : task.OnTop workspace top) :
    top.length ≤ 1 := by
  cases task with
  | enter path =>
    obtain rfl : top = [] := h
    exact Nat.zero_le 1
  | read path =>
    obtain rfl : top = [path] := h
    exact Nat.le_refl 1
  | build frame =>
    obtain ⟨rfl, -⟩ := h
    exact Nat.le_refl 1
  | leave result =>
    obtain ⟨path, rfl⟩ := h
    exact Nat.le_refl 1
  | resume result =>
    obtain rfl : top = [] := h
    exact Nat.zero_le 1

theorem stack_length_le (h : Sound workspace m) {paths : List String}
    (hpaths : ∀ path text, workspace.accessor.read path = .ok text → path ∈ paths) :
    m.stack.length ≤ paths.length + 1 := by
  have hnodup := callers_nodup h
  have hsubset : m.callers ⊆ paths := by
    intro path hpath
    obtain ⟨text, hread⟩ := h.readable path hpath
    exact hpaths path text hread
  have hcallers : m.callers.length ≤ paths.length := (hnodup.subperm hsubset).length_le
  obtain ⟨top, hstack, htop⟩ := h.top
  have hone := top_length htop
  rw [hstack, List.length_append]
  omega

end Depth

/-! ### Every moment of a load -/

/-- At every moment of a load no two paths on the stack have one key, and at most one more is open than
can be read.  The elements of a document leave the stack as it was, whatever they include.  A path that is
entered is refused exactly if it has the key of a document that waits for it, and then with the stack and
itself as the chain; what comes of it is handed over with the stack as it was.  The load ends with the
document or the error that `load` gives. -/
theorem stack_of_reaches (workspace : Workspace) {paths : List String}
    (hpaths : ∀ path text, workspace.accessor.read path = .ok text → path ∈ paths) (start : String) :
    (∀ m, Reaches workspace (.start start) m →
      (m.stack.map Path.key).Nodup ∧
      m.stack.length ≤ paths.length + 1 ∧
      (∀ document before after p, m.task = .build ⟨document, before ++ after, []⟩ →
        before.foldlM (addDocumentPart workspace (workspace.loadFile m.stack)) ⟨m.table, document⟩ =
          .ok p →
        Reaches workspace m { m with table := p.table, task := .build ⟨p.document, after, []⟩ }) ∧
      ∀ path, m.task = .enter path →
        m.stack = m.callers ∧
        (if Path.key path ∈ m.stack.map Path.key then
          step workspace m =
            some { m with task := .resume (.error (.circularInclude path (m.stack ++ [path]))) }
        else step workspace m = some { m with stack := m.stack ++ [path], task := .read path }) ∧
        ∃ table result, Reaches workspace m { m with table := table, task := .resume result } ∧
          (workspace.loadFile m.stack m.table path).map Progress.document = result) ∧
    ∃ table result, Reaches workspace (.start start) ⟨table, [], [], .resume result⟩ ∧
      step workspace ⟨table, [], [], .resume result⟩ = none ∧
      workspace.load start = result.map fun d => { d with properties := table.bindings } := by
  refine ⟨fun m hreach => ?_, ?_⟩
  · have hsound := sound_of_reaches (sound_start workspace start) hreach
    refine ⟨hsound.distinct, stack_length_le hsound hpaths, ?_, ?_⟩
    · rintro document before after p htask hbefore
      obtain ⟨table, stack, waiting, task⟩ := m
      obtain rfl : task = _ := htask
      have hleads := leads_before (loadsUnder_loadFile workspace stack) waiting before after table
        document
      rw [hbefore] at hleads
      exact hleads
    · rintro path htask
      obtain ⟨table, stack, waiting, task⟩ := m
      obtain rfl : task = _ := htask
      refine ⟨?_, ?_, ?_⟩
      · obtain ⟨top, hstack, htop⟩ := hsound.top
        obtain rfl : top = [] := htop
        exact hstack.trans (List.append_nil _)
      · split
        · next hkey => exact if_pos hkey
        · next hkey => exact if_neg hkey
      · obtain ⟨last, result, hresult, heq, -⟩ :=
          reaches_result workspace stack table waiting path
        exact ⟨last, result, hresult, heq⟩
  -- The whole load is the load of the first file, for which nothing waits.
  · obtain ⟨table, result, hresult, rfl, htable⟩ := reaches_result workspace [] .empty [] start
    refine ⟨table, _, hresult, rfl, ?_⟩
    rw [load]
    cases hfile : workspace.loadFile [] .empty start with
    | error e => rfl
    | ok p =>
      obtain rfl := htable p hfile
      rfl

/-- Two files that include each other, one of them by another spelling of its path. -/
def mutualWorkspace : Workspace where
  accessor := MemoryResources.accessor {
    texts := [
      ("a.changelog", some "databaseChangeLog \x7b include(file: 'b.changelog') \x7d"),
      ("b.changelog", some "databaseChangeLog \x7b include(file: './a.changelog') \x7d")]
    listings := [] }

theorem stack_of_reaches_mutual :
    (∀ path text, mutualWorkspace.accessor.read path = .ok text →
      path ∈ ["a.changelog", "b.changelog"]) ∧
    ∀ m, Reaches mutualWorkspace (.start "a.changelog") m →
      (m.stack.map Path.key).Nodup ∧ m.stack.length ≤ 3 := by
  have hpaths : ∀ path text, mutualWorkspace.accessor.read path = .ok text →
      path ∈ ["a.changelog", "b.changelog"] := fun path text hread =>
    MemoryResources.mem_texts_of_read hread
  refine ⟨hpaths, fun m hreach => ?_⟩
  have hmoment := (stack_of_reaches mutualWorkspace hpaths "a.changelog").1 m hreach
  exact ⟨hmoment.1, hmoment.2.1⟩

end Changelog.Loading
