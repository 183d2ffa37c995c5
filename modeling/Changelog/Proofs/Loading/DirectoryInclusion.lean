import Changelog.Proofs.Build.Inclusion
import Changelog.Proofs.Loading.Extraction

namespace Changelog

namespace Loading

open Build Workspace

variable {workspace : Workspace} {load : Loader} {progress : Progress}

theorem addDocumentPart_of_includeAll {e : Element} (hname : e.name = "includeAll") :
    addDocumentPart workspace load progress e =
      (includedFiles workspace (progress.site workspace.options.scope) e >>= fun files =>
        files.foldlM (addInclusion load) progress) := by
  rw [addDocumentPart_eq, elementEffect_of_includeAll hname, bind_assoc]
  rfl

theorem foldlM_inclusions {files : List String} (hplain : ∀ file ∈ files, Expansion.Plain file)
    (line : Nat) (progress : Progress) :
    (files.map fun file => inclusionOf file line).foldlM (addDocumentPart workspace load) progress =
      files.foldlM (addInclusion load) progress := by
  induction files generalizing progress with
  | nil => rfl
  | cons file files ih =>
    have hrest := ih fun other hother => hplain other (List.mem_cons_of_mem _ hother)
    rw [List.map_cons, List.foldlM_cons, List.foldlM_cons,
      addDocumentPart_inclusionOf (hplain file (List.mem_cons_self ..))]
    exact congrArg (_ >>= ·) (funext hrest)

/-- A directory with at least one changelog in it is included exactly as if each of its changelogs were
included by itself, in the order of their paths and as often as they are listed: with the same document,
the same bindings, or the same error. -/
theorem addDocumentPart_of_directory {e : Element} {directory : String} {filter : PathFilter}
    {listed files : List String}
    (h : NamesDirectory workspace.filters (progress.site workspace.options.scope) e directory filter)
    (hlisted : workspace.accessor.list directory = .ok listed)
    (hsorted : files.Pairwise (· ≤ ·)) (hperm : files.Perm (surviving workspace filter listed))
    (hsome : files ≠ []) (hplain : ∀ file ∈ files, Expansion.Plain file) (line : Nat) :
    addDocumentPart workspace load progress e =
      (files.map fun file => inclusionOf file line).foldlM (addDocumentPart workspace load) progress := by
  have hsurviving : surviving workspace filter listed ≠ [] := by
    intro hnil
    rw [hnil] at hperm
    exact hsome hperm.eq_nil
  rw [addDocumentPart_of_includeAll h.name, includedFiles_of_namesDirectory h,
    filesIn_of_surviving hlisted hsurviving, ok_bind,
    changelogsOf_eq hsorted hperm, foldlM_inclusions hplain]

def mixedListing : List String :=
  ["d/b.changelog", "d/x.changelog", "d/a.ChangeLog", "d/a.txt", "d/b.changelog"]

def mixedWorkspace : Workspace where
  accessor := MemoryResources.accessor ⟨[], [("d", mixedListing)]⟩
  filters := FilterRegistry.empty.register "noX" (.containing "x" true)

def mixedProgress : Progress where
  table := ⟨[⟨"dir", "d", none, none, none, true, "main"⟩]⟩
  document := .ofPath "main"

def mixedInclusion : Element where
  name := "includeAll"
  attributes := .ofList [("path", .string "$\x7bdir\x7d"), ("resourceFilter", .string "noX")]
  args := []
  children := []
  line := 2

theorem namesDirectory_mixed :
    NamesDirectory mixedWorkspace.filters (mixedProgress.site mixedWorkspace.options.scope) mixedInclusion
      "d" (.containing "x" true) where
  name := rfl
  within := by decide
  args := rfl
  path := by
    with_unfolding_all exact ⟨"d", rfl, rfl⟩
  filter := by
    with_unfolding_all rfl

theorem addDocumentPart_of_directory_mixed :
    surviving mixedWorkspace (.containing "x" true) mixedListing =
      ["d/b.changelog", "d/a.ChangeLog", "d/b.changelog"] ∧
    ∀ load, addDocumentPart mixedWorkspace load mixedProgress mixedInclusion =
      [inclusionOf "d/a.ChangeLog" 2, inclusionOf "d/b.changelog" 2, inclusionOf "d/b.changelog" 2].foldlM
        (addDocumentPart mixedWorkspace load) mixedProgress := by
  have hsurviving : surviving mixedWorkspace (.containing "x" true) mixedListing =
      ["d/b.changelog", "d/a.ChangeLog", "d/b.changelog"] := by
    decide +kernel
  have hlisted : mixedWorkspace.accessor.list "d" = .ok mixedListing := rfl
  have hsorted : ["d/a.ChangeLog", "d/b.changelog", "d/b.changelog"].Pairwise (· ≤ ·) := by
    decide +kernel
  have hperm : ["d/a.ChangeLog", "d/b.changelog", "d/b.changelog"].Perm
      (surviving mixedWorkspace (.containing "x" true) mixedListing) := by
    rw [hsurviving]
    exact List.Perm.swap _ _ _
  have hfree : ∀ file ∈ ["d/a.ChangeLog", "d/b.changelog", "d/b.changelog"], '$' ∉ file.toList := by
    decide
  exact ⟨hsurviving, fun load => addDocumentPart_of_directory namesDirectory_mixed hlisted hsorted hperm
    (List.cons_ne_nil _ _) (fun file hfile => Expansion.plain_of_not_mem (hfree file hfile)) 2⟩

end Loading

end Changelog
