import Changelog.Proofs.Document.Writing
import Changelog.Proofs.Text.Runs
import Changelog.Value.Coercion
import Mathlib.Data.List.DropRight

namespace Changelog

namespace Text

theorem isPrefix_trimEnd (s : List Char) : trimEnd s <+: s := List.rdropWhile_prefix isBlank s

theorem trim_sublist (s : List Char) : (trim s).Sublist s :=
  (isPrefix_trimEnd (trimStart s)).sublist.trans (List.dropWhile_sublist isBlank)

/-- What begins a text that is trimmed at its start begins it still once its end is trimmed too. -/
theorem trimStart_trim (s : List Char) : trimStart (trim s) = trim s := by
  obtain ⟨rest, hrest⟩ := isPrefix_trimEnd (trimStart s)
  cases htrim : trim s with
  | nil => rfl
  | cons c more =>
    have hhead : (trimStart s).head? = some c := by
      rw [← hrest]
      show (trim s ++ rest).head? = some c
      rw [htrim]
      rfl
    have hblank := List.head?_dropWhile_not isBlank s
    have hc : isBlank c = false := by
      rw [trimStart] at hhead
      rw [hhead] at hblank
      exact hblank
    rw [trimStart, List.dropWhile_cons_of_neg (by simp [hc])]

theorem trim_trim (s : List Char) : trim (trim s) = trim s := by
  rw [trim, trimStart_trim, trim]
  exact List.rdropWhile_idempotent isBlank _

theorem not_mem_of_mem_splitOn {a : Char} {s piece : List Char} (h : piece ∈ s.splitOn a) :
    a ∉ piece := by
  rw [List.splitOn_eq_splitOnP] at h
  intro hmem
  simpa using not_of_mem_splitOnP h a hmem

theorem isItem_of_mem_splitItems {s item : String} (h : item ∈ splitItems s) : IsItem item := by
  obtain ⟨chars, hchars, rfl⟩ := List.mem_map.1 h
  have hne : chars ≠ [] := ne_nil_of_mem_commaItems hchars
  obtain ⟨piece, hpiece, rfl⟩ := List.mem_map.1 (List.mem_filter.1 hchars).1
  have hcomma : ',' ∉ trim piece := fun hmem =>
    not_mem_of_mem_splitOn hpiece ((trim_sublist piece).subset hmem)
  exact ⟨by rw [String.toList_ofList, trim_trim], by rwa [String.toList_ofList],
    by rwa [String.toList_ofList]⟩

end Text

namespace Value

mutual

theorem isItem_of_mem_names {v : Value} {name : String} (h : name ∈ v.names) : IsItem name := by
  cases v with
  | null => nomatch h
  | bool b => exact Text.isItem_of_mem_splitItems h
  | int i => exact Text.isItem_of_mem_splitItems h
  | float x => exact Text.isItem_of_mem_splitItems h
  | string s => exact Text.isItem_of_mem_splitItems h
  | list items => exact isItem_of_mem_namesAll h

theorem isItem_of_mem_namesAll {items : List Value} {name : String} (h : name ∈ namesAll items) :
    IsItem name := by
  cases items with
  | nil => nomatch h
  | cons v rest =>
    rcases List.mem_append.1 h with h | h
    · exact isItem_of_mem_names h
    · exact isItem_of_mem_namesAll h

end

end Value

end Changelog
