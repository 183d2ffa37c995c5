import Changelog.Text.Blank

/-!
# Comma lists

A comma list names its items apart by commas.  White space around an item does not belong to it, and an
item of which nothing is left is none.
-/

namespace Changelog.Text

/-- The items of a comma list: trimmed, and without the empty ones. -/
def commaItems (s : List Char) : List (List Char) :=
  ((s.splitOn ',').map trim).filter (!·.isEmpty)

def splitItems (s : String) : List String := (commaItems s.toList).map String.ofList

theorem ne_nil_of_mem_commaItems {s item : List Char} (h : item ∈ commaItems s) : item ≠ [] := by
  simp only [commaItems, List.mem_filter] at h
  intro hn
  simp [hn] at h

example : splitItems "a, b,,c " = ["a", "b", "c"] := by decide +kernel

end Changelog.Text
