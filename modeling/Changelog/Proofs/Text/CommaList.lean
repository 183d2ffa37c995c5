import Changelog.Proofs.Value.Names

namespace Changelog.Text

theorem isItem_of_mem_commaItems {s item : List Char} (h : item ∈ commaItems s) :
    IsItem (String.ofList item) := by
  refine isItem_of_mem_splitItems (s := String.ofList s) ?_
  rw [splitItems, String.toList_ofList]
  exact List.mem_map_of_mem h

def joinItems (items : List (List Char)) : String := String.ofList ([','].intercalate items)

theorem commaItems_joinItems {items : List (List Char)}
    (h : ∀ item ∈ items, IsItem (String.ofList item)) : commaItems (joinItems items).toList = items := by
  have hcommaFree : ∀ item ∈ items, ',' ∉ item := by
    intro item hitem
    simpa using (h item hitem).commaFree
  have htrimmed : items.map trim = items := by
    refine (List.map_congr_left fun item hitem => ?_).trans (List.map_id items)
    simpa using (h item hitem).trimmed
  have hsome : items.filter (!·.isEmpty) = items := by
    refine List.filter_eq_self.2 fun item hitem => ?_
    simpa using (h item hitem).nonempty
  cases items with
  | nil => decide
  | cons item rest =>
    rw [joinItems, String.toList_ofList, commaItems,
      List.splitOn_intercalate ',' hcommaFree (List.cons_ne_nil _ _), htrimmed, hsome]

end Changelog.Text
