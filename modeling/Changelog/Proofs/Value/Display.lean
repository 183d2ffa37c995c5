import Changelog.Proofs.Property.Expansion
import Changelog.Proofs.Text.Runs
import Changelog.Value.Coercion

namespace Changelog

namespace Decimal

theorem dollar_not_mem_positionalText {digits : List Char} (h : '$' ∉ digits) (pointZero : Bool)
    (exponent : Int) : '$' ∉ positionalText pointZero digits exponent := by
  unfold positionalText
  dsimp only
  split
  · cases pointZero <;> simp [h]
  · split
    · simp [h]
    · have htake : ∀ n, '$' ∉ digits.take n := fun n hmem => h (List.mem_of_mem_take hmem)
      have hdrop : ∀ n, '$' ∉ digits.drop n := fun n hmem => h (List.mem_of_mem_drop hmem)
      simp [htake, hdrop]

end Decimal

namespace Value

theorem dollar_not_mem_number (x : Float) : '$' ∉ (numberStyle.text x).toList := by
  have htext : ∀ d, '$' ∉ numberStyle.decimalText d := fun d =>
    Decimal.dollar_not_mem_positionalText (Text.not_mem_toDigits (by decide) d.digits) _ _
  unfold Decimal.Style.text
  dsimp only
  split
  · decide
  · split
    · split <;> decide
    · rw [String.toList_ofList, List.mem_append, not_or]
      refine ⟨?_, htext _⟩
      split <;> decide

theorem dollar_not_mem_integer (n : Int) : '$' ∉ (toString n).toList := by
  rw [Int.toString_eq_repr, Int.repr_eq_if]
  split
  · exact Text.not_mem_repr (by decide) _
  · rw [String.toList_append, List.mem_append, not_or]
    exact ⟨by decide, Text.not_mem_repr (by decide) _⟩

def isList : Value → Bool
  | .list _ => true
  | _ => false

theorem dollar_not_mem_display {v : Value} (hstring : v.string? = none) (hlist : v.isList = false) :
    '$' ∉ v.display.toList := by
  cases v with
  | null =>
    rw [display]
    decide
  | bool b =>
    rw [display]
    cases b <;> decide
  | int i =>
    rw [display]
    exact dollar_not_mem_integer _
  | float x =>
    rw [display]
    exact dollar_not_mem_number x
  | string s => cases hstring
  | list items => cases hlist

end Value

end Changelog
