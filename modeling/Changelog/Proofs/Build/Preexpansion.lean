import Changelog.Proofs.Build.Reading
import Changelog.Proofs.Value.Display

/-!
# Expansion as a pass

Expanding all strings of a change set first and then building it without bindings gives what building it
with the bindings gives.  So every text of a change set is expanded, and none is expanded twice.
-/

namespace Changelog

namespace Expander

def cleared (e : Expander) : Expander := { e with table := .empty }

mutual

def element (e : Expander) : Element → Element
  | ⟨name, attributes, args, children, line⟩ =>
    ⟨name, e.attributes attributes, args.map e.value, elements e children, line⟩

def elements (e : Expander) : List Element → List Element
  | [] => []
  | child :: rest => element e child :: elements e rest

end

end Expander

mutual

/-- Whether no positional value in a tree is a list. -/
def Element.hasPlainArgs : Element → Bool
  | ⟨_, _, args, children, _⟩ => args.all (fun v => !v.isList) && havePlainArgs children

def havePlainArgs : List Element → Bool
  | [] => true
  | child :: rest => child.hasPlainArgs && havePlainArgs rest

end

namespace Build

section Expanded

variable (expander : Expander)

theorem sameText_expanded {v : Value} (h : v.isList = false) :
    SameText expander expander.cleared v (expander.value v) := by
  have hclear : ∀ s, expander.cleared.text s = s := Expander.text_of_empty rfl
  have hword : v.string? = none →
      some (expander.text v.display) = some (expander.cleared.text v.display) := by
    intro hstring
    rw [hclear]
    exact congrArg some (Expansion.expandText_of_not_mem (Value.dollar_not_mem_display hstring h))
  cases v with
  | string s =>
    refine ⟨?_, rfl⟩
    show some (expander.text s) = some (expander.cleared.text (expander.text s))
    rw [hclear]
  | list items => nomatch h
  | null => exact ⟨rfl, rfl⟩
  | bool b => exact ⟨hword rfl, rfl⟩
  | int i => exact ⟨hword rfl, rfl⟩
  | float x => exact ⟨hword rfl, rfl⟩

theorem sameText_expandedArgs {args : List Value} (h : ∀ v ∈ args, v.isList = false) :
    List.Forall₂ (SameText expander expander.cleared) args (args.map expander.value) := by
  rw [List.forall₂_map_right_iff, List.forall₂_same]
  exact fun v hv => sameText_expanded expander (h v hv)

mutual

theorem sameReading_expanded (e : Element) (h : e.hasPlainArgs = true) :
    SameReading expander expander.cleared e (expander.element e) := by
  obtain ⟨name, attributes, args, children, line⟩ := e
  rw [Element.hasPlainArgs, Bool.and_eq_true, List.all_eq_true] at h
  rw [Expander.element]
  refine .mk ?_ (sameText_expandedArgs expander fun v hv => by simpa using h.1 v hv)
    (sameReadings_expanded children h.2)
  exact (Expander.attributes_of_empty rfl _).symm

theorem sameReadings_expanded (elements : List Element) (h : havePlainArgs elements = true) :
    List.Forall₂ (SameReading expander expander.cleared) elements (expander.elements elements) := by
  cases elements with
  | nil => exact .nil
  | cons e rest =>
    rw [havePlainArgs, Bool.and_eq_true] at h
    rw [Expander.elements]
    exact .cons (sameReading_expanded e h.1) (sameReadings_expanded rest h.2)

end

end Expanded

/-- The change set of an expanded element, built without bindings, is the one that the element makes with
the bindings; an error is the same but for its context, which names the id as it is written. -/
theorem changeSet_expanded (expander : Expander) (document : Document) {e : Element}
    (h : e.hasPlainArgs = true) :
    changeSet expander.cleared document (expander.element e) =
      (changeSet expander document e).mapError
        (ChangelogError.inContext (changeSetContext document (expander.element e))) :=
  changeSet_follows (sameReading_expanded expander e h) document

/-- A name that stands for the token of another one. -/
def chainedExpander : Expander where
  table := ⟨[
    ⟨"a", "$\x7bb\x7d", none, none, none, true, "main"⟩,
    ⟨"b", "x", none, none, none, true, "main"⟩]⟩
  document := "main"
  scope := .any

def tokenElement : Element where
  name := "changeSet"
  attributes := .ofList [("id", .string "$\x7ba\x7d")]
  args := []
  children := [
    { name := "sql", attributes := .empty, args := [.string "$\x7ba\x7d"], children := [], line := 2 }]
  line := 1

theorem changeSet_expanded_chained :
    tokenElement.hasPlainArgs = true ∧
      ∃ c, changeSet chainedExpander (.ofPath "main") tokenElement = .ok c ∧
        changeSet chainedExpander.cleared (.ofPath "main") (chainedExpander.element tokenElement) =
          .ok c ∧
        c.id = "$\x7bb\x7d" ∧ c.changes.map Change.text = [some "$\x7bb\x7d"] := by
  have hplain : tokenElement.hasPlainArgs = true := by decide
  have hbuilt : ∃ c, changeSet chainedExpander (.ofPath "main") tokenElement = .ok c ∧
      c.id = "$\x7bb\x7d" ∧ c.changes.map Change.text = [some "$\x7bb\x7d"] := by
    with_unfolding_all exact ⟨_, rfl, rfl, rfl⟩
  obtain ⟨c, hc, hid, htexts⟩ := hbuilt
  refine ⟨hplain, c, hc, ?_, hid, htexts⟩
  rw [changeSet_expanded chainedExpander (.ofPath "main") hplain, hc]
  rfl

end Build

end Changelog
