import Changelog.Proofs.Build.Reading

namespace Changelog

mutual

def Element.withoutLines : Element → Element
  | ⟨name, attributes, args, children, _⟩ => ⟨name, attributes, args, withoutLines children, 0⟩

def withoutLines : List Element → List Element
  | [] => []
  | child :: rest => child.withoutLines :: withoutLines rest

end

theorem forall₂_of_withoutLines {elements elements' : List Element}
    (h : withoutLines elements = withoutLines elements') :
    List.Forall₂ (fun e e' => e.withoutLines = e'.withoutLines) elements elements' := by
  induction elements generalizing elements' with
  | nil =>
    cases elements' with
    | nil => exact .nil
    | cons e' rest' => nomatch h
  | cons e rest ih =>
    cases elements' with
    | nil => nomatch h
    | cons e' rest' =>
      rw [withoutLines, withoutLines] at h
      obtain ⟨hhead, htail⟩ := List.cons.inj h
      exact .cons hhead (ih htail)

namespace Build

variable {own other : Expander}

mutual

theorem sameReading_of_lines (htext : own.text = other.text) (e e' : Element)
    (h : e.withoutLines = e'.withoutLines) : SameReading own other e e' := by
  obtain ⟨name, a, args, children, line⟩ := e
  obtain ⟨name', b, args', children', line'⟩ := e'
  rw [Element.withoutLines, Element.withoutLines] at h
  obtain ⟨rfl, rfl, rfl, hchildren, -⟩ := Element.mk.inj h
  refine .mk ?_ (List.forall₂_same.2 fun v _ => ⟨by rw [htext], rfl⟩)
    (sameReadings_of_lines htext children children' (forall₂_of_withoutLines hchildren))
  show a.mapValues (Expansion.mapStrings own.text) = a.mapValues (Expansion.mapStrings other.text)
  rw [htext]

theorem sameReadings_of_lines (htext : own.text = other.text) (elements elements' : List Element)
    (h : List.Forall₂ (fun e e' => e.withoutLines = e'.withoutLines) elements elements') :
    List.Forall₂ (SameReading own other) elements elements' := by
  cases elements with
  | nil =>
    cases h
    exact .nil
  | cons e rest =>
    cases h with
    | @cons _ e' _ rest' hhead htail =>
      exact .cons (sameReading_of_lines htext e e' hhead) (sameReadings_of_lines htext rest rest' htail)

end

theorem changeSetContext_of_lines {e e' : Element} (h : e.withoutLines = e'.withoutLines)
    (document : Document) : changeSetContext document e' = changeSetContext document e := by
  obtain ⟨name, a, args, children, line⟩ := e
  obtain ⟨name', b, args', children', line'⟩ := e'
  rw [Element.withoutLines, Element.withoutLines] at h
  obtain ⟨-, rfl, -⟩ := Element.mk.inj h
  rfl

/-- What is built in one context: the errors of the first result have that context already. -/
theorem Follows.eq {context : String} {α : Type} {x y : Except ChangelogError α}
    (h : Follows context x y) (hself : Follows context x x) : y = x :=
  h.trans hself.symm

theorem changeSet_of_lines {e e' : Element} (htext : own.text = other.text)
    (h : e.withoutLines = e'.withoutLines) (document : Document) :
    changeSet other document e' = changeSet own document e := by
  have hother := changeSet_follows (sameReading_of_lines htext e e' h) document
  rw [changeSetContext_of_lines h] at hother
  exact hother.eq (changeSet_follows (sameReading_of_lines rfl e e rfl) document)

theorem container_of_lines {site site' : Site} {e e' : Element}
    (htext : site.expander.text = site'.expander.text) (hcontext : site'.context = site.context)
    (h : e.withoutLines = e'.withoutLines) : container site' e' = container site e := by
  have hother := container_follows (sameReading_of_lines htext e e' h)
  rw [hcontext] at hother
  exact hother.eq (container_follows (sameReading_of_lines rfl e e rfl))

end Build

end Changelog
