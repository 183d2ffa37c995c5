import Changelog.Loading
import Changelog.Proofs.Build.Dispatch

/-!
# Positions in a tree of elements

A position in a tree is the way down to it.  What becomes of an element there becomes of the load of the
whole tree, unless some element on the way looks at nothing inside it.
-/

namespace Changelog

/-- An element without one of the elements inside it. -/
structure Surrounding where
  name : String
  attributes : Attributes
  args : List Value
  before : List Element
  after : List Element
  line : Nat

def Surrounding.around (s : Surrounding) (e : Element) : Element where
  name := s.name
  attributes := s.attributes
  args := s.args
  children := s.before ++ e :: s.after
  line := s.line

/-- The elements around a position, the outermost first. -/
abbrev Position := List Surrounding

namespace Position

def fill (position : Position) (e : Element) : Element := position.foldr Surrounding.around e

def names (position : Position) : List String := position.map Surrounding.name

theorem name_fill {e e' : Element} (hname : e'.name = e.name) (position : Position) :
    (position.fill e').name = (position.fill e).name := by
  cases position with
  | nil => exact hname
  | cons s position => rfl

theorem args_fill {e e' : Element} (hargs : e'.args = e.args) (position : Position) :
    (position.fill e').args = (position.fill e).args := by
  cases position with
  | nil => exact hargs
  | cons s position => rfl

end Position

namespace Build

variable {R : ResultRelation} {e e' : Element}

theorem everywhere_around (hR : Lifts R) (h : Everywhere R e e') {s : Surrounding}
    (hs : s.name ∉ blocklessNames) : Everywhere R (s.around e) (s.around e') := by
  have hinside := inside_of_everywhere hR h s.before s.after
  exact everywhere_of_children hR (fun hname => absurd hname hs) fun _ => hinside

theorem everywhere_fill (hR : Lifts R) (h : Everywhere R e e') {position : Position}
    (hposition : ∀ name ∈ position.names, name ∉ blocklessNames) :
    Everywhere R (position.fill e) (position.fill e') := by
  induction position with
  | nil => exact h
  | cons s position ih =>
    have hinner := ih fun name hname => hposition name (List.mem_cons_of_mem _ hname)
    exact everywhere_around hR hinner (hposition s.name (List.mem_cons_self ..))

theorem loadElement_of_everywhere (hR : Lifts R) (h : Everywhere R e e') (hname : e'.name = e.name)
    (hargs : e'.args = e.args) (workspace : Workspace) (path : String) :
    R Document (workspace.loadElement e path) (workspace.loadElement e' path) := by
  unfold Workspace.loadElement
  dsimp only [rootOf]
  rw [hname, hargs]
  split
  · exact hR.error _ _
  · next hroot =>
    split
    · exact hR.error _ _
    · rw [ok_bind, ok_bind]
      exact hR.bind _ (h.root (Classical.not_not.1 hroot) _ _ _ _)

end Build

end Changelog
