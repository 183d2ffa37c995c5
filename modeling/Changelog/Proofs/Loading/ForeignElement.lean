import Changelog.Resource.Memory
import Changelog.Proofs.Document.Choice
import Changelog.Proofs.Loading.Position

/-!
# Elements of unknown names

An element with a name that no element has is refused wherever it is put, unless it is put below an element
that looks at nothing inside it: then the tree is loaded as if it were not there.
-/

namespace Changelog

open Build

def elementNames : List String :=
  rootName :: "constraints" ::
    ((Named.all (α := DocumentPart)).map Named.name ++ (Named.all (α := ChangeSetPart)).map Named.name ++
      (Named.all (α := SqlEditKind)).map Named.name ++ (Named.all (α := ChangeKind)).map Named.name ++
      (Named.all (α := ChangePart)).map Named.name ++ (Named.all (α := CheckKind)).map Named.name ++
      (Named.all (α := Combinator)).map Named.name)

/-- The error is about an element of the given name, or about a text that it was put into. -/
def Rejects (name : String) (c : ChangelogError) : Prop :=
  (∃ parent context, c = .invalidElement name parent context) ∨
  ∃ element context, c = .invalidValue (.oneText element) context

namespace Build

section Foreign

variable {child : Element} (hchild : child.name ∉ elementNames)

include hchild

theorem step_of_foreign {σ : Type} {step : σ → Element → Except ChangelogError σ} (hstep : Step σ step)
    (s : σ) : ∃ parent context, step s child = .error (.invalidElement child.name parent context) := by
  simp only [elementNames, List.mem_cons, List.mem_append, not_or] at hchild
  obtain ⟨-, hconstraints, ⟨⟨⟨⟨⟨hdocument, hchangeSet⟩, -⟩, hchange⟩, hpart⟩, -⟩, -⟩ := hchild
  cases hstep with
  | documentPart workspace load =>
    unfold addDocumentPart
    rw [Named.ofName?_eq_none hdocument]
    exact ⟨_, _, rfl⟩
  | changeSetPart site d =>
    unfold addChangeSetPart changeOf
    rw [Named.ofName?_eq_none hchangeSet, Named.ofName?_eq_none hchange]
    exact ⟨_, _, rfl⟩
  | changePart site =>
    unfold addPart ChangeKind.part?
    rw [Named.ofName?_eq_none hpart]
    exact ⟨_, _, rfl⟩
  | constraints site =>
    unfold addConstraints
    rw [if_pos hconstraints]
    exact ⟨_, _, rfl⟩
  | checkPart site =>
    have hparam : ¬(s.kind = .customPrecondition ∧ child.name = "param") := by
      rintro ⟨-, hname⟩
      rw [hname] at hpart
      exact hpart (by decide)
    unfold addCheckPart
    rw [if_neg hparam]
    exact ⟨_, _, rfl⟩

theorem item_of_foreign {α : Type} {item : Element → Except ChangelogError α} (hitem : Item α item) :
    ∃ parent context, item child = .error (.invalidElement child.name parent context) := by
  simp only [elementNames, List.mem_cons, List.mem_append, not_or] at hchild
  obtain ⟨-, -, ⟨⟨⟨⟨-, hedit⟩, hchange⟩, -⟩, hcheck⟩, hcombinator⟩ := hchild
  cases hitem with
  | change site parent =>
    unfold changeOf
    rw [Named.ofName?_eq_none hchange]
    exact ⟨_, _, rfl⟩
  | edit site =>
    unfold sqlEdit
    rw [Named.ofName?_eq_none hedit]
    exact ⟨_, _, rfl⟩
  | precondition site parent =>
    rw [precondition_eq, Named.ofName?_eq_none hcombinator, Named.ofName?_eq_none hcheck]
    exact ⟨_, _, rfl⟩

theorem inside_of_foreign (before after : List Element) :
    Inside (Refuses (Rejects child.name)) (before ++ after) (before ++ child :: after) where
  steps σ step hstep s t ht := by
    rw [List.foldlM_append] at ht ⊢
    obtain ⟨u, hu, -⟩ := bind_eq_ok ht
    obtain ⟨parent, context, herror⟩ := step_of_foreign hchild hstep u
    rw [hu, ok_bind, List.foldlM_cons, herror]
    exact ⟨_, rfl, .inl ⟨parent, context, rfl⟩⟩
  items α item hitem results h := by
    rw [List.mapM_append] at h ⊢
    obtain ⟨first, hfirst, -⟩ := bind_eq_ok h
    obtain ⟨parent, context, herror⟩ := item_of_foreign hchild hitem
    rw [hfirst, ok_bind, List.mapM_cons, herror]
    exact ⟨_, rfl, .inl ⟨parent, context, rfl⟩⟩
  text site e text h := by
    obtain ⟨_, hattributes, -⟩ := bind_eq_ok h
    rw [bodyText_of_children (by simp)]
    dsimp only at hattributes ⊢
    rw [hattributes]
    exact ⟨_, rfl, .inr ⟨_, _, rfl⟩⟩

end Foreign

/-! ### Insertion into a tree -/

section Insertion

variable {e : Element}

theorem refuses_of_foreign {position : Position} {before after : List Element} {child : Element}
    (hopen : ∀ name ∈ position.names ++ [e.name], name ∉ blocklessNames)
    (hchildren : e.children = before ++ after) (hchild : child.name ∉ elementNames) :
    Everywhere (Refuses (Rejects child.name)) (position.fill e)
      (position.fill { e with children := before ++ child :: after }) := by
  have hR := lifts_refuses (Rejects child.name)
  obtain ⟨houter, hself⟩ := List.forall_mem_append.1 hopen
  have hname : e.name ∉ blocklessNames := hself e.name (List.mem_singleton_self _)
  have hinside : Inside (Refuses (Rejects child.name)) e.children (before ++ child :: after) := by
    rw [hchildren]
    exact inside_of_foreign hchild before after
  exact everywhere_fill hR (everywhere_of_children hR (fun h => absurd h hname) fun _ => hinside) houter

theorem keeps_of_blockless {children : List Element} (h : e.name ∈ blocklessNames) :
    Everywhere Keeps e { e with children := children } :=
  everywhere_of_children lifts_keeps (fun _ _ _ _ hresult => hresult) fun hname => absurd h hname

theorem keeps_below_blockless {position : Position} {children : List Element}
    (h : ∃ name ∈ position.names ++ [e.name], name ∈ blocklessNames) :
    Everywhere Keeps (position.fill e) (position.fill { e with children := children }) := by
  obtain ⟨name, hmem, hblockless⟩ := h
  -- The outermost blockless element hides the rest; around it nothing changes.
  induction position with
  | nil =>
    obtain rfl := List.mem_singleton.1 hmem
    exact keeps_of_blockless hblockless
  | cons s position ih =>
    by_cases hs : s.name ∈ blocklessNames
    · exact keeps_of_blockless (e := s.around (Position.fill position e)) hs
    · rcases List.mem_cons.1 hmem with rfl | hinner
      · exact absurd hblockless hs
      · exact everywhere_around lifts_keeps (ih hinner) hs

end Insertion

end Build

/-- An element of unknown name that is put into a tree is refused exactly if no element around it is one
that looks at nothing inside.  What refuses it names it, or names the text that it was put into; otherwise
the tree is loaded as before. -/
theorem foreign_refused_iff {workspace : Workspace} {path : String} {position : Position} {e child : Element}
    {before after : List Element} {d : Document} (hchildren : e.children = before ++ after)
    (hchild : child.name ∉ elementNames) (h : workspace.loadElement (position.fill e) path = .ok d) :
    let result := workspace.loadElement
      (position.fill { e with children := before ++ child :: after }) path
    ((∃ c, result = .error c) ↔ ∀ name ∈ position.names ++ [e.name], name ∉ blocklessNames) ∧
      (∀ c, result = .error c → Rejects child.name c) ∧ ∀ other, result = .ok other → other = d := by
  intro result
  let e' : Element := { e with children := before ++ child :: after }
  have hselfName : e'.name = e.name := rfl
  have hselfArgs : e'.args = e.args := rfl
  have hname := Position.name_fill hselfName position
  have hargs := Position.args_fill hselfArgs position
  by_cases hopen : ∀ name ∈ position.names ++ [e.name], name ∉ blocklessNames
  · have hrefuses := refuses_of_foreign hopen hchildren hchild
    obtain ⟨c, hc, hrejects⟩ := loadElement_of_everywhere (lifts_refuses _) hrefuses hname hargs
      workspace path d h
    refine ⟨iff_of_true ⟨c, hc⟩ hopen, ?_, ?_⟩
    · intro other hother
      obtain rfl := Except.error.inj (hc.symm.trans hother)
      exact hrejects
    · intro other hother
      exact nomatch hc.symm.trans hother
  · have hblockless : ∃ name ∈ position.names ++ [e.name], name ∈ blocklessNames := by
      simpa using hopen
    have hkeeps : Everywhere Keeps (position.fill e) (position.fill e') :=
      keeps_below_blockless hblockless
    have hok : result = .ok d :=
      loadElement_of_everywhere lifts_keeps hkeeps hname hargs workspace path d h
    refine ⟨iff_of_false ?_ hopen, ?_, ?_⟩
    · rintro ⟨c, hc⟩
      exact nomatch hok.symm.trans hc
    · intro c hc
      exact nomatch hok.symm.trans hc
    · intro other hother
      exact (Except.ok.inj (hok.symm.trans hother)).symm

def Element.bare (name : String) : Element := ⟨name, .empty, [], [], 1⟩

def onlyPosition : Position := [⟨"databaseChangeLog", .empty, [], [], [], 1⟩]

def namedProperty : Element :=
  { Element.bare "property" with
    attributes := .ofList [("name", .string "a"), ("value", .string "b")] }

def withNote (e : Element) : Element := { e with children := [.bare "note"] }

theorem foreign_refused_changeSet :
    ∃ d c, Workspace.loadElement ⟨MemoryResources.accessor ⟨[], []⟩, .empty, {}⟩
        (onlyPosition.fill (.bare "changeSet")) "main" = .ok d ∧
      Workspace.loadElement ⟨MemoryResources.accessor ⟨[], []⟩, .empty, {}⟩
        (onlyPosition.fill (withNote (.bare "changeSet"))) "main" = .error c ∧ Rejects "note" c := by
  have hload : ∃ d, Workspace.loadElement ⟨MemoryResources.accessor ⟨[], []⟩, .empty, {}⟩
      (onlyPosition.fill (.bare "changeSet")) "main" = .ok d := by
    with_unfolding_all exact ⟨_, rfl⟩
  obtain ⟨d, hd⟩ := hload
  have hforeign : (Element.bare "note").name ∉ elementNames := by decide
  have hchildren : (Element.bare "changeSet").children = [] ++ [] := rfl
  obtain ⟨hiff, hrejects, -⟩ := foreign_refused_iff hchildren hforeign hd
  have hopen : ∀ name ∈ onlyPosition.names ++ ["changeSet"], name ∉ blocklessNames := by decide
  obtain ⟨c, hc⟩ := hiff.2 hopen
  exact ⟨d, c, hd, hc, hrejects c hc⟩

/-- A note that is put into a property is dropped without a word. -/
theorem note_in_property_dropped :
    "note" ∉ elementNames ∧
      ∃ d, Workspace.loadElement ⟨MemoryResources.accessor ⟨[], []⟩, .empty, {}⟩
          (onlyPosition.fill namedProperty) "main" = .ok d ∧
        Workspace.loadElement ⟨MemoryResources.accessor ⟨[], []⟩, .empty, {}⟩
          (onlyPosition.fill (withNote namedProperty)) "main" = .ok d := by
  have hforeign : "note" ∉ elementNames := by decide
  with_unfolding_all exact ⟨hforeign, _, rfl, rfl⟩

end Changelog
