import Changelog.Proofs.Build.Body
import Changelog.Proofs.Property.Expansion

/-!
# Rollbacks that refer to change sets

A rollback may ask for a change set by its id, its path and perhaps its author.  The first change set of
the document that fits is the one meant, and its changes stand between the rollback's own text and block.
-/

namespace Changelog

/-- The change set that a rollback asks for; where it names no author, any will do. -/
structure Target where
  id : String
  author : Option String
  path : String

namespace Target

structure Fits (t : Target) (c : ChangeSet) : Prop where
  id : c.id = t.id
  path : c.filePath = t.path
  author : ∀ author, t.author = some author → c.author = author

def notFound (t : Target) (context : String) : ChangelogError :=
  .rollbackTargetNotFound t.id (t.author.getD "") t.path context

def First (t : Target) (changeSets : List ChangeSet) (c : ChangeSet) : Prop :=
  ∃ before after, changeSets = before ++ c :: after ∧ t.Fits c ∧ ∀ other ∈ before, ¬t.Fits other

theorem First.mem {t : Target} {changeSets : List ChangeSet} {c : ChangeSet}
    (h : t.First changeSets c) : c ∈ changeSets := by
  obtain ⟨before, after, rfl, -⟩ := h
  exact List.mem_append_right before (List.mem_cons_self ..)

theorem hasIdentity_iff (t : Target) (c : ChangeSet) :
    c.hasIdentity t.id t.author t.path = true ↔ t.Fits c := by
  have hauthor : (t.author.all (c.author == ·)) = true ↔ ∀ a, t.author = some a → c.author = a := by
    cases t.author with
    | none => simp
    | some own => simp
  rw [ChangeSet.hasIdentity, Bool.and_eq_true, Bool.and_eq_true, hauthor, beq_iff_eq, beq_iff_eq]
  exact ⟨fun h => ⟨h.1.1, h.1.2, h.2⟩, fun h => ⟨⟨h.id, h.path⟩, h.author⟩⟩

theorem findChangeSet?_eq_some_iff (t : Target) (changeSets : List ChangeSet) (c : ChangeSet) :
    findChangeSet? changeSets t.id t.author t.path = some c ↔ t.First changeSets c := by
  rw [findChangeSet?, List.find?_eq_some_iff_append]
  constructor
  · rintro ⟨hc, before, after, rfl, hbefore⟩
    refine ⟨before, after, rfl, (t.hasIdentity_iff c).1 hc, fun other hother hfits => ?_⟩
    have hnot := hbefore other hother
    rw [(t.hasIdentity_iff other).2 hfits] at hnot
    nomatch hnot
  · rintro ⟨before, after, rfl, hc, hbefore⟩
    refine ⟨(t.hasIdentity_iff c).2 hc, before, after, rfl, fun other hother => ?_⟩
    rw [Bool.not_eq_true']
    exact Bool.eq_false_iff.2 fun h => hbefore other hother ((t.hasIdentity_iff other).1 h)

theorem findChangeSet?_eq_none_iff (t : Target) (changeSets : List ChangeSet) :
    findChangeSet? changeSets t.id t.author t.path = none ↔ ∀ c ∈ changeSets, ¬t.Fits c := by
  rw [findChangeSet?, List.find?_eq_none]
  exact forall₂_congr fun c _ => not_congr (t.hasIdentity_iff c)

theorem first_or_none (t : Target) (changeSets : List ChangeSet) :
    (∃ c, t.First changeSets c) ∨ ∀ c ∈ changeSets, ¬t.Fits c := by
  cases hfind : findChangeSet? changeSets t.id t.author t.path with
  | none => exact .inr ((t.findChangeSet?_eq_none_iff changeSets).1 hfind)
  | some c => exact .inl ⟨c, (t.findChangeSet?_eq_some_iff changeSets c).1 hfind⟩

end Target

namespace Build

variable {site : Site} {document : Document} {r : Element}

def target? (site : Site) (document : Document) (r : Element) : Option Target :=
  (textOf? (site.expander.attributes r.attributes) "changeSetId").map fun id => {
    id := id
    author := textOf? (site.expander.attributes r.attributes) "changeSetAuthor"
    path := (textOf? (site.expander.attributes r.attributes) "changeSetPath").getD
      document.logicalPath }

/-- Whether a rollback element names a change set by an id that is not null. -/
def Asks (r : Element) : Prop := ∃ v, r.attributes.get? "changeSetId" = some v ∧ v ≠ .null

theorem isSome_target? (site : Site) (document : Document) (r : Element) :
    (target? site document r).isSome = true ↔ Asks r := by
  have hnull : ∀ v : Value, (site.expander.value v).text?.isSome = true ↔ v ≠ .null := by
    intro v
    cases v <;> simp [Expander.value, Expansion.mapStrings, Value.text?]
  rw [target?, Option.isSome_map, textOf?, Expander.get?_attributes, Asks]
  cases r.attributes.get? "changeSetId" with
  | none => simp
  | some v => simpa using hnull v

theorem referencedChanges_eq {t : Target} (ht : target? site document r = some t) :
    referencedChanges site document (site.expander.attributes r.attributes) =
      match findChangeSet? document.changeSets t.id t.author t.path with
      | some c => .ok c.changes
      | none => .error (t.notFound site.context) := by
  obtain ⟨id, hid, rfl⟩ := Option.map_eq_some_iff.1 ht
  rw [referencedChanges, hid]
  rfl

theorem rollback_of_first {t : Target} {c : ChangeSet} {written : List Change}
    (hkeys : checkAttributes "rollback" r.attributes rollbackAttributes site.context = .ok ())
    (hwritten : rollbackText site r = .ok written) (ht : target? site document r = some t)
    (hc : t.First document.changeSets c) :
    rollback site document r =
      (r.children.mapM (changeOf site "rollback")).map fun inside => written ++ c.changes ++ inside := by
  rw [rollback, hkeys, ok_bind, hwritten, ok_bind, referencedChanges_eq ht,
    (t.findChangeSet?_eq_some_iff _ _).2 hc, ok_bind]
  cases r.children.mapM (changeOf site "rollback") <;> rfl

theorem rollback_of_none {t : Target} {written : List Change}
    (hkeys : checkAttributes "rollback" r.attributes rollbackAttributes site.context = .ok ())
    (hwritten : rollbackText site r = .ok written) (ht : target? site document r = some t)
    (hnone : ∀ c ∈ document.changeSets, ¬t.Fits c) :
    rollback site document r = .error (t.notFound site.context) := by
  rw [rollback, hkeys, ok_bind, hwritten, ok_bind, referencedChanges_eq ht,
    (t.findChangeSet?_eq_none_iff _).2 hnone]
  rfl

theorem first_of_rollback {t : Target} {changes : List Change}
    (ht : target? site document r = some t) (h : rollback site document r = .ok changes) :
    ∃ c written inside, t.First document.changeSets c ∧ rollbackText site r = .ok written ∧
      r.children.mapM (changeOf site "rollback") = .ok inside ∧
      changes = written ++ c.changes ++ inside := by
  obtain ⟨_, -, h⟩ := bind_eq_ok h
  obtain ⟨written, hwritten, h⟩ := bind_eq_ok h
  obtain ⟨reused, hreused, h⟩ := bind_eq_ok h
  obtain ⟨inside, hinside, h⟩ := bind_eq_ok h
  obtain rfl := Except.ok.inj h
  rw [referencedChanges_eq ht] at hreused
  split at hreused
  · next c hc =>
    obtain rfl := Except.ok.inj hreused
    exact ⟨c, written, inside, (t.findChangeSet?_eq_some_iff _ _).1 hc, hwritten, hinside, rfl⟩
  · nomatch hreused

theorem addChangeSetPart_of_rollback (hname : r.name = "rollback") (c : ChangeSet) :
    addChangeSetPart site document c r =
      (rollback site document r).map fun changes => { c with rollback := c.rollback ++ changes } := by
  have hpart : Named.ofName? (α := ChangeSetPart) r.name = some .rollback := by
    rw [hname]
    rfl
  rw [addChangeSetPart, hpart]
  dsimp only
  cases rollback site document r <;> rfl

def changeSetSite (expander : Expander) (document : Document) (e : Element) : Site :=
  ⟨expander, changeSetContext document e⟩

theorem changeSetWith_append_eq_foldlM (expander : Expander) (document : Document) (e : Element)
    (a b : List Element) :
    changeSetWith expander document e (a ++ b) =
      (changeSetWith expander document e a >>= fun c =>
        b.foldlM (addChangeSetPart (changeSetSite expander document e) document) c) := by
  simp only [changeSetWith, changeSet, List.foldlM_append, bind_assoc]
  rfl

theorem infix_of_changeSet {expander : Expander} {e : Element} {c : ChangeSet}
    (h : changeSet expander document e = .ok c) (hr : r ∈ e.children) (hname : r.name = "rollback") :
    ∃ changes, rollback (changeSetSite expander document e) document r = .ok changes ∧
      changes <:+: c.rollback := by
  have hbuilt : changeSetWith expander document e e.children = .ok c := h
  rw [changeSetWith_eq_head] at hbuilt
  obtain ⟨head, -, hbuilt⟩ := bind_eq_ok hbuilt
  obtain ⟨body, hbody, rfl⟩ := map_eq_ok hbuilt
  obtain ⟨parts, hparts, hrollback⟩ := (madeFrom_of_bodyOf hbody).rollback
  obtain ⟨before, after, hsplit⟩ := List.append_of_mem hr
  rw [hsplit, List.filter_append, List.filter_cons_of_pos (by simp [hname]), List.mapM_append,
    List.mapM_cons] at hparts
  obtain ⟨own, -, hparts⟩ := bind_eq_ok hparts
  obtain ⟨more, hmore, hparts⟩ := bind_eq_ok hparts
  obtain ⟨changes, hchanges, hmore⟩ := bind_eq_ok hmore
  obtain ⟨others, -, hmore⟩ := bind_eq_ok hmore
  obtain rfl := Except.ok.inj hmore
  obtain rfl := Except.ok.inj hparts
  refine ⟨changes, hchanges, own.flatten, others.flatten, ?_⟩
  show _ = body.rollback
  rw [hrollback, List.flatten_append, List.flatten_cons, List.append_assoc]

/-- The reference of a rollback is to be looked up: what stands before the rollback in its change set is
built, and its attributes and its own text are in order. -/
structure Due (site : Site) (document : Document) (e r : Element) (built : ChangeSet)
    (written : List Change) : Prop where
  before : ∃ before after, e.children = before ++ r :: after ∧
    changeSetWith site.expander document e before = .ok built
  name : r.name = "rollback"
  asks : Asks r
  keys : checkAttributes "rollback" r.attributes rollbackAttributes site.context = .ok ()
  text : rollbackText site r = .ok written

end Build

end Changelog
