import Changelog.Build.ChangeSet
import Changelog.Proofs.Document.Choice
import Changelog.Proofs.Steps

/-!
# Bodies of change sets

A change set is what its attributes say, with a body that its elements make up.  What an element brings
into the body is known before anything else of the body is, so a body may be built in pieces.
-/

namespace Changelog

/-- What the elements inside a change set say of it. -/
structure Body where
  comments : Option String := none
  validChecksums : List String := []
  preconditions : Option Preconditions := none
  changes : List Change := []
  rollback : List Change := []
  sqlAdjustments : List SqlAdjustment := []

namespace Body

/-- The lists of both, one after the other; where there is room for one thing only, the later one has it. -/
def followedBy (a b : Body) : Body where
  comments := b.comments.or a.comments
  validChecksums := a.validChecksums ++ b.validChecksums
  preconditions := b.preconditions.or a.preconditions
  changes := a.changes ++ b.changes
  rollback := a.rollback ++ b.rollback
  sqlAdjustments := a.sqlAdjustments ++ b.sqlAdjustments

theorem followedBy_empty (a : Body) : a.followedBy {} = a := by
  simp [followedBy]

theorem empty_followedBy (b : Body) : followedBy {} b = b := by
  simp [followedBy]

theorem followedBy_assoc (a b c : Body) :
    (a.followedBy b).followedBy c = a.followedBy (b.followedBy c) := by
  simp [followedBy, Option.or_assoc]

end Body

namespace ChangeSet

def body (c : ChangeSet) : Body where
  comments := c.comments
  validChecksums := c.validChecksums
  preconditions := c.preconditions
  changes := c.changes
  rollback := c.rollback
  sqlAdjustments := c.sqlAdjustments

def withBody (c : ChangeSet) (b : Body) : ChangeSet :=
  { c with
    comments := b.comments
    validChecksums := b.validChecksums
    preconditions := b.preconditions
    changes := b.changes
    rollback := b.rollback
    sqlAdjustments := b.sqlAdjustments }

def head (c : ChangeSet) : ChangeSet := c.withBody {}

def followedBy (a b : ChangeSet) : ChangeSet := a.withBody (a.body.followedBy b.body)

theorem withBody_body (c : ChangeSet) : c.withBody c.body = c := rfl

end ChangeSet

def Element.isChange (e : Element) : Bool := (Named.ofName? (α := ChangeKind) e.name).isSome

theorem Element.isChange_of_part {e : Element} {part : ChangeSetPart}
    (h : Named.ofName? (α := ChangeSetPart) e.name = some part) : e.isChange = false := by
  rw [isChange, Option.isSome_eq_false_iff, Option.isNone_iff_eq_none]
  cases hkind : Named.ofName? (α := ChangeKind) e.name with
  | none => rfl
  | some kind =>
    have hname : kind.name = e.name := Named.name_of_ofName? hkind
    rw [← hname, kind.name_not_part] at h
    nomatch h

namespace Build

variable {site : Site} {document : Document}

/-! ### What elements bring -/

def bodyPart (site : Site) (document : Document) (e : Element) : Except ChangelogError Body :=
  match Named.ofName? (α := ChangeSetPart) e.name with
  | some .comment => (bodyText site e).map fun text => { comments := some text }
  | some .validChecksum => (bodyText site e).map fun text => { validChecksums := [text] }
  | some .preconditions => (container site e).map fun p => { preconditions := some p }
  | some .rollback => (rollback site document e).map fun changes => { rollback := changes }
  | some .modifySql =>
    (sqlAdjustments site e).map fun adjustments => { sqlAdjustments := adjustments }
  | none => (changeOf site "changeSet" e).map fun c => { changes := [c] }

def bodyOf (site : Site) (document : Document) : List Element → Except ChangelogError Body
  | [] => .ok {}
  | e :: rest => do
    let first ← bodyPart site document e
    let others ← bodyOf site document rest
    return first.followedBy others

theorem addChangeSetPart_eq_body (c : ChangeSet) (e : Element) :
    addChangeSetPart site document c e =
      (bodyPart site document e).map fun b => c.withBody (c.body.followedBy b) := by
  -- both sides are what the same builder gives, put into the change set in two ways
  have hstep : ∀ {α : Type} (x : Except ChangelogError α) (f : α → ChangeSet) (g : α → Body),
      (∀ a, f a = c.withBody (c.body.followedBy (g a))) →
      (x >>= fun a => .ok (f a)) = (x.map g).map fun b => c.withBody (c.body.followedBy b) := by
    intro α x f g h
    cases x with
    | error e => rfl
    | ok a => exact congrArg Except.ok (h a)
  have hnil : ∀ {α : Type} (list : List α), list ++ [] = list := List.append_nil
  unfold addChangeSetPart bodyPart
  cases Named.ofName? (α := ChangeSetPart) e.name with
  | none =>
    refine hstep (changeOf site "changeSet" e) _ _ fun change => ?_
    simp only [ChangeSet.withBody, ChangeSet.body, Body.followedBy, hnil, Option.none_or]
  | some part =>
    cases part with
    | comment =>
      refine hstep (bodyText site e) _ _ fun text => ?_
      simp only [ChangeSet.withBody, ChangeSet.body, Body.followedBy, hnil, Option.none_or,
        Option.some_or]
    | validChecksum =>
      refine hstep (bodyText site e) _ _ fun text => ?_
      simp only [ChangeSet.withBody, ChangeSet.body, Body.followedBy, hnil, Option.none_or]
    | preconditions =>
      refine hstep (container site e) _ _ fun p => ?_
      simp only [ChangeSet.withBody, ChangeSet.body, Body.followedBy, hnil, Option.none_or,
        Option.some_or]
    | rollback =>
      refine hstep (Build.rollback site document e) _ _ fun changes => ?_
      simp only [ChangeSet.withBody, ChangeSet.body, Body.followedBy, hnil, Option.none_or]
    | modifySql =>
      refine hstep (sqlAdjustments site e) _ _ fun adjustments => ?_
      simp only [ChangeSet.withBody, ChangeSet.body, Body.followedBy, hnil, Option.none_or]

theorem foldlM_addChangeSetPart_eq_body (c : ChangeSet) (children : List Element) :
    children.foldlM (addChangeSetPart site document) c =
      (bodyOf site document children).map fun b => c.withBody (c.body.followedBy b) := by
  induction children generalizing c with
  | nil =>
    show Except.ok c = Except.ok (c.withBody (c.body.followedBy {}))
    rw [Body.followedBy_empty, ChangeSet.withBody_body]
  | cons e rest ih =>
    rw [List.foldlM_cons, addChangeSetPart_eq_body, bodyOf]
    cases bodyPart site document e with
    | error error => rfl
    | ok first =>
      refine (ih (c.withBody (c.body.followedBy first))).trans ?_
      rw [ok_bind]
      cases bodyOf site document rest with
      | error error => rfl
      | ok others =>
        show Except.ok (c.withBody ((c.body.followedBy first).followedBy others)) = _
        rw [Body.followedBy_assoc]
        rfl

theorem bodyOf_append (a b : List Element) :
    bodyOf site document (a ++ b) = do
      let first ← bodyOf site document a
      let second ← bodyOf site document b
      return first.followedBy second := by
  induction a with
  | nil =>
    rw [List.nil_append, bodyOf, ok_bind]
    cases bodyOf site document b with
    | error error => rfl
    | ok second => exact congrArg Except.ok (Body.empty_followedBy second).symm
  | cons e rest ih =>
    rw [List.cons_append, bodyOf, ih, bodyOf]
    cases bodyPart site document e with
    | error error => rfl
    | ok first =>
      rw [ok_bind, ok_bind]
      cases bodyOf site document rest with
      | error error => rfl
      | ok others =>
        cases bodyOf site document b with
        | error error => rfl
        | ok second => exact congrArg Except.ok (Body.followedBy_assoc first others second).symm

/-- The elements that are changes make up the changes and those that are rollbacks make up the rollback,
each in their order; comments and preconditions are there if an element gives them. -/
structure MadeFrom (site : Site) (document : Document) (children : List Element) (b : Body) : Prop where
  changes : (children.filter Element.isChange).mapM (changeOf site "changeSet") = .ok b.changes
  rollback : ∃ parts, (children.filter (·.name == "rollback")).mapM (rollback site document) = .ok parts ∧
    b.rollback = parts.flatten
  comments : b.comments.isSome = children.any (·.name == "comment")
  preconditions : b.preconditions.isSome = children.any (·.name == "preConditions")

namespace MadeFrom

theorem nil : MadeFrom site document [] {} := ⟨rfl, ⟨[], rfl, rfl⟩, rfl, rfl⟩

theorem append {a b : List Element} {first second : Body} (ha : MadeFrom site document a first)
    (hb : MadeFrom site document b second) :
    MadeFrom site document (a ++ b) (first.followedBy second) := by
  obtain ⟨own, hown, hfirst⟩ := ha.rollback
  obtain ⟨others, hothers, hsecond⟩ := hb.rollback
  constructor
  · rw [List.filter_append, List.mapM_append, ha.changes, ok_bind, hb.changes]
    rfl
  · refine ⟨own ++ others, ?_, ?_⟩
    · rw [List.filter_append, List.mapM_append, hown, ok_bind, hothers]
      rfl
    · rw [List.flatten_append, ← hfirst, ← hsecond]
      rfl
  · rw [List.any_append, ← ha.comments, ← hb.comments, Bool.or_comm]
    exact Option.isSome_or
  · rw [List.any_append, ← ha.preconditions, ← hb.preconditions, Bool.or_comm]
    exact Option.isSome_or

theorem of_other {e : Element} {b : Body} (hchange : e.isChange = false) (hrollback : e.name ≠ "rollback")
    (hchanges : b.changes = []) (hnone : b.rollback = [])
    (hcomments : b.comments.isSome = (e.name == "comment"))
    (hpreconditions : b.preconditions.isSome = (e.name == "preConditions")) :
    MadeFrom site document [e] b := by
  have hfilter : [e].filter Element.isChange = [] := by simp [hchange]
  have hfilter' : [e].filter (·.name == "rollback") = [] := by simp [hrollback]
  refine ⟨?_, ⟨[], ?_, hnone⟩, ?_, ?_⟩
  · rw [hfilter, hchanges]
    rfl
  · rw [hfilter']
    rfl
  · rw [hcomments, List.any_cons, List.any_nil, Bool.or_false]
  · rw [hpreconditions, List.any_cons, List.any_nil, Bool.or_false]

theorem single {e : Element} {b : Body} (h : bodyPart site document e = .ok b) :
    MadeFrom site document [e] b := by
  unfold bodyPart at h
  cases hpart : Named.ofName? (α := ChangeSetPart) e.name with
  | none =>
    rw [hpart] at h
    obtain ⟨change, hchange, rfl⟩ := map_eq_ok h
    -- An element that is no part with a name of its own has to be a change.
    have hkind : e.isChange = true := by
      unfold changeOf at hchange
      split at hchange
      · next hname => rw [Element.isChange, hname, Option.isSome_some]
      · nomatch hchange
    have hother : ∀ name, (Named.ofName? (α := ChangeSetPart) name).isSome = true →
        (e.name == name) = false := by
      intro name hsome
      refine beq_eq_false_iff_ne.2 fun heq => ?_
      rw [← heq, hpart] at hsome
      nomatch hsome
    have hfilter : [e].filter (·.name == "rollback") = [] := by simp [hother "rollback" (by decide)]
    refine ⟨?_, ⟨[], ?_, rfl⟩, ?_, ?_⟩
    · rw [List.filter_cons_of_pos hkind, List.filter_nil, List.mapM_cons, hchange]
      rfl
    · rw [hfilter]
      rfl
    · rw [List.any_cons, hother "comment" (by decide)]
      rfl
    · rw [List.any_cons, hother "preConditions" (by decide)]
      rfl
  | some part =>
    rw [hpart] at h
    have hchange := Element.isChange_of_part hpart
    have hname : part.name = e.name := Named.name_of_ofName? hpart
    cases part with
    | rollback =>
      obtain ⟨changes, hchanges, rfl⟩ := map_eq_ok h
      have hfilter : [e].filter (·.name == "rollback") = [e] := by simp [← hname, ChangeSetPart.name]
      refine ⟨?_, ⟨[changes], ?_, (List.append_nil changes).symm⟩, ?_, ?_⟩
      · rw [List.filter_cons_of_neg (by simp [hchange])]
        rfl
      · rw [hfilter, List.mapM_cons, hchanges]
        rfl
      · rw [List.any_cons, ← hname]
        rfl
      · rw [List.any_cons, ← hname]
        rfl
    | comment =>
      obtain ⟨text, -, rfl⟩ := map_eq_ok h
      exact of_other hchange (by rw [← hname]; decide) rfl rfl (by rw [← hname]; rfl) (by rw [← hname]; rfl)
    | preconditions =>
      obtain ⟨p, -, rfl⟩ := map_eq_ok h
      exact of_other hchange (by rw [← hname]; decide) rfl rfl (by rw [← hname]; rfl) (by rw [← hname]; rfl)
    | validChecksum =>
      obtain ⟨text, -, rfl⟩ := map_eq_ok h
      exact of_other hchange (by rw [← hname]; decide) rfl rfl (by rw [← hname]; rfl) (by rw [← hname]; rfl)
    | modifySql =>
      obtain ⟨adjustments, -, rfl⟩ := map_eq_ok h
      exact of_other hchange (by rw [← hname]; decide) rfl rfl (by rw [← hname]; rfl) (by rw [← hname]; rfl)

end MadeFrom

theorem madeFrom_of_bodyOf {children : List Element} {b : Body}
    (h : bodyOf site document children = .ok b) : MadeFrom site document children b := by
  induction children generalizing b with
  | nil =>
    obtain rfl := Except.ok.inj h
    exact .nil
  | cons e rest ih =>
    obtain ⟨first, hfirst, h⟩ := bind_eq_ok h
    obtain ⟨others, hothers, h⟩ := bind_eq_ok h
    obtain rfl := Except.ok.inj h
    exact (MadeFrom.single hfirst).append (ih hothers)

/-! ### Change sets -/

/-- A change set as its attributes alone make it. -/
def changeSetHead (site : Site) (document : Document) (e : Element) : Except ChangelogError ChangeSet := do
  rejectRenamed "changeSet" e.attributes "alwaysRun" "runAlways" site.context
  checkAttributes "changeSet" e.attributes changeSetAttributes site.context
  rejectPositional e.name e.args site.context
  changeSetOf site document (site.expander.attributes e.attributes)

theorem body_of_changeSetHead {e : Element} {head : ChangeSet}
    (h : changeSetHead site document e = .ok head) : head.body = {} := by
  obtain ⟨_, -, h⟩ := bind_eq_ok h
  obtain ⟨_, -, h⟩ := bind_eq_ok h
  obtain ⟨_, -, h⟩ := bind_eq_ok h
  obtain ⟨onValidationFail, -, h⟩ := bind_eq_ok h
  obtain ⟨quoting, -, h⟩ := bind_eq_ok h
  obtain rfl := Except.ok.inj h
  rfl

def changeSetWith (expander : Expander) (document : Document) (e : Element) (children : List Element) :
    Except ChangelogError ChangeSet :=
  changeSet expander document { e with children := children }

/-- Attributes and body are built apart. -/
theorem changeSetWith_eq_head (expander : Expander) (document : Document) (e : Element)
    (children : List Element) :
    changeSetWith expander document e children =
      (changeSetHead ⟨expander, changeSetContext document e⟩ document e >>= fun head =>
        (bodyOf ⟨expander, changeSetContext document e⟩ document children).map head.withBody) := by
  have hbody : ∀ head, changeSetHead ⟨expander, changeSetContext document e⟩ document e = .ok head →
      children.foldlM (addChangeSetPart ⟨expander, changeSetContext document e⟩ document) head =
        (bodyOf ⟨expander, changeSetContext document e⟩ document children).map head.withBody := by
    intro head hhead
    rw [foldlM_addChangeSetPart_eq_body, body_of_changeSetHead hhead]
    simp only [Body.empty_followedBy]
  have hsteps : changeSetWith expander document e children =
      (changeSetHead ⟨expander, changeSetContext document e⟩ document e >>= fun head =>
        children.foldlM (addChangeSetPart ⟨expander, changeSetContext document e⟩ document) head) := by
    simp only [changeSetWith, changeSet, changeSetHead, bind_assoc]
    rfl
  rw [hsteps]
  cases hhead : changeSetHead ⟨expander, changeSetContext document e⟩ document e with
  | error error => rfl
  | ok head => exact hbody head hhead

/-- A body of two pieces is built piece by piece: the first error in it is the error, and otherwise what the
second piece brings comes after what the first one brings, under the same head.  Only changes bring
changes, and only rollbacks bring something into the rollback. -/
theorem changeSetWith_append (expander : Expander) (document : Document) (e : Element)
    (a b : List Element) :
    changeSetWith expander document e (a ++ b) =
        (changeSetWith expander document e a >>= fun first =>
          (changeSetWith expander document e b).map fun second => first.followedBy second) ∧
      (∀ first second, changeSetWith expander document e a = .ok first →
        changeSetWith expander document e b = .ok second →
        second.head = first.head ∧ (first.followedBy second).head = first.head) ∧
      ∀ children c, changeSetWith expander document e children = .ok c →
        MadeFrom ⟨expander, changeSetContext document e⟩ document children c.body := by
  refine ⟨?_, fun first second ha hb => ?_, fun children c hc => ?_⟩
  · rw [changeSetWith_eq_head, changeSetWith_eq_head, changeSetWith_eq_head, bodyOf_append]
    cases changeSetHead ⟨expander, changeSetContext document e⟩ document e with
    | error error => rfl
    | ok head =>
      rw [ok_bind, ok_bind, ok_bind]
      cases bodyOf ⟨expander, changeSetContext document e⟩ document a with
      | error error => rfl
      | ok first =>
        cases bodyOf ⟨expander, changeSetContext document e⟩ document b with
        | error error => rfl
        | ok second => rfl
  · rw [changeSetWith_eq_head] at ha hb
    obtain ⟨head, hhead, ha⟩ := bind_eq_ok ha
    obtain ⟨own, -, rfl⟩ := map_eq_ok ha
    rw [hhead, ok_bind] at hb
    obtain ⟨other, -, rfl⟩ := map_eq_ok hb
    exact ⟨rfl, rfl⟩
  · rw [changeSetWith_eq_head] at hc
    obtain ⟨head, -, hc⟩ := bind_eq_ok hc
    obtain ⟨body, hbody, rfl⟩ := map_eq_ok hc
    exact madeFrom_of_bodyOf hbody

/-! ### A body in two pieces -/

def inner (name : String) (args : List Value) (children : List Element) : Element where
  name := name
  attributes := .empty
  args := args
  children := children
  line := 1

def earlierPiece : List Element :=
  [inner "comment" [.string "x"] [], inner "sql" [.string "insert"] [],
    inner "rollback" [.string "delete"] []]

def laterPiece : List Element :=
  [inner "rollback" [.string "truncate"] [inner "empty" [] []], inner "comment" [.string "y"] [],
    inner "empty" [] []]

def twoPieces : List Element → Except ChangelogError ChangeSet :=
  changeSetWith ⟨.empty, "main", .any⟩ (.ofPath "main") (inner "changeSet" [] [])

/-- The later comment counts, and the block of the rollback stays out of the changes. -/
theorem changeSetWith_append_rollback :
    ∃ first second c,
      twoPieces earlierPiece = .ok first ∧ twoPieces laterPiece = .ok second ∧
      twoPieces (earlierPiece ++ laterPiece) = .ok c ∧
      c = first.followedBy second ∧ second.head = first.head ∧ c.comments = some "y" ∧
      c.changes.map Change.kind = [.sql, .empty] ∧ c.rollback.map Change.kind = [.sql, .sql, .empty] := by
  have hbuilt : ∃ first second,
      twoPieces earlierPiece = .ok first ∧ twoPieces laterPiece = .ok second ∧
      (first.followedBy second).comments = some "y" ∧
      (first.followedBy second).changes.map Change.kind = [.sql, .empty] ∧
      (first.followedBy second).rollback.map Change.kind = [.sql, .sql, .empty] := by
    with_unfolding_all exact ⟨_, _, rfl, rfl, rfl, rfl, rfl⟩
  obtain ⟨first, second, hfirst, hsecond, hcomments, hchanges, hrollback⟩ := hbuilt
  obtain ⟨happend, hhead, -⟩ := changeSetWith_append ⟨.empty, "main", .any⟩ (.ofPath "main")
    (inner "changeSet" [] []) earlierPiece laterPiece
  have hboth : twoPieces (earlierPiece ++ laterPiece) =
      (twoPieces earlierPiece >>= fun first =>
        (twoPieces laterPiece).map fun second => first.followedBy second) := happend
  rw [hfirst, ok_bind, hsecond] at hboth
  exact ⟨first, second, _, hfirst, hsecond, hboth, rfl, (hhead first second hfirst hsecond).1,
    hcomments, hchanges, hrollback⟩

end Build

end Changelog
