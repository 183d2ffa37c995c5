import Changelog.Pattern.Basic

/-!
# Finding a pattern in a text

A text is read character by character, with marks on the places of the pattern that the last character
may stand for.  Reading a character moves the marks; the pattern is found where a mark stands on a place
that can be its last.  Nothing is tried twice, however the text could be divided.
-/

namespace Changelog.Pattern

/-- Whether a pattern matches nothing at all: at every place, at none, or where its conditions hold. -/
inductive Emptiness
  | always
  | never
  | depends

def Emptiness.both : Emptiness → Emptiness → Emptiness
  | .never, _ => .never
  | _, .never => .never
  | .always, .always => .always
  | _, _ => .depends

def Emptiness.either : Emptiness → Emptiness → Emptiness
  | .always, _ => .always
  | _, .always => .always
  | .never, .never => .never
  | _, _ => .depends

/-- A pattern with marks.  Of a pattern with two parts it is kept whether there is a mark inside, and
whether it matches nothing at all. -/
inductive Marked
  | empty
  | anchor (a : Anchor)
  | one (set : Text.CodePoints) (marked : Bool)
  /-- From `least` to `most` characters of a set.  The bits of `counts` say how many of them the last
  character may have made up. -/
  | run (set : Text.CodePoints) (least most : Nat) (counts : Nat)
  | seq (live : Bool) (emptiness : Emptiness) (p q : Marked)
  | either (live : Bool) (emptiness : Emptiness) (p q : Marked)
  | star (live : Bool) (p : Marked)

namespace Marked

def live : Marked → Bool
  | .empty => false
  | .anchor _ => false
  | .one _ marked => marked
  | .run _ _ _ counts => counts != 0
  | .seq live _ _ _ => live
  | .either live _ _ _ => live
  | .star live _ => live

/-- Whether the pattern matches nothing at all, as far as that hangs on no place. -/
def emptiness : Marked → Emptiness
  | .empty => .always
  | .anchor _ => .depends
  | .one _ _ => .never
  | .run _ least _ _ => if least = 0 then .always else .never
  | .seq _ emptiness _ _ => emptiness
  | .either _ emptiness _ _ => emptiness
  | .star _ _ => .always

def seqOf (p q : Marked) : Marked := .seq (p.live || q.live) (p.emptiness.both q.emptiness) p q

def eitherOf (p q : Marked) : Marked :=
  .either (p.live || q.live) (p.emptiness.either q.emptiness) p q

def starOf (p : Marked) : Marked := .star p.live p

/-- A pattern `n` times, put together from halves. -/
def power (p : Marked) (n : Nat) : Marked :=
  if n = 0 then .empty
  else if n = 1 then p
  else
    let half := power p (n / 2)
    let twice := seqOf half half
    if n % 2 = 0 then twice else seqOf twice p
termination_by n

/-- From `least` to `most` rounds of a pattern: those that have to be, and behind them choices. -/
def rounds (p : Marked) (least most : Nat) : Marked :=
  match p with
  | .one set _ => .run set least (max least most) 0
  | p => seqOf (power p least) (power (eitherOf p .empty) (most - least))

/-- The pattern without any mark.  The rounds of a repetition are written out; where only the empty text
is matched, one round does for all. -/
def ofPattern : Pattern → Marked
  | .empty => .empty
  | .one set => .one set false
  | .anchor a => .anchor a
  | .group p => ofPattern p
  | .seq p q => seqOf (ofPattern p) (ofPattern q)
  | .either p q => eitherOf (ofPattern p) (ofPattern q)
  | .times p least most =>
    let round := ofPattern p
    let needed (n : Nat) : Nat := if p.isVoid then min n 1 else n
    match most with
    | none => seqOf (rounds round (needed least) (needed least)) (starOf round)
    | some most => rounds round (needed least) (needed most)

/-- Whether the pattern matches nothing at all between two neighbours. -/
def nullable (before after : Option Char) : Marked → Bool
  | .empty => true
  | .anchor a => a.holds before after
  | .one _ _ => false
  | .run _ least _ _ => least == 0
  | .seq _ .always _ _ => true
  | .seq _ .never _ _ => false
  | .seq _ .depends p q => p.nullable before after && q.nullable before after
  | .either _ .always _ _ => true
  | .either _ .never _ _ => false
  | .either _ .depends p q => p.nullable before after || q.nullable before after
  | .star _ _ => true

/-- Whether the pattern can end at a mark, between two neighbours. -/
def final (before after : Option Char) : Marked → Bool
  | .empty => false
  | .anchor _ => false
  | .one _ marked => marked
  | .run _ least _ counts => counts >>> least != 0
  | .seq live _ p q =>
    live && ((p.final before after && q.nullable before after) || q.final before after)
  | .either live _ p q => live && (p.final before after || q.final before after)
  | .star live p => live && p.final before after

/-- The pattern after `c`, which follows `before`, is read, and whether it could end before `c`.  Marks
go from each place to those that may come next, and with `start` also to the first ones. -/
def shift (before : Option Char) (c : Char) (start : Bool) : Marked → Marked × Bool
  | .empty => (.empty, false)
  | .anchor a => (.anchor a, false)
  | .one set marked => (.one set (start && set.contains c.toNat), marked)
  | .run set least most counts =>
    let next :=
      if (start || counts != 0) && set.contains c.toNat then
        ((counts ||| if start then 1 else 0) <<< 1) % (1 <<< (most + 1))
      else 0
    (.run set least most next, counts >>> least != 0)
  | .seq live emptiness p q =>
    if start || live then
      let (p', pEnds) := p.shift before c start
      let (q', qEnds) := q.shift before c (pEnds || (start && p.nullable before (some c)))
      (seqOf p' q', qEnds || (pEnds && q.nullable before (some c)))
    else (.seq live emptiness p q, false)
  | .either live emptiness p q =>
    if start || live then
      let (p', pEnds) := p.shift before c start
      let (q', qEnds) := q.shift before c start
      (eitherOf p' q', pEnds || qEnds)
    else (.either live emptiness p q, false)
  | .star live p =>
    if start || live then
      let ends := p.final before (some c)
      (starOf (p.shift before c (start || ends)).1, ends)
    else (.star live p, false)

/-- Whether the pattern ends at some place of `s`, begun there or at a mark; `before` is the character
in front of `s`. -/
def search (p : Marked) (before : Option Char) : List Char → Bool
  | [] => p.final before none || p.nullable before none
  | c :: rest =>
    p.nullable before (some c) ||
      match p.shift before c true with
      | (p', ends) => ends || search p' (some c) rest

/-! ### Kept and recomputed -/

/-- What is kept of emptiness agrees with the places where the pattern matches nothing at all. -/
def Kept : Marked → Prop
  | .empty => True
  | .anchor _ => True
  | .one _ _ => True
  | .run _ _ _ _ => True
  | .seq live emptiness p q =>
    p.Kept ∧ q.Kept ∧ live = (p.live || q.live) ∧ emptiness = p.emptiness.both q.emptiness
  | .either live emptiness p q =>
    p.Kept ∧ q.Kept ∧ live = (p.live || q.live) ∧ emptiness = p.emptiness.either q.emptiness
  | .star live p => p.Kept ∧ live = p.live

theorem kept_power {p : Marked} (hp : p.Kept) (n : Nat) : (power p n).Kept := by
  induction n using Nat.strongRecOn with
  | ind n ih =>
    rw [power]
    split
    · trivial
    · split
      · exact hp
      · have half := ih (n / 2) (by omega)
        split
        · exact ⟨half, half, rfl, rfl⟩
        · exact ⟨⟨half, half, rfl, rfl⟩, hp, rfl, rfl⟩

theorem kept_rounds {p : Marked} (hp : p.Kept) (least most : Nat) : (rounds p least most).Kept := by
  have choice : (eitherOf p .empty).Kept := ⟨hp, trivial, rfl, rfl⟩
  unfold rounds
  split
  · trivial
  · exact ⟨kept_power hp _, kept_power choice _, rfl, rfl⟩

theorem kept_ofPattern (p : Pattern) : (ofPattern p).Kept := by
  fun_induction ofPattern p with
  | case1 => trivial
  | case2 => trivial
  | case3 => trivial
  | case4 p hp => exact hp
  | case5 p q hp hq => exact ⟨hp, hq, rfl, rfl⟩
  | case6 p q hp hq => exact ⟨hp, hq, rfl, rfl⟩
  | case7 p least round needed hp => exact ⟨kept_rounds hp _ _, ⟨hp, rfl⟩, rfl, rfl⟩
  | case8 p least round needed most hp => exact kept_rounds hp _ _

theorem kept_shift {p : Marked} (hp : p.Kept) (before : Option Char) (c : Char) (start : Bool) :
    (p.shift before c start).1.Kept := by
  induction p generalizing start with
  | empty => trivial
  | anchor _ => trivial
  | one _ _ => trivial
  | run _ _ _ _ => trivial
  | seq live _ p q ihp ihq =>
    rw [shift]
    split
    · exact ⟨ihp hp.1 _, ihq hp.2.1 _, rfl, rfl⟩
    · exact hp
  | either live _ p q ihp ihq =>
    rw [shift]
    split
    · exact ⟨ihp hp.1 _, ihq hp.2.1 _, rfl, rfl⟩
    · exact hp
  | star live p ih =>
    rw [shift]
    split
    · exact ⟨ih hp.1 _, rfl⟩
    · exact hp

theorem nullable_of_emptiness (p : Marked) (before after : Option Char) :
    (p.emptiness = .always → p.nullable before after = true) ∧
      (p.emptiness = .never → p.nullable before after = false) := by
  cases p with
  | empty => simp [emptiness, nullable]
  | anchor _ => simp [emptiness]
  | one _ _ => simp [emptiness, nullable]
  | run _ least _ _ => by_cases h : least = 0 <;> simp [emptiness, nullable, h]
  | seq _ e p q => cases e <;> simp [emptiness, nullable]
  | either _ e p q => cases e <;> simp [emptiness, nullable]
  | star _ _ => simp [emptiness, nullable]

/-- A sequence matches nothing at all where both parts do, also where this is not looked up in them. -/
theorem nullable_seq {live : Bool} {e : Emptiness} {p q : Marked} (h : (Marked.seq live e p q).Kept)
    (before after : Option Char) :
    (Marked.seq live e p q).nullable before after =
      (p.nullable before after && q.nullable before after) := by
  obtain ⟨-, -, -, rfl⟩ := h
  have hp := nullable_of_emptiness p before after
  have hq := nullable_of_emptiness q before after
  cases he : p.emptiness <;> cases he' : q.emptiness <;> simp_all [Emptiness.both, nullable]

theorem nullable_either {live : Bool} {e : Emptiness} {p q : Marked}
    (h : (Marked.either live e p q).Kept) (before after : Option Char) :
    (Marked.either live e p q).nullable before after =
      (p.nullable before after || q.nullable before after) := by
  obtain ⟨-, -, -, rfl⟩ := h
  have hp := nullable_of_emptiness p before after
  have hq := nullable_of_emptiness q before after
  cases he : p.emptiness <;> cases he' : q.emptiness <;> simp_all [Emptiness.either, nullable]

end Marked

end Changelog.Pattern

namespace Changelog

def Pattern.found (p : Pattern) (text : String) : Bool :=
  (Pattern.Marked.ofPattern p).search none text.toList

end Changelog
