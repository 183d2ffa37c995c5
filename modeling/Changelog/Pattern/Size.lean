import Changelog.Pattern.Basic

/-!
# The size of patterns

The size of a pattern is what an automaton for it takes up that reads the bytes of a text in UTF-8,
forwards or backwards.  It grows with every round of a repetition, so that a short text can write a
pattern of any size; patterns beyond a limit are refused.
-/

namespace Changelog.Pattern

open Changelog.Text (CodePoints)

/-- The sequences of byte ranges that `n` continuation bytes and the byte in front of them run through
from `first` to `last`.  `lead` is added to the byte in front. -/
def byteRanges (lead : Nat) : Nat → Nat → Nat → List (List (Nat × Nat))
  | 0, first, last => [[(lead + first, lead + last)]]
  | n + 1, first, last =>
    let block := 1 <<< (6 * (n + 1))
    let low := first / block
    let high := last / block
    let within (top from' upTo : Nat) : List (List (Nat × Nat)) :=
      (byteRanges 0x80 n from' upTo).map ((lead + top, lead + top) :: ·)
    if low = high then within low (first % block) (last % block)
    else
      let cutsLow := first % block ≠ 0
      let cutsHigh := last % block ≠ block - 1
      let start := if cutsLow then low + 1 else low
      let stop := if cutsHigh then high else high + 1
      (if cutsLow then within low (first % block) (block - 1) else []) ++
        (if start < stop then
          (byteRanges 0x80 n 0 (block - 1)).map ((lead + start, lead + stop - 1) :: ·) else []) ++
        (if cutsHigh then within high 0 (last % block) else [])

/-- The code points by the number of their continuation bytes: that number, the byte in front without
its payload, and the range. -/
def encodedBlocks : List (Nat × Nat × Nat × Nat) :=
  [(0, 0, 0, 0x7f), (1, 0xc0, 0x80, 0x7ff), (2, 0xe0, 0x800, 0xd7ff), (2, 0xe0, 0xe000, 0xffff),
   (3, 0xf0, 0x10000, 0x10ffff)]

def encodings (set : CodePoints) : List (List (Nat × Nat)) :=
  set.flatMap fun r =>
    encodedBlocks.flatMap fun (n, lead, first, last) =>
      let low := max r.1 first
      let high := min r.2 last
      if low ≤ high then byteRanges lead n low high else []

def sharedStart : List (Nat × Nat) → List (Nat × Nat) → Nat
  | r :: rest, s :: rest' => if r = s then sharedStart rest rest' + 1 else 0
  | _, _ => 0

/-- How many ranges are left of sequences, each joined to the one before it as far as they agree. -/
def joinedRanges (previous : List (Nat × Nat)) : List (List (Nat × Nat)) → Nat
  | [] => 0
  | s :: rest => s.length - sharedStart previous s + joinedRanges s rest

def stateSize : Nat := 32

def rangeSize : Nat := 8

def branchSize : Nat := 4

def forkSize : Nat := stateSize + 2 * branchSize

/-- The size of a set of characters.  Forwards the ranges with the same start are kept in one state,
backwards each range has a state of its own. -/
def setSize (forwards : Bool) (set : CodePoints) : Nat :=
  if set.isEmpty then stateSize
  else if set.count = 1 then (encodings set).flatten.length * stateSize
  else if set.all (·.2 < 128) then 2 * stateSize + set.length * rangeSize
  else
    let sequences := encodings set
    let ranges := joinedRanges [] sequences
    if forwards then (ranges + 2 - sequences.length) * stateSize + ranges * rangeSize
    else (ranges + 2) * stateSize + sequences.length * branchSize

/-- Whether the pattern matches no empty text, wherever it is tried. -/
def isSolid : Pattern → Bool
  | .empty => false
  | .one set => !set.isEmpty
  | .anchor _ => false
  | .group p => p.isSolid
  | .seq p q => p.isSolid || q.isSolid
  | .either p q => p.isSolid && q.isSolid
  | .times p least _ => 0 < least && p.isSolid

def isBlank : Pattern → Bool
  | .empty => true
  | .seq p q => p.isBlank && q.isBlank
  | .times _ _ (some 0) => true
  | _ => false

/-- The size of a repetition of a pattern of size `round`.  Rounds that may be left out have a fork
each. -/
def roundsSize (round : Nat) (solid : Bool) (least : Nat) : Option Nat → Nat
  | none =>
    if least = 0 then (if solid then round + forkSize else round + 2 * forkSize + stateSize)
    else least * round + forkSize
  | some most =>
    if most = 0 then stateSize
    else if least = most then least * round
    else if most = 1 then round + forkSize + stateSize
    else
      (if least = 0 then stateSize else least * round) + stateSize +
        (most - least) * (round + forkSize)

/-- What a pattern takes up: something of a size, or a choice among branches, which is a single set if
the branches are all single characters. -/
inductive Extent
  | piece (size : Nat)
  | choice (branches : Nat) (set : Option CodePoints)

namespace Extent

def ofSet (forwards : Bool) (set : CodePoints) : Extent :=
  .choice (setSize forwards set + branchSize) (some set)

def size (forwards : Bool) : Extent → Nat
  | .piece size => size
  | .choice _ (some set) => setSize forwards set
  | .choice branches none => 2 * stateSize + branches

def branches : Extent → Nat
  | .piece size => size + branchSize
  | .choice branches _ => branches

def set? : Extent → Option CodePoints
  | .piece _ => none
  | .choice _ set => set

def either (a b : Extent) : Extent :=
  .choice (a.branches + b.branches)
    (match a.set?, b.set? with
    | some x, some y => some (x.union y)
    | _, _ => none)

end Extent

/-- The extent of a pattern.  Forwards the ends of groups are kept. -/
def extent (forwards : Bool) : Pattern → Extent
  | .empty => .piece stateSize
  | .one set => .ofSet forwards set
  | .anchor _ => .piece stateSize
  | .group p =>
    .piece ((p.extent forwards).size forwards + if forwards then 2 * stateSize else 0)
  | .seq p q =>
    if p.isBlank then q.extent forwards
    else if q.isBlank then p.extent forwards
    else .piece ((p.extent forwards).size forwards + (q.extent forwards).size forwards)
  | .either p q => (p.extent forwards).either (q.extent forwards)
  | .times p least most =>
    let round := (p.extent forwards).size forwards
    .piece
      (if p.isVoid then roundsSize round p.isSolid (min least 1) (some (min (most.getD 1) 1))
       else roundsSize round p.isSolid least most)

/-- The size of a whole pattern: it may start at any byte and ends in a state of its own. -/
def size (forwards : Bool) (p : Pattern) : Nat :=
  let start := forkSize + 2 * stateSize + rangeSize
  let whole := if forwards then .group p else p
  start + (extent forwards whole).size forwards + stateSize

def sizeLimit : Nat := 10485760

def isTooLarge (p : Pattern) : Bool := sizeLimit < p.size true || sizeLimit < p.size false

end Changelog.Pattern
