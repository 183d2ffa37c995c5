import Changelog.Pattern.Bracket
import Changelog.Pattern.Error
import Changelog.Pattern.Size

/-!
# Reading patterns

The written form of patterns: alternatives, groups, repetitions, classes in brackets, escapes and flags.
`read` gives the pattern that a text writes, or says why there is none.
-/

namespace Changelog.Pattern

open Changelog.Text (CodePoints isAsciiDigit)

/-- The value of decimal digits with white space around them, and what follows; a count fits 32 bits. -/
def count? (flags : Flags) (s : List Char) : Option Nat × List Char :=
  let start := s.dropWhile Text.isBlank
  let rec digits (fuel : Nat) (s : List Char) : List Char × List Char :=
    match fuel, s with
    | fuel + 1, c :: rest =>
      if isAsciiDigit c then
        let (ds, after) := digits fuel (flags.skip rest)
        (c :: ds, after)
      else ([], c :: rest)
    | _, s => ([], s)
  let (ds, after) := digits start.length start
  let value := ds.foldl (fun n c => 10 * n + (c.toNat - 48)) 0
  (if ds = [] ∨ 0x100000000 ≤ value then none else some value, flags.skip (after.dropWhile Text.isBlank))

def bounds? (flags : Flags) (s : List Char) : Option ((Nat × Option Nat) × List Char) := do
  let (least, rest) := count? flags (flags.skip s)
  match rest with
  | ',' :: rest =>
    match flags.skip rest with
    | '\x7d' :: after => do
      let n ← least
      some ((n, none), after)
    | rest => do
      let n ← least
      let (most, rest) := count? flags rest
      let m ← most
      match rest with
      | '\x7d' :: after => if n ≤ m then some ((n, some m), after) else none
      | _ => none
  | '\x7d' :: after => do
    let n ← least
    some ((n, some n), after)
  | _ => none

def afterLazyMark : List Char → List Char
  | '?' :: rest => rest
  | s => s

def isGroupNameChar (first : Bool) (c : Char) : Bool :=
  c == '_' ||
    (if first then Text.isAlphabetic c
     else c == '.' || c == '[' || c == ']' || Text.isAlphanumeric c)

def groupName? (s : List Char) : Option (String × List Char) :=
  let name := s.takeWhile (· != '>')
  match name, s.dropWhile (· != '>') with
  | c :: rest, _ :: after =>
    if isGroupNameChar true c && rest.all (isGroupNameChar false) then
      some (String.ofList name, after)
    else none
  | _, _ => none

/-- The flags up to `:` or `)`, read in order.  A flag may be named once, and a `-` has to be followed
by a flag. -/
def flagList? (flags : Flags) (seen : List Char) (negated dangling : Bool) :
    List Char → Option (Flags × List Char)
  | [] => none
  | c :: rest =>
    if c = ':' ∨ c = ')' then (if dangling then none else some (flags, c :: rest))
    else if c = '-' then
      if negated then none else flagList? flags seen true true rest
    else if seen.contains c then none
    else
      match flags.set? c (!negated) with
      | some flags => flagList? flags (c :: seen) negated false rest
      | none => none

/-- What an opening parenthesis begins: a group that is remembered, perhaps by a name, one that is not,
or nothing but a change of flags. -/
inductive Opening
  | group (name : Option String)
  | plain (flags : Flags)
  | flags (flags : Flags)

def opening? (flags : Flags) (s : List Char) : Option (Opening × List Char) :=
  match flags.skip s with
  | '?' :: '=' :: _ => none
  | '?' :: '!' :: _ => none
  | '?' :: '<' :: '=' :: _ => none
  | '?' :: '<' :: '!' :: _ => none
  | '?' :: 'P' :: '<' :: rest => (groupName? rest).map fun p => (.group (some p.1), p.2)
  | '?' :: '<' :: rest => (groupName? rest).map fun p => (.group (some p.1), p.2)
  | '?' :: ')' :: _ => none
  | '?' :: rest =>
    match flagList? flags [] false false rest with
    | some (inner, ':' :: after) => some (.plain inner, after)
    | some (inner, _ :: after) => some (.flags inner, after)
    | _ => none
  | rest => some (.group none, rest)

/-- A part of a pattern with the number of levels that are nested in it.  A change of flags is a part
without a pattern. -/
structure Item where
  pattern : Option Pattern
  depth : Nat

namespace Item

/-- How deep the deepest of some parts is; several parts are a level of their own. -/
def depthOf (items : List Item) : Nat :=
  let deepest := (items.map depth).foldl max 0
  if items.length < 2 then deepest else deepest + 1

def seqOf (items : List Item) : Item := ⟨some (seqAll (items.filterMap pattern)), depthOf items⟩

def eitherOf (items : List Item) : Item := ⟨some (eitherAll (items.filterMap pattern)), depthOf items⟩

end Item

/-- A group that is open: whether it is remembered, what stands before it, and the flags there. -/
structure Frame where
  remembered : Bool
  flags : Flags
  alternatives : List Item
  items : List Item

/-- How far a pattern is read.  Alternatives and items are kept with the last one first. -/
structure State where
  flags : Flags
  alternatives : List Item
  items : List Item
  frames : List Frame
  names : List String

namespace State

def initial : State := ⟨.initial, [], [], [], []⟩

def current (st : State) : Item := .seqOf st.items.reverse

def whole (st : State) : Item := .eitherOf (st.current :: st.alternatives).reverse

def add (st : State) (p : Pattern) (depth : Nat) : State :=
  { st with items := ⟨some p, depth⟩ :: st.items }

/-- The state with the last item repeated; a change of flags cannot be. -/
def repeatLast? (st : State) (least : Nat) (most : Option Nat) : Option State :=
  match st.items with
  | ⟨some p, depth⟩ :: rest =>
    some { st with items := ⟨some (.times p least most), depth + 1⟩ :: rest }
  | _ => none

def enter (st : State) (flags : Flags) (remembered : Bool) : State :=
  { st with
    flags := flags
    alternatives := []
    items := []
    frames := ⟨remembered, st.flags, st.alternatives, st.items⟩ :: st.frames }

def open? (st : State) : Opening → Option State
  | .flags flags => some { st with flags := flags, items := ⟨none, 0⟩ :: st.items }
  | .plain flags => some (st.enter flags false)
  | .group none => some (st.enter st.flags true)
  | .group (some name) =>
    if st.names.contains name then none
    else some { st.enter st.flags true with names := name :: st.names }

def close? (st : State) : Option State :=
  match st.frames with
  | [] => none
  | frame :: frames =>
    let inner := st.whole
    let p := if frame.remembered then inner.pattern.map Pattern.group else inner.pattern
    some
      { st with
        flags := frame.flags
        alternatives := frame.alternatives
        items := ⟨p, inner.depth + 1⟩ :: frame.items
        frames := frames }

end State

def Piece.pattern? (flags : Flags) : Piece → Option Pattern
  | .char c byte =>
    if byte && !flags.unicode && 128 ≤ c.toNat then none
    else some (.one (flags.foldCase (.single c.toNat)))
  | .set a => some (.one a)
  | .anchor a => some (.anchor a)

/-- What a dot stands for; it is known for characters only. -/
def dot? (flags : Flags) : Option Pattern :=
  if !flags.unicode then none
  else if flags.dotAll then some (.one .full)
  else if flags.crlf then some (.one (CodePoints.ofText "a d").complement)
  else some (.one (CodePoints.single 0xa).complement)

def startAnchor (flags : Flags) : Anchor :=
  if flags.multiLine then (if flags.crlf then .lineStartCrlf else .lineStart) else .textStart

def endAnchor (flags : Flags) : Anchor :=
  if flags.multiLine then (if flags.crlf then .lineEndCrlf else .lineEnd) else .textEnd

def step? (st : State) (c : Char) (rest : List Char) : Option (State × List Char) :=
  if c = '(' then do
    let (opening, after) ← opening? st.flags rest
    let st ← st.open? opening
    some (st, after)
  else if c = ')' then st.close?.map fun st => (st, rest)
  else if c = '|' then
    some ({ st with alternatives := st.current :: st.alternatives, items := [] }, rest)
  else if c = '[' then do
    let (inner, after) ← bracket? st.flags (2 * rest.length + 2) rest
    some (st.add (.one inner.set) inner.depth, after)
  else if c = '?' then (st.repeatLast? 0 (some 1)).map fun st => (st, afterLazyMark rest)
  else if c = '*' then (st.repeatLast? 0 none).map fun st => (st, afterLazyMark rest)
  else if c = '+' then (st.repeatLast? 1 none).map fun st => (st, afterLazyMark rest)
  else if c = '\x7b' then do
    let ((least, most), after) ← bounds? st.flags rest
    let st ← st.repeatLast? least most
    some (st, afterLazyMark (st.flags.skip after))
  else if c = '\\' then do
    let (piece, after) ← escape? st.flags rest
    let p ← piece.pattern? st.flags
    some (st.add p 0, after)
  else if c = '.' then (dot? st.flags).map fun p => (st.add p 0, rest)
  else if c = '^' then some (st.add (.anchor (startAnchor st.flags)) 0, rest)
  else if c = '$' then some (st.add (.anchor (endAnchor st.flags)) 0, rest)
  else some (st.add (.one (st.flags.foldCase (.single c.toNat))) 0, rest)

def depthLimit : Nat := 250

def readFrom? (fuel : Nat) (st : State) (s : List Char) : Option Pattern :=
  match st.flags.skip s with
  | [] => if st.frames.isEmpty ∧ st.whole.depth ≤ depthLimit then st.whole.pattern else none
  | c :: rest =>
    match fuel with
    | 0 => none
    | fuel + 1 =>
      match step? st c rest with
      | some (st, after) => readFrom? fuel st after
      | none => none

def read (text : String) : Except PatternError Pattern :=
  match readFrom? text.length .initial text.toList with
  | none => .error .malformed
  | some p => if p.isTooLarge then .error .tooLarge else .ok p

end Changelog.Pattern
