import Changelog.Pattern.Escape

namespace Changelog.Pattern

open Changelog.Text (CodePoints)

def asciiClasses : List (String × List (Char × Char)) :=
  [("alnum", [('0', '9'), ('A', 'Z'), ('a', 'z')]),
   ("alpha", [('A', 'Z'), ('a', 'z')]),
   ("ascii", [('\x00', '\x7f')]),
   ("blank", [('\t', '\t'), (' ', ' ')]),
   ("cntrl", [('\x00', '\x1f'), ('\x7f', '\x7f')]),
   ("digit", [('0', '9')]),
   ("graph", [('!', '~')]),
   ("lower", [('a', 'z')]),
   ("print", [(' ', '~')]),
   ("punct", [('!', '/'), (':', '@'), ('[', '\x60'), ('\x7b', '~')]),
   ("space", [('\t', '\r'), (' ', ' ')]),
   ("upper", [('A', 'Z')]),
   ("word", [('0', '9'), ('A', 'Z'), ('_', '_'), ('a', 'z')]),
   ("xdigit", [('0', '9'), ('A', 'F'), ('a', 'f')])]

def charRange (first last : Char) : CodePoints := [(first.toNat, last.toNat)]

/-- The class that a name between colons asks for, and what follows it, if the text after `[` begins
with such a name.  The class itself is missing if its complement reaches beyond ASCII where bytes are
meant. -/
def asciiClass? (flags : Flags) (s : List Char) : Option (Option CodePoints × List Char) :=
  match s with
  | ':' :: rest => do
    let negated := rest.head? = some '^'
    let body := if negated then rest.drop 1 else rest
    let name := String.ofList (body.takeWhile (· != ':'))
    match body.dropWhile (· != ':') with
    | ':' :: ']' :: after => do
      let entry ← asciiClasses.find? (·.1 == name)
      let set := CodePoints.unionAll (entry.2.map fun r => charRange r.1 r.2)
      some (flags.finish? negated set, after)
    | _ => none
  | _ => none

def Piece.set? (flags : Flags) : Piece → Option CodePoints
  | .char c byte => if flags.unicode || c.toNat < 128 || byte then some (.single c.toNat) else none
  | .set a => some a
  | .anchor _ => none

/-- A piece as one end of a range. -/
def Piece.bound? (flags : Flags) : Piece → Option Char
  | .char c byte => if flags.unicode || c.toNat < 128 || byte then some c else none
  | _ => none

def classPiece? (flags : Flags) (s : List Char) : Option (Piece × List Char) :=
  match s with
  | [] => none
  | '\\' :: rest => escape? flags rest
  | c :: rest => some (.char c false, rest)

/-- A piece of a class or a range between two of them.  A hyphen at the end of a class, or before
another hyphen, makes no range. -/
def classRange? (flags : Flags) (s : List Char) : Option (CodePoints × List Char) := do
  let (first, rest) ← classPiece? flags s
  match flags.skip rest with
  | [] => none
  | '-' :: tail =>
    let next := flags.lookAhead tail
    if next = some ']' ∨ next = some '-' then (first.set? flags).map fun a => (a, '-' :: tail)
    else do
      let (last, after) ← classPiece? flags (flags.skip tail)
      let low ← first.bound? flags
      let high ← last.bound? flags
      if low ≤ high then some (charRange low high, after) else none
  | rest => (first.set? flags).map fun a => (a, rest)

inductive ClassOp
  | inter
  | diff
  | symmDiff

def ClassOp.apply (flags : Flags) (op : ClassOp) (a b : CodePoints) : CodePoints :=
  match op with
  | .inter => (flags.foldCase a).inter (flags.foldCase b)
  | .diff => (flags.foldCase a).diff (flags.foldCase b)
  | .symmDiff => (flags.foldCase a).symmDiff (flags.foldCase b)

def classOp? : List Char → Option (ClassOp × List Char)
  | '&' :: '&' :: rest => some (.inter, rest)
  | '-' :: '-' :: rest => some (.diff, rest)
  | '~' :: '~' :: rest => some (.symmDiff, rest)
  | _ => none

def leadingHyphens (flags : Flags) (fuel : Nat) (s : List Char) : Nat × List Char :=
  match fuel, s with
  | fuel + 1, '-' :: rest =>
    let (n, after) := leadingHyphens flags fuel (flags.skip rest)
    (n + 1, after)
  | _, s => (0, s)

/-- A class, or a part of one, with the number of levels that are nested in it. -/
structure NestedSet where
  set : CodePoints
  depth : Nat

/-- The items of a class that stand between two operations: their union, their number, and the levels
nested in the deepest of them. -/
structure ClassPart where
  set : CodePoints
  items : Nat
  depth : Nat

namespace ClassPart

def empty : ClassPart := ⟨[], 0, 0⟩

def add (part : ClassPart) (item : NestedSet) : ClassPart :=
  ⟨part.set.union item.set, part.items + 1, max part.depth item.depth⟩

/-- The part as a whole; several items are a level of their own. -/
def whole (part : ClassPart) : NestedSet :=
  ⟨part.set, if part.items < 2 then part.depth else part.depth + 1⟩

end ClassPart

/-- What an operation that waits for its right side makes of that. -/
def joinParts (flags : Flags) (pending : Option (ClassOp × NestedSet)) (right : NestedSet) :
    NestedSet :=
  match pending with
  | none => right
  | some (op, left) => ⟨op.apply flags left.set right.set, max left.depth right.depth + 1⟩

mutual

def bracket? (flags : Flags) (fuel : Nat) (s : List Char) : Option (NestedSet × List Char) :=
  match fuel with
  | 0 => none
  | fuel + 1 =>
    let start := flags.skip s
    let negated := start.head? = some '^'
    let body := if negated then flags.skip (start.drop 1) else start
    let (hyphens, rest) := leadingHyphens flags fuel body
    let part : ClassPart := if hyphens = 0 then .empty else ⟨.single 0x2d, hyphens, 0⟩
    match hyphens, rest with
    | _, [] => none
    | 0, ']' :: tail =>
      bracketItems? flags fuel negated none (part.add ⟨.single 0x5d, 0⟩) (flags.skip tail)
    | _, rest => bracketItems? flags fuel negated none part rest

/-- The rest of a class: `pending` is an operation that waits for its right side, and `part` what has
been read of that side. -/
def bracketItems? (flags : Flags) (fuel : Nat) (negated : Bool)
    (pending : Option (ClassOp × NestedSet)) (part : ClassPart) (s : List Char) :
    Option (NestedSet × List Char) :=
  match fuel with
  | 0 => none
  | fuel + 1 =>
    match flags.skip s with
    | [] => none
    | ']' :: rest => do
      let joined := joinParts flags pending part.whole
      let set ← flags.finish? negated joined.set
      some (⟨set, joined.depth + 1⟩, rest)
    | '[' :: rest =>
      match asciiClass? flags rest with
      | some (named, after) => do
        let set ← named
        bracketItems? flags fuel negated pending (part.add ⟨set, 0⟩) after
      | none => do
        let (inner, after) ← bracket? flags fuel rest
        bracketItems? flags fuel negated pending (part.add inner) after
    | s =>
      match classOp? s with
      | some (op, rest) =>
        bracketItems? flags fuel negated (some (op, joinParts flags pending part.whole)) .empty rest
      | none => do
        let (item, after) ← classRange? flags s
        bracketItems? flags fuel negated pending (part.add ⟨item, 0⟩) after

end

end Changelog.Pattern
