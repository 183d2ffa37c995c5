import Changelog.Pattern.Basic
import Changelog.Pattern.Flags
import Changelog.Pattern.Property

namespace Changelog.Pattern

open Changelog.Text (CodePoints isAsciiDigit hexDigit? hexValue)

/-- What a single piece of a pattern is: a character (perhaps written as a byte), a set of characters,
or a condition. -/
inductive Piece
  | char (c : Char) (byte : Bool)
  | set (a : CodePoints)
  | anchor (a : Anchor)

def isMeta (c : Char) : Bool := "\\.+*?()|[]\x7b\x7d^$#&-~".toList.contains c

/-- The characters that may stand after a backslash for themselves. -/
def standsForItself (c : Char) : Bool :=
  isMeta c ||
    (c.toNat < 128 && !Text.isAsciiLetter c && !isAsciiDigit c && c != '<' && c != '>')

def charOfNat? (n : Nat) : Option Char := if n.isValidChar then some (Char.ofNat n) else none

def hexDigits? (flags : Flags) : Nat → List Char → Option (List Char × List Char)
  | 0, s => some ([], s)
  | 1, c :: rest => if (hexDigit? c).isSome then some ([c], flags.skip rest) else none
  | count + 1, c :: rest =>
    if (hexDigit? c).isSome then
      (hexDigits? flags count (flags.skip rest)).map fun p => (c :: p.1, p.2)
    else none
  | _ + 1, [] => none

def bracedHex? (flags : Flags) (fuel : Nat) (s : List Char) : Option (List Char × List Char) :=
  match fuel, flags.skip s with
  | fuel + 1, c :: rest =>
    if c = '\x7d' then some ([], flags.skip rest)
    else if (hexDigit? c).isSome then (bracedHex? flags fuel rest).map fun p => (c :: p.1, p.2)
    else none
  | _, _ => none

def hexEscape? (flags : Flags) (kind : Char) (s : List Char) : Option (Piece × List Char) :=
  match flags.skip s with
  | '\x7b' :: rest => do
    let (digits, after) ← bracedHex? flags rest.length rest
    if digits = [] then none
    else
      let c ← charOfNat? (hexValue digits)
      some (.char c false, after)
  | s => do
    let count := if kind = 'x' then 2 else if kind = 'u' then 4 else 8
    let (digits, after) ← hexDigits? flags count s
    let c ← charOfNat? (hexValue digits)
    some (.char c (kind = 'x'), after)

def splitAt? (sep : List Char) : List Char → Option (List Char × List Char)
  | [] => if sep = [] then some ([], []) else none
  | c :: rest =>
    if sep.isPrefixOf (c :: rest) then some ([], (c :: rest).drop sep.length)
    else (splitAt? sep rest).map fun p => (c :: p.1, p.2)

/-- The set that stands between the braces of a property escape, and whether its complement is meant. -/
def bracedProperty? (text : List Char) (negated : Bool) : Option (CodePoints × Bool) :=
  match splitAt? ['!', '='] text with
  | some (name, value) => (propertyValue? name value).map fun set => (set, !negated)
  | none =>
    match splitAt? [':'] text <|> splitAt? ['='] text with
    | some (name, value) => (propertyValue? name value).map fun set => (set, negated)
    | none => (propertyNamed? text).map fun set => (set, negated)

/-- The characters up to a closing brace, without ignored ones, and what follows it. -/
def bracedText? (flags : Flags) (fuel : Nat) (s : List Char) : Option (List Char × List Char) :=
  match fuel, flags.skip s with
  | fuel + 1, c :: rest =>
    if c = '\x7d' then some ([], rest)
    else (bracedText? flags fuel rest).map fun p => (c :: p.1, p.2)
  | _, _ => none

/-- The set that a property escape asks for; properties are of characters, not of bytes. -/
def propertyEscape? (flags : Flags) (negated : Bool) (s : List Char) :
    Option (Piece × List Char) :=
  if !flags.unicode then none
  else
    match flags.skip s with
    | '\x7b' :: rest => do
      let (text, after) ← bracedText? flags rest.length rest
      let (set, negated) ← bracedProperty? text negated
      let whole ← flags.finish? negated set
      some (.set whole, after)
    | c :: rest =>
      if c = '\\' then none
      else do
        let set ← propertyNamed? [c]
        let whole ← flags.finish? negated set
        some (.set whole, flags.skip rest)
    | [] => none

/-- The set that `d`, `s` or `w` asks for, or in upper case its complement, which is no set of
characters where bytes are meant. -/
def shorthand? (flags : Flags) (c : Char) : Option CodePoints :=
  let negated := c.toLower != c
  let set :=
    if c.toLower = 'd' then Text.GeneralCategory.decimalNumber.ranges
    else if c.toLower = 's' then Text.blankRanges
    else Text.wordCharacters
  if flags.unicode then some (if negated then set.complement else set)
  else if negated then none
  else some (set.inter .ascii)

def boundaryName? (flags : Flags) (fuel : Nat) (s : List Char) : Option (List Char × List Char) :=
  match fuel, s with
  | fuel + 1, c :: rest =>
    if c = '\x7d' then some ([], rest)
    else if Text.isAsciiLetter c || c = '-' then
      (boundaryName? flags fuel (flags.skip rest)).map fun p => (c :: p.1, p.2)
    else none
  | _, _ => none

def wordBoundary? (flags : Flags) (s : List Char) : Option (Piece × List Char) :=
  let ascii := !flags.unicode
  match s with
  | '\x7b' :: rest =>
    match flags.skip rest with
    | [] => none
    | c :: inside =>
      if Text.isAsciiLetter c || c = '-' then do
        let (name, after) ← boundaryName? flags (inside.length + 1) (c :: inside)
        let kind := String.ofList name
        if kind = "start" then some (.anchor (.wordStart ascii), after)
        else if kind = "end" then some (.anchor (.wordEnd ascii), after)
        else if kind = "start-half" then some (.anchor (.wordStartHalf ascii), after)
        else if kind = "end-half" then some (.anchor (.wordEndHalf ascii), after)
        else none
      else some (.anchor (.wordBoundary ascii), s)
  | _ => some (.anchor (.wordBoundary ascii), s)

def escape? (flags : Flags) (s : List Char) : Option (Piece × List Char) :=
  match s with
  | [] => none
  | c :: rest =>
    if c = 'x' ∨ c = 'u' ∨ c = 'U' then hexEscape? flags c rest
    else if c = 'p' ∨ c = 'P' then propertyEscape? flags (c = 'P') rest
    else if "dswDSW".toList.contains c then (shorthand? flags c).map fun set => (.set set, rest)
    else if standsForItself c then some (.char c false, rest)
    else if c = 'a' then some (.char (Char.ofNat 7) false, rest)
    else if c = 'f' then some (.char (Char.ofNat 12) false, rest)
    else if c = 't' then some (.char '\t' false, rest)
    else if c = 'n' then some (.char '\n' false, rest)
    else if c = 'r' then some (.char '\r' false, rest)
    else if c = 'v' then some (.char (Char.ofNat 11) false, rest)
    else if c = 'A' then some (.anchor .textStart, rest)
    else if c = 'z' then some (.anchor .textEnd, rest)
    else if c = 'b' then wordBoundary? flags rest
    else if c = 'B' then some (.anchor (.notWordBoundary (!flags.unicode)), rest)
    else if c = '<' then some (.anchor (.wordStart (!flags.unicode)), rest)
    else if c = '>' then some (.anchor (.wordEnd (!flags.unicode)), rest)
    else none

end Changelog.Pattern
