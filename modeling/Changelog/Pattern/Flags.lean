import Changelog.Text.Blank
import Changelog.Text.CaseFolding

/-!
# Flags of patterns

The flags say how the written form of a pattern is to be understood: which variants its characters have,
and what white space means.
-/

namespace Changelog.Pattern

open Changelog.Text (CodePoints)

structure Flags where
  ignoreCase : Bool
  multiLine : Bool
  dotAll : Bool
  crlf : Bool
  unicode : Bool
  ignoreSpace : Bool

def Flags.initial : Flags := ⟨false, false, false, false, true, false⟩

def Flags.set? (flags : Flags) (flag : Char) (value : Bool) : Option Flags :=
  if flag = 'i' then some { flags with ignoreCase := value }
  else if flag = 'm' then some { flags with multiLine := value }
  else if flag = 's' then some { flags with dotAll := value }
  else if flag = 'R' then some { flags with crlf := value }
  else if flag = 'u' then some { flags with unicode := value }
  else if flag = 'x' then some { flags with ignoreSpace := value }
  else if flag = 'U' then some flags
  else none

def Flags.foldCase (flags : Flags) (set : CodePoints) : CodePoints :=
  if flags.ignoreCase then (if flags.unicode then set.withCaseVariants else set.withAsciiCaseVariants)
  else set

/-- A set with its case variants and its complement taken.  Where sets of bytes are meant, the
complement is one of bytes, and nothing beyond ASCII may remain, for a lone byte is no character. -/
def Flags.finish? (flags : Flags) (negated : Bool) (set : CodePoints) : Option CodePoints :=
  let folded := flags.foldCase set
  if flags.unicode then some (if negated then folded.complement else folded)
  else
    let bytes := if negated then folded.complement.inter [(0, 0xff)] else folded
    if bytes.all (·.2 < 128) then some bytes else none

def afterComment (s : List Char) : List Char := (s.dropWhile (· != '\n')).drop 1

/-- The text after white space and comments; at most `fuel` characters and comments are skipped. -/
def skipIgnored (fuel : Nat) (s : List Char) : List Char :=
  match fuel, s with
  | fuel + 1, c :: rest =>
    if Text.isBlank c then skipIgnored fuel rest
    else if c = '#' then skipIgnored fuel (afterComment rest)
    else c :: rest
  | _, s => s

def Flags.skip (flags : Flags) (s : List Char) : List Char :=
  if flags.ignoreSpace then skipIgnored s.length s else s

/-- The character that comes next, as far as a class in brackets looks ahead.  Where white space is
ignored, a comment is looked through as if it had no end; if nothing else is left, white space comes
next. -/
def Flags.lookAhead (flags : Flags) (s : List Char) : Option Char :=
  if flags.ignoreSpace then
    let next :=
      match s.dropWhile Text.isBlank with
      | '#' :: comment => comment.dropWhile Text.isBlank
      | next => next
    next.head? <|> s.head?
  else s.head?

end Changelog.Pattern
