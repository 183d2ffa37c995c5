import Changelog.Text.Alphabet
import Changelog.Text.CodePoints
import Changelog.Toml.Basic

/-!
# TOML strings, keys and blanks

Strings stand between quotes or apostrophes, three of them if they go over several lines; between quotes
there may be escapes.
-/

namespace Changelog.Toml

def isControl (c : Char) : Bool := (c.toNat < 32 && c != '\t') || c.toNat == 127

def skipSpaces (s : List Char) : List Char := s.dropWhile fun c => c == ' ' || c == '\t'

/-- The text without white space, line ends and comments at its start; none if a comment or a line end
is malformed. -/
def skipBlanks (inComment : Bool) : List Char → Option (List Char)
  | [] => some []
  | '\n' :: rest => skipBlanks false rest
  | '\r' :: '\n' :: rest => skipBlanks false rest
  | c :: rest =>
    if inComment then if isControl c then none else skipBlanks true rest
    else if c = '#' then skipBlanks true rest
    else if c = ' ' ∨ c = '\t' then skipBlanks false rest
    else some (c :: rest)

def endLine? (s : List Char) : Option (List Char) :=
  match skipSpaces s with
  | [] => some []
  | '\n' :: rest => some rest
  | '\r' :: '\n' :: rest => some rest
  | '#' :: rest => skipBlanks true rest
  | _ => none

/-- A way to write strings: the mark on both sides, whether there are escapes in between, and whether
the mark is threefold and lines may end in between. -/
structure Quoting where
  mark : Char
  escapes : Bool
  long : Bool

/-- The end of a string at the start of a text: the marks that still belong to the string, and the text
after it. -/
def closing? (q : Quoting) (s : List Char) : Option (List Char × List Char) :=
  let marks := (s.takeWhile (· == q.mark)).length
  if q.long then
    if marks < 3 then none
    else
      let count := min marks 5
      some (List.replicate (count - 3) q.mark, s.drop count)
  else if marks = 0 then none
  else some ([], s.drop 1)

def letterEscape? : Char → Option Char
  | 'b' => some '\x08'
  | 't' => some '\t'
  | 'n' => some '\n'
  | 'f' => some '\x0c'
  | 'r' => some '\r'
  | 'e' => some '\x1b'
  | '"' => some '"'
  | '\\' => some '\\'
  | _ => none

/-- How many hexadecimal digits follow a letter after a backslash. -/
def codeWidth? : Char → Option Nat
  | 'x' => some 2
  | 'u' => some 4
  | 'U' => some 8
  | _ => none

def charOf? (digits : List Char) : Option Char :=
  if digits.all fun c => (Text.hexDigit? c).isSome then
    let n := Text.hexValue digits
    if n.isValidChar then some (Char.ofNat n) else none
  else none

/-- The length of a line end with the white space around it, if the text begins with one. -/
def lineBreakLength? (s : List Char) : Option Nat :=
  match skipSpaces s with
  | '\n' :: _ => some (s.takeWhile fun c => c == ' ' || c == '\t' || c == '\n' || c == '\r').length
  | '\r' :: '\n' :: _ =>
    some (s.takeWhile fun c => c == ' ' || c == '\t' || c == '\n' || c == '\r').length
  | _ => none

/-- What the text after a backslash stands for, and how much of it does. -/
def escape? (long : Bool) (s : List Char) : Option (List Char × Nat) :=
  match (if long then lineBreakLength? s else none), s with
  | some n, _ => some ([], n)
  | none, [] => none
  | none, c :: rest =>
    match letterEscape? c, codeWidth? c with
    | some x, _ => some ([x], 1)
    | none, some n =>
      if (rest.take n).length = n then (charOf? (rest.take n)).map fun x => ([x], n + 1) else none
    | none, none => none

/-- Whether a character may stand in a string as it is; a carriage return only before a line feed. -/
def stands (q : Quoting) (c : Char) (rest : List Char) : Bool :=
  !isControl c || (q.long && (c == '\n' || (c == '\r' && rest.head? == some '\n')))

def quotedText? (q : Quoting) (s : List Char) : Option (List Char × List Char) :=
  match closing? q s, s with
  | some p, _ => some p
  | none, [] => none
  | none, c :: rest =>
    if c = '\\' ∧ q.escapes then
      match escape? q.long rest with
      | some (x, n) => (quotedText? q (rest.drop n)).map fun p => (x ++ p.1, p.2)
      | none => none
    else if stands q c rest then (quotedText? q rest).map fun p => (c :: p.1, p.2)
    else none
termination_by s.length
decreasing_by
  all_goals simp only [List.length_cons, List.length_drop]; omega

/-- The text without a line end at its start, which does not belong to a string of several lines. -/
def dropFirstBreak : List Char → List Char
  | '\n' :: rest => rest
  | '\r' :: '\n' :: rest => rest
  | s => s

def shortString? : List Char → Option (List Char × List Char)
  | '"' :: rest => quotedText? ⟨'"', true, false⟩ rest
  | '\'' :: rest => quotedText? ⟨'\'', false, false⟩ rest
  | _ => none

def string? (s : List Char) : Option (List Char × List Char) :=
  match s with
  | '"' :: '"' :: '"' :: rest => quotedText? ⟨'"', true, true⟩ (dropFirstBreak rest)
  | '\'' :: '\'' :: '\'' :: rest => quotedText? ⟨'\'', false, true⟩ (dropFirstBreak rest)
  | s => shortString? s

def isKeyChar (c : Char) : Bool :=
  Text.isAsciiLetter c || Text.isAsciiDigit c || c == '_' || c == '-'

def key? (s : List Char) : Option (String × List Char) :=
  match s.takeWhile isKeyChar with
  | [] => (shortString? s).map fun p => (String.ofList p.1, p.2)
  | name => some (String.ofList name, s.dropWhile isKeyChar)

/-- The keys with dots between them at the start of a text, at most `fuel` of them, and the text after
them and the spaces that follow. -/
def keys? : Nat → List Char → Option (List String × List Char)
  | 0, _ => none
  | fuel + 1, s => do
    let (first, rest) ← key? (skipSpaces s)
    match skipSpaces rest with
    | '.' :: rest => do
      let (more, rest) ← keys? fuel rest
      some (first :: more, rest)
    | rest => some ([first], rest)

end Changelog.Toml
