import Changelog.Text.Blank
import Changelog.Text.Lines
import Changelog.Text.CodePoints

/-!
# Property files

An entry is a key and a value, apart by `=`, `:` or white space.  A line that ends in a backslash goes
on in the next one; lines that begin with `#` or `!` are comments.  Keys and values may hold escapes.
-/

namespace Changelog.PropertyFile

def replacement : Char := Char.ofNat 0xFFFD

def isHighUnit (u : Nat) : Bool := 0xD800 ≤ u && u < 0xDC00

def isLowUnit (u : Nat) : Bool := 0xDC00 ≤ u && u < 0xE000

/-- The characters that 16-bit units stand for; half a pair is replaced. -/
def decodeUnits : List Nat → List Char
  | [] => []
  | [u] => [if isHighUnit u || isLowUnit u then replacement else Char.ofNat u]
  | u :: v :: rest =>
    if isHighUnit u then
      if isLowUnit v then
        Char.ofNat (0x10000 + (u - 0xD800) * 0x400 + (v - 0xDC00)) :: decodeUnits rest
      else replacement :: decodeUnits (v :: rest)
    else (if isLowUnit u then replacement else Char.ofNat u) :: decodeUnits (v :: rest)

def unit? (digits : List Char) : Option Nat :=
  if digits.length = 4 ∧ digits.all (fun c => (Text.hexDigit? c).isSome) then
    some (Text.hexValue digits)
  else none

def unescapeChar (c : Char) : Char :=
  if c = 't' then '\t'
  else if c = 'n' then '\n'
  else if c = 'r' then '\r'
  else if c = 'f' then Char.ofNat 12
  else c

/-- The text with its escapes replaced.  `units` are those of the `\u` escapes just before it, kept so
that a pair of them makes one character; a `\u` without four digits stays as it is written. -/
def unescape (units : List Nat) (s : List Char) : List Char :=
  match s with
  | [] => decodeUnits units
  | '\\' :: 'u' :: rest =>
    match unit? (rest.take 4) with
    | some u => unescape (units ++ [u]) (rest.drop 4)
    | none => decodeUnits units ++ '\\' :: 'u' :: rest.take 4 ++ unescape [] (rest.drop 4)
  | ['\\'] => decodeUnits units
  | '\\' :: c :: rest => decodeUnits units ++ unescapeChar c :: unescape [] rest
  | c :: rest => decodeUnits units ++ c :: unescape [] rest
termination_by s.length
decreasing_by
  all_goals simp only [List.length_cons, List.length_drop]; omega

def endsKey (c : Char) : Bool := c == '=' || c == ':' || Text.isBlank c

/-- The text before the first character that ends a key and is not escaped, and the text from it on. -/
def splitKey : List Char → List Char × List Char
  | [] => ([], [])
  | '\\' :: c :: rest => ('\\' :: c :: (splitKey rest).1, (splitKey rest).2)
  | c :: rest => if endsKey c then ([], c :: rest) else (c :: (splitKey rest).1, (splitKey rest).2)

def dropSign : List Char → List Char
  | '=' :: rest => rest
  | ':' :: rest => rest
  | s => s

def entryOf (line : List Char) : String × String :=
  let value := Text.trimStart (dropSign (Text.trimStart (splitKey line).2))
  (String.ofList (unescape [] (splitKey line).1), String.ofList (unescape [] value))

/-- Sets the value of a key: in place if the key is there, else at the end. -/
def put : List (String × String) → String × String → List (String × String)
  | [], entry => [entry]
  | e :: rest, entry => if e.1 = entry.1 then (e.1, entry.2) :: rest else e :: put rest entry

/-- The line without the backslash by which it goes on in the next one. -/
def continued? (line : List Char) : Option (List Char) :=
  if (line.reverse.takeWhile (· == '\\')).length % 2 = 1 then some line.dropLast else none

def isIdle (line : List Char) : Bool :=
  match line with
  | [] => true
  | c :: _ => c == '#' || c == '!'

/-- The entries of physical lines; `pending` is the logical line begun so far. -/
def readLines (entries : List (String × String)) (pending : List Char) :
    List (List Char) → List (String × String)
  | [] => if pending = [] then entries else put entries (entryOf pending)
  | raw :: rest =>
    let line := Text.trimStart raw
    if pending = [] ∧ isIdle line then readLines entries [] rest
    else
      match continued? line with
      | some head => readLines entries (pending ++ head) rest
      | none => readLines (put entries (entryOf (pending ++ line))) [] rest

def read (text : String) : List (String × String) := readLines [] [] (Text.lines text.toList)

end Changelog.PropertyFile
