import Changelog.Text.Alphabet
import Changelog.Text.CodePoints
import Changelog.Source.Literal
import Changelog.Toml.Basic

/-!
# TOML scalars

Booleans, numbers and moments.  Underscores may stand between the digits of a number, and a number does
not begin with a needless zero.
-/

namespace Changelog.Toml

open Changelog.Text (isAsciiDigit)

/-- Whether a text is a run of digits, with single underscores between some of them. -/
def isDigitRun (isDigit : Char → Bool) : List Char → Bool
  | [] => false
  | [c] => isDigit c
  | c :: '_' :: rest => isDigit c && isDigitRun isDigit rest
  | c :: rest => isDigit c && isDigitRun isDigit rest

def numberOf (base : Nat) (digits : List Char) : Nat :=
  digits.foldl (fun n c => if c = '_' then n else n * base + (Text.hexDigit? c).getD 0) 0

/-- The number that a text writes with the digits of a base below ten or with hexadecimal ones. -/
def basedNumber? (base : Nat) (s : List Char) : Option Nat :=
  if isDigitRun (fun c => ((Text.hexDigit? c).any (· < base))) s then some (numberOf base s) else none

def natural? (s : List Char) : Option Nat :=
  if s.head? = some '0' ∧ s ≠ ['0'] then none
  else if isDigitRun isAsciiDigit s then some (numberOf 10 s)
  else none

def splitSign : List Char → Bool × List Char
  | '-' :: rest => (true, rest)
  | '+' :: rest => (false, rest)
  | s => (false, s)

/-- Whether an integer fits 128 bits. -/
def fits (i : Int) : Bool :=
  -0x80000000000000000000000000000000 ≤ i && i < 0x100000000000000000000000000000000

def integer? (s : List Char) : Option Int :=
  let written : Option Int :=
    match s with
    | '0' :: 'x' :: rest => (basedNumber? 16 rest).map Int.ofNat
    | '0' :: 'o' :: rest => (basedNumber? 8 rest).map Int.ofNat
    | '0' :: 'b' :: rest => (basedNumber? 2 rest).map Int.ofNat
    | _ =>
      let (negative, digits) := splitSign s
      (natural? digits).map fun n => if negative then -(n : Int) else n
  written.filter fits

/-- The fraction of a number: its digits, or none where there is no point. -/
def fraction? : List Char → Option (List Char)
  | [] => some []
  | _ :: digits => if isDigitRun isAsciiDigit digits then some (digits.filter (· != '_')) else none

/-- The exponent of a number: zero where there is none. -/
def exponent? : List Char → Option Int
  | [] => some 0
  | _ :: rest =>
    let (negative, digits) := splitSign rest
    if isDigitRun isAsciiDigit digits then
      some (if negative then -(numberOf 10 digits : Int) else numberOf 10 digits)
    else none

def isExponentMark (c : Char) : Bool := c == 'e' || c == 'E'

def scaled (digits : Nat) (exponent : Int) : Float :=
  Float.ofScientific digits (exponent < 0) exponent.natAbs

/-- The number that a text without a sign writes with a point or an exponent; one too great for a double
is none. -/
def magnitude? (s : List Char) : Option Float := do
  let mantissa := s.takeWhile fun c => !isExponentMark c
  let whole := mantissa.takeWhile (· != '.')
  if s.all fun c => c != '.' && !isExponentMark c then none
  else
    let _ ← natural? whole
    let fraction ← fraction? (mantissa.dropWhile (· != '.'))
    let exponent ← exponent? (s.dropWhile fun c => !isExponentMark c)
    let x := scaled (numberOf 10 (whole ++ fraction)) (exponent - fraction.length)
    if x.isInf then none else some x

def float? (s : List Char) : Option Float :=
  let (negative, rest) := splitSign s
  let written : Option Float :=
    if rest = "inf".toList then some (1.0 / 0.0)
    else if rest = "nan".toList then some (0.0 / 0.0)
    else magnitude? rest
  written.map fun x => if negative then -x else x

def digits? (count : Nat) (s : List Char) : Option (Nat × List Char) :=
  if (s.take count).length = count ∧ (s.take count).all isAsciiDigit then
    some (numberOf 10 (s.take count), s.drop count)
  else none

def after? (c : Char) : List Char → Option (List Char)
  | d :: rest => if d = c then some rest else none
  | [] => none

def daysIn (year month : Nat) : Nat :=
  if month = 2 then
    if year % 4 = 0 ∧ (year % 100 ≠ 0 ∨ year % 400 = 0) then 29 else 28
  else if [4, 6, 9, 11].contains month then 30
  else 31

def afterDate? (s : List Char) : Option (List Char) := do
  let (year, s) ← digits? 4 s
  let (month, s) ← digits? 2 (← after? '-' s)
  let (day, s) ← digits? 2 (← after? '-' s)
  if 1 ≤ month ∧ month ≤ 12 ∧ 1 ≤ day ∧ day ≤ daysIn year month then some s else none

def afterFraction? : List Char → Option (List Char)
  | '.' :: rest =>
    if rest.takeWhile isAsciiDigit = [] then none else some (rest.dropWhile isAsciiDigit)
  | s => some s

def afterSeconds? : List Char → Option (List Char)
  | ':' :: rest => do
    let (second, s) ← digits? 2 rest
    if second ≤ 60 then afterFraction? s else none
  | s => some s

def afterTime? (s : List Char) : Option (List Char) := do
  let (hour, s) ← digits? 2 s
  let (minute, s) ← digits? 2 (← after? ':' s)
  if hour ≤ 23 ∧ minute ≤ 59 then afterSeconds? s else none

/-- Whether a text is nothing or the distance of a time of day from the universal one. -/
def isOffset : List Char → Bool
  | [] => true
  | ['Z'] => true
  | ['z'] => true
  | sign :: rest =>
    (sign == '+' || sign == '-') &&
      match afterTime? rest with
      | some [] => rest.length = 5
      | _ => false

def isMoment (s : List Char) : Bool :=
  match afterDate? s with
  | some [] => true
  | some (mark :: rest) =>
    (mark == 'T' || mark == 't' || mark == ' ') && (afterTime? rest).any isOffset
  | none => (afterTime? s).any (·.isEmpty)

def isScalarChar (c : Char) : Bool :=
  Text.isAsciiLetter c || isAsciiDigit c || c == '_' || c == '+' || c == '-' || c == '.' || c == ':'

/-- The characters of the scalar at the start of a text; a date and a time may have a space between
them. -/
def scalarText (s : List Char) : List Char :=
  let first := s.takeWhile isScalarChar
  match afterDate? first, s.drop first.length with
  | some [], ' ' :: rest =>
    if (rest.head?).any isAsciiDigit then first ++ ' ' :: rest.takeWhile isScalarChar else first
  | _, _ => first

def scalarOf? (s : List Char) : Option Toml :=
  if s = "true".toList then some (.boolean true)
  else if s = "false".toList then some (.boolean false)
  else
    match integer? s, float? s with
    | some i, _ => some (.integer i)
    | none, some x => some (.float x)
    | none, none => if isMoment s then some (.moment (String.ofList s)) else none

def scalar? (s : List Char) : Option (Toml × List Char) :=
  (scalarOf? (scalarText s)).map fun v => (v, s.drop (scalarText s).length)

end Changelog.Toml
