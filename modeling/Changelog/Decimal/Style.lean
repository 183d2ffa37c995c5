import Changelog.Decimal.Shortest

namespace Changelog.Decimal

structure Style where
  /-- Exponents of the leading digit that are written positionally. -/
  positional : Int → Bool
  /-- Whole numbers end in `.0`. -/
  pointZero : Bool
  tie : Tie
  nan : String
  infinity : String
  negativeInfinity : String

/-- `digits * 10 ^ exponent` with a point and no exponent. -/
def positionalText (pointZero : Bool) (digits : List Char) (exponent : Int) : List Char :=
  let point := (digits.length : Int) + exponent
  if 0 ≤ exponent then
    digits ++ List.replicate exponent.toNat '0' ++ (if pointZero then ['.', '0'] else [])
  else if point ≤ 0 then '0' :: '.' :: List.replicate (-point).toNat '0' ++ digits
  else digits.take point.toNat ++ '.' :: digits.drop point.toNat

def scientificText (digits : List Char) (leading : Int) : List Char :=
  let mantissa :=
    match digits with
    | [] => []
    | [d] => [d]
    | d :: rest => d :: '.' :: rest
  mantissa ++ 'e' :: (if leading < 0 then '-' else '+') :: (Nat.toDigits 10 leading.natAbs)

def Style.decimalText (style : Style) (d : Numeral) : List Char :=
  let digits := Nat.toDigits 10 d.digits
  let leading := (digits.length : Int) + d.exponent - 1
  if style.positional leading then positionalText style.pointZero digits d.exponent
  else scientificText digits leading

def Style.text (style : Style) (x : Float) : String :=
  let bits := x.toBits
  let negative := bits >>> 63 == 1
  if x.isNaN then style.nan
  else if (bits >>> 52) &&& 0x7FF == 0x7FF then
    if negative then style.negativeInfinity else style.infinity
  else
    let magnitude := Dyadic.ofBits bits
    let d : Numeral := if magnitude.mantissa = 0 then ⟨0, 0⟩ else magnitude.shortest style.tie
    String.ofList ((if negative then ['-'] else []) ++ style.decimalText d)

end Changelog.Decimal
