/-!
# The fewest digits that identify a number

A finite binary64 value stands for all reals that round to it.  `shortest` selects, among the decimals in
that interval, one with the fewest digits, and of several the one nearest to the value.
-/

namespace Changelog.Decimal

/-- A finite value without its sign: `mantissa * 2 ^ exponent`. -/
structure Dyadic where
  mantissa : Nat
  exponent : Int
  /-- The value below is half as far away as the value above. -/
  narrowBelow : Bool

def Dyadic.ofBits (bits : UInt64) : Dyadic :=
  let e := ((bits >>> 52) &&& 0x7FF).toNat
  let f := (bits &&& 0xFFFFFFFFFFFFF).toNat
  if e = 0 then ⟨f, -1074, false⟩ else ⟨0x10000000000000 + f, (e : Int) - 1075, f = 0 ∧ e > 1⟩

/-- A decimal `digits * 10 ^ exponent`. -/
structure Numeral where
  digits : Nat
  exponent : Int
deriving DecidableEq, Repr

inductive Tie
  | up
  | toEven
deriving DecidableEq, Repr

/-- `a * 10 ^ i * 2 ^ j`, where an exponent below zero counts as zero. -/
def scaledUp (a : Nat) (i j : Int) : Nat := a * Nat.pow 10 i.toNat * Nat.pow 2 j.toNat

/-- The order of `a * 10 ^ i` and `n * 2 ^ j`: negative powers are moved to the other side. -/
def compareScaled (a : Nat) (i : Int) (n : Nat) (j : Int) : Ordering :=
  compare (scaledUp a i (-j)) (scaledUp n (-i) j)

/-- Whether the decimal lies among the reals that round to the value: between the midpoints to its
neighbours, which belong to the interval when the mantissa is even. -/
def Dyadic.identifiedBy (x : Dyadic) (d : Numeral) : Bool :=
  let low := if x.narrowBelow then 4 * x.mantissa - 1 else 4 * x.mantissa - 2
  let high := 4 * x.mantissa + 2
  let closed := x.mantissa % 2 == 0
  let atLow := compareScaled d.digits d.exponent low (x.exponent - 2)
  let atHigh := compareScaled d.digits d.exponent high (x.exponent - 2)
  (atLow == .gt || (closed && atLow == .eq)) && (atHigh == .lt || (closed && atHigh == .eq))

def digitCount (n : Nat) : Nat := (Nat.toDigits 10 n).length

/-- The least `k` with `x < 10 ^ k`, for a positive `x`. -/
def Dyadic.scale (x : Dyadic) : Int :=
  let num := scaledUp x.mantissa 0 x.exponent
  let den := scaledUp 1 0 (-x.exponent)
  let k : Int := (digitCount num : Int) - digitCount den
  if compareScaled 1 k x.mantissa x.exponent == .gt then k else k + 1

/-- The greatest multiple of `10 ^ e` that is at most `x`, in units of `10 ^ e`. -/
def Dyadic.floorAt (x : Dyadic) (e : Int) : Nat :=
  scaledUp x.mantissa (-e) x.exponent / scaledUp 1 e (-x.exponent)

/-- The neighbour of `x` on the grid of multiples of `10 ^ e` that identifies it, the nearer of two. -/
def Dyadic.onGrid? (x : Dyadic) (tie : Tie) (e : Int) : Option Numeral :=
  let below : Numeral := ⟨x.floorAt e, e⟩
  let above : Numeral := ⟨x.floorAt e + 1, e⟩
  match x.identifiedBy below, x.identifiedBy above with
  | false, false => none
  | true, false => some below
  | false, true => some above
  | true, true =>
    match compareScaled (2 * below.digits + 1) e (2 * x.mantissa) x.exponent, tie with
    | .gt, _ => some below
    | .lt, _ => some above
    | .eq, .up => some above
    | .eq, .toEven => some (if below.digits % 2 = 0 then below else above)

def Dyadic.exact (x : Dyadic) : Numeral :=
  ⟨scaledUp x.mantissa 0 x.exponent * Nat.pow 5 (-x.exponent).toNat, min x.exponent 0⟩

/-- The same decimal without zeros at its end, of which at most `fuel` are taken off. -/
def Numeral.strip (fuel : Nat) (d : Numeral) : Numeral :=
  match fuel with
  | 0 => d
  | fuel + 1 =>
    if d.digits ≠ 0 ∧ d.digits % 10 = 0 then strip fuel ⟨d.digits / 10, d.exponent + 1⟩ else d

/-- The decimal with the fewest digits that identifies a positive value. -/
def Dyadic.shortest (x : Dyadic) (tie : Tie) : Numeral :=
  let found := (List.range 17).findSome? fun (n : Nat) => x.onGrid? tie (x.scale - n - 1)
  let d := found.getD x.exact
  d.strip (digitCount d.digits)

end Changelog.Decimal
