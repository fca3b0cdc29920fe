import ChatClient.Text.Number

/-!
The fewest decimal digits that tell a float from its neighbours. A float stands for every number
nearer to it than to another float, and for the two midpoints if its own significand is even. On the
grid of one digit, of two digits and so on, the first grid with a point that the float stands for
gives the digits; of two such points the nearer one counts.
-/
namespace ChatClient.Decimal

/-- A number that is not negative, as a quotient. -/
structure Ratio where
  num : Nat
  den : Nat

def Ratio.le (a b : Ratio) : Bool := a.num * b.den ≤ b.num * a.den

def Ratio.lt (a b : Ratio) : Bool := a.num * b.den < b.num * a.den

/-- `n` times `base` to the `e`. -/
def Ratio.power (n base : Nat) (e : Int) : Ratio :=
  if 0 ≤ e then ⟨n * base.pow e.toNat, 1⟩ else ⟨n, base.pow (-e).toNat⟩

/-- The numbers that a float stands for: from `low` to `high`, with both ends or without. -/
structure Interval where
  low : Ratio
  high : Ratio
  ends : Bool

def Interval.holds (i : Interval) (r : Ratio) : Bool :=
  if i.ends then i.low.le r && r.le i.high else i.low.lt r && r.lt i.high

/-- The place of the first digit: the least `p` with `r < 10 ^ p`, for `r` from 1 on. -/
def placesAbove (r : Ratio) : (fuel : Nat) → (p : Nat) → Nat
  | 0, p => p
  | fuel + 1, p => if r.num < r.den * Nat.pow 10 p then p else placesAbove r fuel (p + 1)

/-- How often a number below 1 is multiplied by ten until it reaches 1. -/
def placesBelow (r : Ratio) : (fuel : Nat) → (p : Nat) → Nat
  | 0, p => p
  | fuel + 1, p => if r.den ≤ r.num * Nat.pow 10 p then p else placesBelow r fuel (p + 1)

/-- The exponent `p` with `10 ^ (p - 1) ≤ r < 10 ^ p`, for a positive double. -/
def leadingPlace (r : Ratio) : Int :=
  if r.den ≤ r.num then placesAbove r 400 0 else 1 - (placesBelow r 400 0 : Int)

/-- The point of the grid of `n` digits that `i` holds and that is nearest to `r`: its digits, and
the power of ten that they count. The point above the last one of `n` digits is a one. -/
def gridPoint? (i : Interval) (r : Ratio) (place : Int) (n : Nat) : Option (Nat × Int) :=
  let unit := place - n
  let scaled : Ratio :=
    if 0 ≤ unit then ⟨r.num, r.den * Nat.pow 10 unit.toNat⟩
    else ⟨r.num * Nat.pow 10 (-unit).toNat, r.den⟩
  let below := scaled.num / scaled.den
  let excess := scaled.num % scaled.den
  let lower := i.holds (.power below 10 unit)
  let upper := i.holds (.power (below + 1) 10 unit)
  let upperNearer := scaled.den < 2 * excess || (2 * excess = scaled.den && below % 2 = 1)
  let above := if below + 1 = Nat.pow 10 n then (1, unit + n) else (below + 1, unit)
  if lower && upper then some (if upperNearer then above else (below, unit))
  else if lower then some (below, unit)
  else if upper then some above
  else none

/-- The first grid with a point, from `n` digits on. -/
def firstGrid (i : Interval) (r : Ratio) (place : Int) : (fuel : Nat) → (n : Nat) → Nat × Int
  | 0, _ => (0, 0)
  | fuel + 1, n => (gridPoint? i r place n).getD (firstGrid i r place fuel (n + 1))

/-- The shortest digits of `significand * 2 ^ exponent`, and the power of ten they count. The gap
below a power of two is half as wide unless the exponent is the least one. -/
def shortest (significand : Nat) (exponent : Int) (narrowBelow : Bool) : Nat × Int :=
  let quarter := Ratio.power
  let value := quarter (4 * significand) 2 (exponent - 2)
  let low := quarter (4 * significand - (if narrowBelow then 1 else 2)) 2 (exponent - 2)
  let high := quarter (4 * significand + 2) 2 (exponent - 2)
  firstGrid ⟨low, high, significand % 2 = 0⟩ value (leadingPlace value) 17 1

/-- The shortest digits of a positive double and the power of ten they count. -/
def shortestDigits (f : Float) : Nat × Int :=
  let bits := f.toBits.toNat
  let fraction : Nat := bits % Text.limit 52
  let biased : Nat := bits / Text.limit 52 % Text.limit 11
  if biased = 0 then shortest fraction (-1074) false
  else shortest (fraction + Text.limit 52) (biased - 1075) (fraction = 0 && 1 < biased)

end ChatClient.Decimal
