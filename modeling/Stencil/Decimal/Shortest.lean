import Stencil.Decimal.Binary

/-! The fewest digits that read back.

A finite positive number stands for every real that rounds to it, an interval around it whose
ends belong to it when the mantissa is even. `shortest` takes the first of the grids of 1, 2, … 17
digits that has a point in the interval, and of two such points the nearer one. If any point of
a grid lies in the interval, so does a neighbour of the value on that grid, so only the two
neighbours are tried. All arithmetic is exact. -/
namespace Stencil.Decimal

/-- A positive number written as `digits * 10 ^ exponent`. -/
structure Digits where
  digits : Nat
  exponent : Int
  deriving DecidableEq, Repr

/-- The number of decimal digits of `n`. -/
def width (n : Nat) : Nat := (Nat.toDigits 10 n).length

/-- `a / b` against `c * 10 ^ e`: the first is at most the second. -/
def leGrid (a b c : Nat) (e : Int) : Bool :=
  match e with
  | .ofNat e => a ≤ c * Nat.pow 10 e * b
  | .negSucc e => a * Nat.pow 10 (e + 1) ≤ c * b

/-- `a / b` against `c * 10 ^ e`: the first is smaller than the second. -/
def ltGrid (a b c : Nat) (e : Int) : Bool :=
  match e with
  | .ofNat e => a < c * Nat.pow 10 e * b
  | .negSucc e => a * Nat.pow 10 (e + 1) < c * b

/-- The whole number of steps of `10 ^ e` in `a / b`. -/
def floorGrid (a b : Nat) (e : Int) : Nat :=
  match e with
  | .ofNat e => a / (b * Nat.pow 10 e)
  | .negSucc e => a * Nat.pow 10 (e + 1) / b

/-- The exponent of the first digit of `a / b`. -/
def leading (a b : Nat) : Int :=
  let guess : Int := Int.ofNat (width a) - Int.ofNat (width b)
  if ltGrid a b 1 guess then guess - 1 else guess

/-- The reals that round to a number: a lower and an upper end over one denominator. -/
structure Interval where
  low : Nat
  value : Nat
  high : Nat
  den : Nat
  closed : Bool
  deriving DecidableEq, Repr

/-- The interval of `mantissa * 2 ^ exponent`. The step below a power of two is half as wide. -/
def Interval.of (mantissa : Nat) (exponent : Int) : Interval :=
  let (num, den) := fraction mantissa (exponent - 2)
  let unit := num / mantissa
  let below := if mantissa == Nat.pow 2 52 && exponent > -1074 then unit else 2 * unit
  { low := 4 * num - below, value := 4 * num, high := 4 * num + 2 * unit, den
    closed := mantissa % 2 == 0 }

/-- `d * 10 ^ e` lies in the interval. -/
def Interval.holds (i : Interval) (d : Nat) (e : Int) : Bool :=
  if i.closed then leGrid i.low i.den d e && !ltGrid i.high i.den d e
  else ltGrid i.low i.den d e && !leGrid i.high i.den d e

/-- `d` is at least as near to the value as `d + 1`: twice the value is at most `2 * d + 1`. -/
def Interval.nearLower (i : Interval) (d : Nat) (e : Int) : Bool :=
  leGrid (2 * i.value) i.den (2 * d + 1) e

/-- A point of the grid of `n` digits in the interval, the nearest if there are two. -/
def Interval.onGrid (i : Interval) (lead : Int) (n : Nat) : Option Digits :=
  let e := lead - Int.ofNat n + 1
  let d := floorGrid i.value i.den e
  match i.holds d e, i.holds (d + 1) e with
  | true, true => some ⟨if i.nearLower d e then d else d + 1, e⟩
  | true, false => some ⟨d, e⟩
  | false, true => some ⟨d + 1, e⟩
  | false, false => none

/-- A point without trailing zeros; `fuel` bounds their number. -/
def Digits.trim : (fuel : Nat) → Digits → Digits
  | 0, d => d
  | fuel + 1, d =>
    if d.digits % 10 == 0 && d.digits != 0 then trim fuel ⟨d.digits / 10, d.exponent + 1⟩ else d

/-- The fewest digits that read back as `mantissa * 2 ^ exponent`, for a positive mantissa. -/
def shortest (mantissa : Nat) (exponent : Int) : Digits :=
  let i := Interval.of mantissa exponent
  let lead := leading i.value i.den
  let found := (List.range 17).findSome? fun n => i.onGrid lead (n + 1)
  (found.getD ⟨floorGrid i.value i.den (lead - 16), lead - 16⟩).trim 20

end Stencil.Decimal
