import Stencil.Decimal.Shortest

/-! Numbers with a fixed number of places.

The exact value is rounded to the nearest decimal with that many places; of two that are equally
near, the even one is taken. -/
namespace Stencil.Decimal

/-- The nearest natural number to a fraction; a tie goes to the even one. -/
def roundEven (num den : Nat) : Nat :=
  let q := num / den
  let r := num % den
  if 2 * r > den || (2 * r == den && q % 2 == 1) then q + 1 else q

/-- Digits with a point before the last `places` of them. -/
def pointed (places n : Nat) : List Char :=
  let whole := (toString (n / Nat.pow 10 places)).toList
  if places == 0 then whole
  else
    let part := (toString (n % Nat.pow 10 places)).toList
    whole ++ '.' :: (List.replicate (places - part.length) '0' ++ part)

/-- The sign of a number, and the number without it in a number of places. -/
def fixed (places : Nat) (x : Float) : Bool × List Char :=
  match Binary.of x with
  | .finite negative m e =>
    let (num, den) := fraction m e
    (negative, pointed places (roundEven (num * Nat.pow 10 places) den))
  | .infinite negative => (negative, "inf".toList)
  | .nan => (false, "nan".toList)

/-- The power of ten at or below a fraction that is not zero. -/
def magnitude (num den : Nat) : Int :=
  let guess := Int.ofNat (width num) - Int.ofNat (width den)
  let fits : Bool := match guess with
    | .ofNat g => decide (den * Nat.pow 10 g ≤ num)
    | .negSucc g => decide (den ≤ num * Nat.pow 10 (g + 1))
  if fits then guess else guess - 1

/-- The sign of a number, its first digits with a point behind the first, and the power of ten. -/
def scientific (places : Nat) (x : Float) : Bool × List Char × Int :=
  match Binary.of x with
  | .finite negative m e =>
    let (num, den) := fraction m e
    if num == 0 then (negative, pointed places 0, 0)
    else
      let p := magnitude num den
      let n := match p - Int.ofNat places with
        | .ofNat s => roundEven num (den * Nat.pow 10 s)
        | .negSucc s => roundEven (num * Nat.pow 10 (s + 1)) den
      if n == Nat.pow 10 (places + 1) then (negative, pointed places (n / 10), p + 1)
      else (negative, pointed places n, p)
  | .infinite negative => (negative, "inf".toList, 0)
  | .nan => (false, "nan".toList, 0)

end Stencil.Decimal
