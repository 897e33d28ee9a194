/-! The exact value of a binary floating-point number.

A finite `Float` is a whole number times a power of two. `Binary.of` reads both from the bits, so
that questions about the number (is it whole, what are its digits) are questions about naturals
and have exact answers. -/
namespace Stencil.Decimal

/-- A floating-point number, read exactly: a sign, then `mantissa * 2 ^ exponent`, or no
number. -/
inductive Binary where
  | finite (negative : Bool) (mantissa : Nat) (exponent : Int)
  | infinite (negative : Bool)
  | nan
  deriving DecidableEq, Repr

/-- Reads the fields of the bit pattern. -/
def Binary.ofBits (bits : UInt64) : Binary :=
  let n := bits.toNat
  let negative := n / Nat.pow 2 63 == 1
  let biased := n / Nat.pow 2 52 % Nat.pow 2 11
  let fraction := n % Nat.pow 2 52
  if biased == 0x7FF then
    if fraction == 0 then .infinite negative else .nan
  else if biased == 0 then .finite negative fraction (-1074)
  else .finite negative (Nat.pow 2 52 + fraction) (Int.ofNat biased - 1075)

/-- The exact value of `x`. -/
def Binary.of (x : Float) : Binary := .ofBits x.toBits

/-- `mantissa * 2 ^ exponent` as a fraction. -/
def fraction (mantissa : Nat) (exponent : Int) : Nat × Nat :=
  match exponent with
  | .ofNat e => (mantissa * Nat.pow 2 e, 1)
  | .negSucc e => (mantissa, Nat.pow 2 (e + 1))

/-- The integer next to `x` toward zero, if `x` is finite. -/
def truncate? (x : Float) : Option Int :=
  match Binary.of x with
  | .finite negative m e =>
    let (num, den) := fraction m e
    let n := Int.ofNat (num / den)
    some (if negative then -n else n)
  | _ => none

/-- The integer that `x` is, if it is one. -/
def whole? (x : Float) : Option Int :=
  match Binary.of x with
  | .finite negative m e =>
    let (num, den) := fraction m e
    if num % den == 0 then
      let n := Int.ofNat (num / den)
      some (if negative then -n else n)
    else none
  | _ => none

end Stencil.Decimal
