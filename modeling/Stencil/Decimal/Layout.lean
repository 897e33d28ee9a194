import Stencil.Decimal.Shortest

/-! Writing floating-point numbers.

Every output shape writes the same shortest digits; a `Layout` says where the decimal point may
stand before a power of ten is split off, and how values that are no numbers are spelled. -/
namespace Stencil.Decimal

/-- The decisions of one output shape. A number is `0.d… * 10 ^ point`; it is written with a plain
decimal point while `point` is in the range, and with a power of ten outside it. -/
structure Layout where
  lowest : Option Int
  highest : Option Int
  nan : String
  infinity : String
  /-- A power of ten that is not negative has a sign too. -/
  signsPower : Bool := false
  deriving Repr

/-- `n` zeros. -/
def zeros (n : Nat) : String := "".pushn '0' n

/-- Digits with a plain decimal point, with at least one digit on each side of it. -/
def Digits.positional (d : Digits) : String :=
  let ds := toString d.digits
  match d.exponent with
  | .ofNat e => ds ++ zeros e ++ ".0"
  | .negSucc e =>
    let places := e + 1
    let cs := ds.toList
    if places < cs.length then
      String.ofList (cs.take (cs.length - places)) ++ "." ++
        String.ofList (cs.drop (cs.length - places))
    else "0." ++ zeros (places - cs.length) ++ ds

/-- Digits with a power of ten split off and one digit before the point. -/
def Digits.scientific (signsPower : Bool) (d : Digits) : String :=
  let cs := (toString d.digits).toList
  let power := d.exponent + Int.ofNat cs.length - 1
  let mantissa := if cs.length ≤ 1 then cs else cs.take 1 ++ '.' :: cs.drop 1
  let sign := if signsPower && 0 ≤ power then "+" else ""
  String.ofList mantissa ++ "e" ++ sign ++ toString power

/-- The position of the decimal point, counted from the first digit. -/
def Digits.point (d : Digits) : Int := d.exponent + Int.ofNat (width d.digits)

/-- The layout writes a number with this point plainly. -/
def Layout.isPlain (l : Layout) (point : Int) : Bool :=
  l.lowest.all (· ≤ point) && l.highest.all (point ≤ ·)

/-- `x` as the layout writes it. -/
def Layout.render (l : Layout) (x : Float) : String :=
  match Binary.of x with
  | .nan => l.nan
  | .infinite negative => (if negative then "-" else "") ++ l.infinity
  | .finite negative m e =>
    let body :=
      if m == 0 then "0.0"
      else
        let d := shortest m e
        if l.isPlain d.point then d.positional else d.scientific l.signsPower
    (if negative then "-" else "") ++ body

/-- Values on display: never a power of ten. -/
def onDisplay : Layout := ⟨none, none, "NaN", "inf", false⟩

/-- Values inside a container: plain from `1e-4` up to, but not including, `1e16`. -/
def nested : Layout := ⟨some (-3), some 16, "NaN", "inf", false⟩

/-- Data documents: plain from `1e-5` up to, but not including, `1e16`; there is no way to
write what is not a number. -/
def inDocument : Layout := ⟨some (-4), some 16, "null", "null", false⟩

/-- Data documents in JSON sign the power of ten in any case. -/
def inJson : Layout := { inDocument with signsPower := true }

end Stencil.Decimal
