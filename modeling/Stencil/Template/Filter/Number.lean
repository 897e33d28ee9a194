import Stencil.Template.Args

/-! Filters that make numbers. -/
namespace Stencil.Template.Filter

/-- The nearest integer that arithmetic can work with to a float without its fraction. -/
def saturated (x : Float) : Int :=
  match Decimal.Binary.of x with
  | .nan => 0
  | .infinite negative => if negative then Value.leastInt else Value.greatestInt
  | .finite .. => max Value.leastInt (min Value.greatestInt ((Decimal.truncate? x).getD 0))

/-- The integer that a text spells in full. -/
def integerOf? (cs : List Char) : Option Int :=
  let (negative, ds) := Decimal.signed cs
  if ds.isEmpty || !ds.all Char.isDigit then none
  else
    let n := Int.ofNat (Decimal.natOfDigits ds)
    let n := if negative then -n else n
    if Value.isComputable n then some n else none

/-- The number that a text spells. -/
def numberOf (s : String) : Except Problem Float :=
  match Decimal.float? s with
  | some x => .ok x
  | none => .error (.notFloat s.isEmpty)

/-- A value as an integer. -/
def int (v : Value) : Except Problem Value :=
  match v with
  | .undefined | .none => .ok (.int 0)
  | .bool b => .ok (.int (if b then 1 else 0))
  | .int _ => .ok v
  | .float x => .ok (.int (saturated x))
  | .text s _ =>
    match integerOf? s.toList with
    | some n => .ok (.int n)
    | none => (numberOf s).map fun x => .int (saturated x)
  | _ => .error (.notConvertible v.kind "integer")

/-- A value as a float. -/
def float (v : Value) : Except Problem Value :=
  match v with
  | .undefined | .none => .ok (.float 0.0)
  | .text s _ => (numberOf s).map .float
  | _ =>
    match v.asFloat? true with
    | some x => .ok (.float x)
    | none => .error (.notConvertible v.kind "float")

/-- A number without its sign. -/
def abs (v : Value) : Except Problem Value :=
  match v with
  | .int n =>
    if Value.isComputable n && !Value.isComputable n.natAbs then .error .absoluteOverflow
    else .ok (.int n.natAbs)
  | .float x => .ok (.float x.abs)
  | _ => .error .noAbsolute

/-- A power of ten by repeated squaring. -/
def tenTo : (fuel : Nat) → (result base : Float) → Nat → Float
  | 0, result, _, _ => result
  | fuel + 1, result, base, n =>
    let result := if n % 2 == 1 then result * base else result
    if n / 2 == 0 then result else tenTo fuel result (base * base) (n / 2)

/-- A power of ten. -/
def powerOfTen (n : Int) : Float :=
  let x := tenTo 40 1.0 10.0 n.natAbs
  if n < 0 then 1.0 / x else x

/-- A number rounded to some places; a half goes away from zero. -/
def round (v : Value) (places : Int) : Except Problem Value :=
  match v with
  | .int _ => .ok v
  | .float x =>
    let scale := powerOfTen places
    .ok (.float ((scale * x).round / scale))
  | _ => .error (.notRoundable v.kind)

/-- The sum of numbers; missing ones are left out. -/
def sum (v : Value) : Except Problem Value := do
  let items ← v.walk
  items.foldlM (fun total item =>
    if item.isUndefined then .ok total
    else if item.kind == .number then total.add item
    else .error (.notAddable item.kind)) (.int 0)

end Stencil.Template.Filter
