import Stencil.Problem
import Stencil.Value.Compare

/-! Arithmetic on values.

Two operands are brought to one form first. Integers are computed exactly within 128 bits and
fail outside, except that two integers of more than 64 bits without a sign are read as 128 bits with
one; with a float beside it an integer becomes a float. Division of integers by `//`
and `%` leaves a remainder that is never negative, and truth values count as one and zero. -/
namespace Stencil.Value

/-- The greatest size that fits a machine word. -/
def greatestSize : Int := Int.pow 2 64 - 1

/-- An integer, if arithmetic can yield it. -/
def computed (op : Arithmetic) (a b : Value) (n : Int) : Except Problem Value :=
  if isComputable n then .ok (.int n) else .error (.uncomputable op a b)

/-- The operands have no form in common. -/
def refused (op : Arithmetic) (a b : Value) : Except Problem Value :=
  .error (.unsupported op a.kind b.kind)

/-- Two operands of arithmetic brought to one form. An integer of 128 bits without a sign has a form
in common only with one that does not fit 64 bits either: that of 128 bits with a sign. -/
def terms? (rounding : Bool) (a b : Value) : Option Operands :=
  match a, b with
  | .int m, .int n =>
    if isComputable m && isComputable n then some (.ints m n)
    else if greatestSize < m && greatestSize < n then
      some (.ints (m.bmod (Nat.pow 2 128)) (n.bmod (Nat.pow 2 128)))
    else Option.none
  | a, b => operands? rounding a b

/-- Two operands in a form that `op` can work with. -/
def arithmetic (op : Arithmetic) (a b : Value) (ints : Int → Int → Except Problem Value)
    (floats : Float → Float → Float) : Except Problem Value :=
  match terms? true a b with
  | some (.ints m n) => ints m n
  | some (.floats x y) => .ok (.float (floats x y))
  | _ => refused op a b

/-- The sum of numbers, and texts or sequences put together. -/
def add (a b : Value) : Except Problem Value :=
  match a.items?, b.items? with
  | some xs, some ys =>
    .ok (.lazy (xs ++ ys) (a.length?.isSome && b.length?.isSome))
  | _, _ =>
    match a, b with
    | .text s _, .text t _ => .ok (ofString (s ++ t))
    | _, _ => arithmetic .add a b (fun m n => computed .add a b (m + n)) (· + ·)

/-- The difference of numbers. -/
def sub (a b : Value) : Except Problem Value :=
  arithmetic .sub a b (fun m n => computed .sub a b (m - n)) (· - ·)

/-- An integer in a range: integers, whole floats and truth values. -/
def toIntIn? (low high : Int) (v : Value) : Option Int :=
  let inRange := fun n : Int => if low ≤ n && n ≤ high then some n else Option.none
  match v with
  | .bool b => inRange (if b then 1 else 0)
  | .int n => inRange n
  | .float x =>
    match Decimal.whole? x with
    | some n =>
      let bound := Int.pow 2 63
      if -bound ≤ n && n ≤ bound then inRange (min n (bound - 1)) else Option.none
    | Option.none => Option.none
  | _ => Option.none

/-- A size: an integer that is not negative. -/
def toSize? (v : Value) : Option Nat := (v.toIntIn? 0 greatestSize).map Int.toNat

/-- A list `n` times over. -/
def repeated {α : Type} (n : Nat) (xs : List α) : List α :=
  (List.replicate n xs).flatten

/-- Items `n` times over, where `n` is a value. -/
def repeatItems (n items : Value) (xs : List Value) : Except Problem Value :=
  match n.toSize? with
  | Option.none => .error .listTimes
  | some k => if items.length?.isSome then .ok (.lazy (repeated k xs) true) else .error .endlessTimes

/-- The greatest number of bytes of a text that is repeated. -/
def longestText : Nat := 10000000

/-- A text `n` times over, where `n` is a value. -/
def repeatText (n : Value) (s : String) : Except Problem Value :=
  match n.toSize? with
  | Option.none => .error .textTimes
  | some k =>
    if s.isEmpty then .ok (ofString "")
    else if longestText < k * s.utf8ByteSize then .error .textTooLong
    else .ok (ofString (String.ofList (repeated k s.toList)))

/-- The product of numbers, and texts or sequences repeated. -/
def mul (a b : Value) : Except Problem Value :=
  match a.asText?, b.asText? with
  | some s, _ => repeatText b s
  | Option.none, some s => repeatText a s
  | Option.none, Option.none =>
    match a.items?, b.items? with
    | some xs, _ => repeatItems b a xs
    | Option.none, some ys => repeatItems a b ys
    | Option.none, Option.none =>
      arithmetic .mul a b (fun m n => computed .mul a b (m * n)) (· * ·)

/-- The quotient of numbers as a float. -/
def div (a b : Value) : Except Problem Value :=
  match asFloat? true a, asFloat? true b with
  | some x, some y => .ok (.float (x / y))
  | _, _ => refused .div a b

/-- The remainder of a division of floats toward zero, with the sign of the first. It is exact. -/
def floatRem (x y : Float) : Float :=
  match Decimal.Binary.of x, Decimal.Binary.of y with
  | .finite negative m e, .finite _ n f =>
    if n == 0 then 0.0 / 0.0
    else
      let low := min e f
      let r := (m * Nat.pow 2 (e - low).toNat) % (n * Nat.pow 2 (f - low).toNat)
      let size := (Float.ofNat r).scaleB low
      if negative then -size else size
  | .finite .., .infinite _ => x
  | _, _ => 0.0 / 0.0

/-- A float without its fraction. -/
def floatTrunc (x : Float) : Float := if x < 0.0 then x.ceil else x.floor

/-- The quotient of floats that leaves a remainder which is not negative. -/
def floatFloorDiv (x y : Float) : Float :=
  let q := floatTrunc (x / y)
  if floatRem x y < 0.0 then (if y > 0.0 then q - 1.0 else q + 1.0) else q

/-- The whole part of a quotient. -/
def floorDiv (a b : Value) : Except Problem Value :=
  arithmetic .floorDiv a b
    (fun m n =>
      if n == 0 then .error (.uncomputable .floorDiv a b) else computed .floorDiv a b (m / n))
    floatFloorDiv

/-- The remainder of a division. -/
def rem (a b : Value) : Except Problem Value :=
  arithmetic .rem a b
    (fun m n =>
      if n == 0 || (m == leastInt && n == -1) then .error (.uncomputable .rem a b)
      else .ok (.int (m % n)))
    floatRem

/-- A power of integers. Beyond the smallest bases, powers that are too large for arithmetic are
not computed at all. -/
def intPow? (m n : Int) : Option Int :=
  if n < 0 || n ≥ Int.pow 2 32 then Option.none
  else if m.natAbs ≤ 1 then
    some (if n == 0 then 1 else if m == -1 then (if n % 2 == 0 then 1 else -1) else m)
  else if n > 127 then Option.none
  else some (Int.pow m n.toNat)

/-- A power. -/
def pow (a b : Value) : Except Problem Value :=
  arithmetic .pow a b
    (fun m n =>
      match intPow? m n with
      | some r => computed .pow a b r
      | Option.none => .error (.uncomputable .pow a b))
    Float.pow

/-- The number with the other sign. -/
def neg (v : Value) : Except Problem Value :=
  match v with
  | .float x => .ok (.float (-x))
  | .int n =>
    if n == Int.pow 2 127 then .ok v
    else if !isComputable n then .error .notNegatable
    else if isComputable (-n) then .ok (.int (-n))
    else .error .negationOverflow
  | _ => .error .notNegatable

/-- What an operator yields. -/
def calculate (op : Arithmetic) (a b : Value) : Except Problem Value :=
  match op with
  | .add => add a b
  | .sub => sub a b
  | .mul => mul a b
  | .div => div a b
  | .floorDiv => floorDiv a b
  | .rem => rem a b
  | .pow => pow a b

/-- Two values as one text. -/
def concat (a b : Value) : Value := ofString (a.display ++ b.display)

end Stencil.Value
