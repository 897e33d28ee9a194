import Stencil.Decimal.Shortest

/-! Reading floating-point numbers.

A number is an optional sign, digits with at most one point among or around them, and an
optional power of ten; `inf`, `infinity` and `nan` are read in any case. The nearest `Float` is
taken, so writing the shortest digits and reading them back gives the number again. -/
namespace Stencil.Decimal

/-- The value of a list of decimal digits. -/
def natOfDigits (cs : List Char) : Nat :=
  cs.foldl (fun n c => n * 10 + (c.toNat - '0'.toNat)) 0

/-- The nearest `Float` to `digits * 10 ^ exponent`. Beyond a few hundred places either way the
answer is known without the power. -/
def nearest (digits : Nat) (exponent : Int) : Float :=
  if digits == 0 then 0.0
  else
    let point := exponent + Int.ofNat (width digits)
    if point > 400 then 1.0 / 0.0
    else if point < -400 then 0.0
    else
      match exponent with
      | .ofNat e => Float.ofScientific digits false e
      | .negSucc e => Float.ofScientific digits true (e + 1)

/-- A sign at the start, and what follows it. -/
def signed : List Char → Bool × List Char
  | '-' :: rest => (true, rest)
  | '+' :: rest => (false, rest)
  | rest => (false, rest)

/-- The power of ten at the end of a number. -/
def power? : List Char → Option Int
  | [] => some 0
  | c :: rest =>
    if c == 'e' || c == 'E' then
      let (negative, ds) := signed rest
      if !ds.isEmpty && ds.all Char.isDigit then
        let n := Int.ofNat (natOfDigits ds)
        some (if negative then -n else n)
      else none
    else none

/-- A number without its sign. -/
def unsigned? (cs : List Char) : Option Float :=
  let word := String.ofList (cs.map Char.toLower)
  if word == "inf" || word == "infinity" then some (1.0 / 0.0)
  else if word == "nan" then some (0.0 / 0.0)
  else
    let before := cs.takeWhile Char.isDigit
    let rest := cs.dropWhile Char.isDigit
    let (after, tail) := match rest with
      | '.' :: r => (r.takeWhile Char.isDigit, r.dropWhile Char.isDigit)
      | r => ([], r)
    if before.isEmpty && after.isEmpty then none
    else
      (power? tail).map fun p =>
        nearest (natOfDigits (before ++ after)) (p - Int.ofNat after.length)

/-- The number that a text spells. -/
def float? (s : String) : Option Float :=
  let (negative, rest) := signed s.toList
  (unsigned? rest).map fun x => if negative then -x else x

end Stencil.Decimal
